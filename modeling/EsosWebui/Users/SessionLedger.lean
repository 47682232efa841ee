import EsosWebui.Users.AdminRoutes
import EsosWebui.Users.Writes

/-! Sessions: the tokens that logins issue, what is checked of them, and the requests that are made
with them. A ledger keeps, beside the table of accounts, when their rows were read and changed. -/
namespace EsosWebui.Users

open Js

structure SessionPayload where
  userId : Text
  username : Text
  role : UserRole
  sessionVersion : Nat
  deriving DecidableEq

def sessionPayload (user : UserRow) : SessionPayload where
  userId := user.id
  username := user.username
  role := user.role
  sessionVersion := user.sessionVersion

/-- A token, with the turn in which the login read the row that it was signed for. -/
structure Issued where
  payload : SessionPayload
  readAt : Nat

/-- The row of an account lost its password, its role or its activity, or is gone. -/
def revokes (before after : Option UserRow) : Bool :=
  match before, after with
  | none, _ => false
  | some _, none => true
  | some u, some u' =>
    u'.passwordHash != u.passwordHash || u'.role != u.role || (u.active && !u'.active)

def raises (before after : Option UserRow) : Bool :=
  match before, after with
  | some u, some u' => u.sessionVersion < u'.sessionVersion
  | _, _ => false

/-- The accounts and the tokens issued for them. `clock` counts the turns; of each account it is
known after which turn it was last revoked, and its session version last raised. `used` has every
identifier that an account ever had. -/
structure Ledger where
  table : UserTable
  clock : Nat
  revokedAt : Text → Nat
  raisedAt : Text → Nat
  used : List Text
  issued : List Issued

namespace Ledger

def start (table : UserTable) : Ledger where
  table
  clock := 0
  revokedAt := fun _ => 0
  raisedAt := fun _ => 0
  used := table.rows.map (·.id)
  issued := []

def write (f : UserTable → UserTable) (s : Ledger) : Ledger :=
  { s with
    table := f s.table
    clock := s.clock + 1
    revokedAt := fun id =>
      if revokes (s.table.getUserById id) ((f s.table).getUserById id) then s.clock + 1
      else s.revokedAt id
    raisedAt := fun id =>
      if raises (s.table.getUserById id) ((f s.table).getUserById id) then s.clock + 1
      else s.raisedAt id
    used := s.used ++ (f s.table).rows.map (·.id) }

def issue (token : Issued) (s : Ledger) : Ledger := { s with issued := s.issued ++ [token] }

end Ledger

inductive SessionAuthFailureCode where
  | missingToken
  | invalidToken
  | userNotFound
  | inactive
  | sessionRevoked

def mapSessionAuthFailureToHttp : SessionAuthFailureCode → HttpError
  | .missingToken => ⟨401, "Non authentifié", none⟩
  | .invalidToken => ⟨401, "Session expirée", none⟩
  | .userNotFound => ⟨401, "Compte introuvable", none⟩
  | .inactive => ⟨403, "Compte désactivé. Contactez un administrateur.", none⟩
  | .sessionRevoked => ⟨401, "Session révoquée. Reconnectez-vous.", none⟩

/-- A token cannot be forged: it is valid if it was issued. -/
def Ledger.verifySession (s : Ledger) (payload : SessionPayload) : Bool :=
  s.issued.any (·.payload == payload)

def Ledger.authenticateSessionFromToken (s : Ledger) (token : Option SessionPayload) :
    Except SessionAuthFailureCode UserRow :=
  match token with
  | none => .error .missingToken
  | some payload =>
    if !s.verifySession payload then .error .invalidToken
    else
      match s.table.getUserById payload.userId with
      | none => .error .userNotFound
      | some user =>
        if !user.active then .error .inactive
        else if user.sessionVersion != payload.sessionVersion then .error .sessionRevoked
        else .ok user

abbrev Web := Async Ledger HttpError

/-- An await that only reads. -/
def query {α : Type} (f : Ledger → α) : Web α := .turn (·.write id) fun s => .done (f s)

/-- A turn that a request has had, with the table it found and the one it left. -/
structure OwnTurn where
  clock : Nat
  found : UserTable
  left : UserTable

/-- A request on the ledger, which remembers its turns, the latest first. -/
def timed {α : Type} : Db α → List OwnTurn → Web (α × List OwnTurn)
  | .done a, turns => .done (a, turns)
  | .failed e, _ => .failed e
  | .turn write next, turns => .turn (·.write write) fun s =>
    timed (next s.table) (⟨s.clock, s.table, write s.table⟩ :: turns)

def onLedger (p : Db Unit) : Web Unit := do
  let _ ← timed p []
  return ()

/-- The turn in which a login read the row that it returns. A new row is read back as it is
inserted; every other one is touched once it was read. -/
def readTurn (user : UserRow) : List OwnTurn → Nat
  | [] => 0
  | last :: earlier =>
    if (last.found.getUserById user.id).isNone && (last.left.getUserById user.id).isSome then
      last.clock
    else (earlier.head?.map (·.clock)).getD last.clock

def setSessionCookieForUser (user : UserRow) (readAt : Nat) : Web Unit :=
  .turn (fun s => (s.write id).issue ⟨sessionPayload user, readAt⟩) fun _ => .done ()

def refusing {α : Type} (statusCode : Nat) (message : String)
    (data : Option (String × String)) : Web α :=
  .failed ⟨statusCode, message, data⟩

/-- A login by password; `verifies` tells which of the stored hashes the password has. -/
structure LocalLogin where
  username : Text
  verifies : Text → Bool

namespace LocalLogin

variable (login : LocalLogin)

def isValid (user : UserRow) : Bool :=
  user.authSource == .localAccount &&
    user.passwordHash.any fun hash => !hash.isEmpty && login.verifies hash

def found (user : UserRow) (readAt : Nat) : Web Unit := do
  let valid ← query fun _ => login.isValid user
  if !valid then
    refusing 401 "Identifiants incorrects" (some ("code", "auth.invalid_credentials"))
  else if !user.active then
    refusing 403 "Compte désactivé. Contactez un administrateur." (some ("code", "auth.inactive"))
  else setSessionCookieForUser user readAt

/-- `POST /api/auth/login` -/
def handler : Web Unit := do
  let (user, readAt) ← query fun s => (s.table.getUserByUsername login.username, s.clock)
  match user with
  | none => refusing 401 "Identifiants incorrects" (some ("code", "auth.invalid_credentials"))
  | some user => login.found user readAt

end LocalLogin

/-- `POST /api/auth/ldap/login`, once the directory has authenticated the user -/
def LdapLogin.handler (login : LdapLogin) (fresh : Fresh) : Web Unit := do
  let (user, turns) ← timed (login.resolve fresh) []
  if !user.active then
    refusing 401 "Identifiants incorrects" (some ("code", "auth.invalid_credentials"))
  else setSessionCookieForUser user (readTurn user turns)

/-- What a request with a session does. -/
inductive Action where
  | changePassword (newHash : Text)
  | resetPassword (id newHash : Text)
  | patch (id : Text) (input : UserPatch)
  | delete (id : Text)
  | provision (users : List (ProvisionLdapUserInput × Fresh)) (providers : AuthProviders)
  | other

/-- What `enforceApiRbac` asks for. -/
def Action.adminOnly : Action → Bool
  | changePassword _ | other => false
  | _ => true

def Action.program (currentUser : Text) : Action → Db Unit
  | changePassword newHash => PasswordChange.handler currentUser newHash
  | resetPassword id newHash => PasswordReset.handler id newHash
  | patch id input => input.handler id currentUser
  | delete id => UserDeletion.handler id currentUser
  | provision users providers => do
      let _ ← provisionLdapUsers providers users
      return ()
  | other => return ()

/-- The middleware `auth.ts`, and the handler behind it -/
def authenticated (token : Option SessionPayload) (action : Action) : Web Unit := do
  let auth ← query fun s => s.authenticateSessionFromToken token
  match auth with
  | .error code => .failed (mapSessionAuthFailureToHttp code)
  | .ok user =>
    if action.adminOnly && user.role != .admin then
      refusing 403 "Accès refusé. Rôle requis : admin." none
    else onLedger (action.program user.id)

inductive SessionRequest where
  | localLogin (login : LocalLogin)
  | ldapLogin (login : LdapLogin) (fresh : Fresh)
  | authenticated (token : Option SessionPayload) (action : Action)

def SessionRequest.program : SessionRequest → Web Unit
  | localLogin login => login.handler
  | ldapLogin login fresh => login.handler fresh
  | authenticated token action => Users.authenticated token action

/-! What the turns of requests do to the ledger: versions only grow, and a token that a login takes
from a row has the version of the account until it is raised. -/

namespace UserTable

variable {t : UserTable} {k : Text}

theorem getUserById_update (id : Text) (set : UserRow → UserRow) :
    (t.update id set).getUserById k =
      (t.getUserById k).map fun u => if u.id = id then { set u with id := u.id } else u := by
  show (t.rows.map _).find? _ = (t.rows.find? _).map _
  rw [List.find?_map]
  congr 2
  funext u
  show ((if u.id = id then { set u with id := u.id } else u).id == k) = (u.id == k)
  split <;> rfl

theorem getUserById_deleteUser {id : Text} {u : UserRow}
    (h : (t.deleteUser id).getUserById k = some u) : t.getUserById k = some u := by
  obtain ⟨hMem, rfl⟩ := mem_of_getUserById h
  exact getUserById_of_mem (List.mem_of_mem_filter hMem)

theorem getUserById_insert {row u : UserRow} (h : t.getUserById k = some u) :
    (t.insert row).1.getUserById k = some u := by
  unfold insert
  split
  · exact h
  · split
    · exact h
    · show (t.rows ++ [row]).find? _ = some u
      rw [List.find?_append, show t.rows.find? _ = some u from h]
      rfl

end UserTable

/-- The version of every account that stays is related to the one it had. -/
def Versions (R : Nat → Nat → Prop) (t t' : UserTable) : Prop :=
  ∀ id u u', t.getUserById id = some u → t'.getUserById id = some u' →
    R u.sessionVersion u'.sessionVersion

abbrev VersionsKept : UserTable → UserTable → Prop := Versions (· ≤ ·)

theorem versions_refl {R : Nat → Nat → Prop} (hRefl : ∀ n, R n n) (t : UserTable) :
    Versions R t t := by
  intro id u u' hu hu'
  obtain rfl := Option.some.inj (hu.symm.trans hu')
  exact hRefl _

theorem versions_update {R : Nat → Nat → Prop} (hRefl : ∀ n, R n n) {t : UserTable} (id : Text)
    {set : UserRow → UserRow} (hSet : ∀ u, R u.sessionVersion (set u).sessionVersion) :
    Versions R t (t.update id set) := by
  intro k u u' hu hu'
  rw [UserTable.getUserById_update, hu] at hu'
  obtain rfl := Option.some.inj hu'
  show R u.sessionVersion (if u.id = id then { set u with id := u.id } else u).sessionVersion
  split
  · exact hSet u
  · exact hRefl _

theorem versions_loginWrite {t t' : UserTable} (h : LoginWrite t t') : Versions (· = ·) t t' := by
  have hRefl : ∀ n : Nat, n = n := fun _ => rfl
  cases h with
  | read => exact versions_refl hRefl t
  | touched userId now => exact versions_update hRefl userId fun _ => rfl
  | linked userId authSource issuer subject =>
    unfold UserTable.linkUserToFederatedIdentity
    split
    · exact versions_refl hRefl t
    · exact versions_update hRefl userId fun _ => rfl
  | created row =>
    intro k u u' hu hu'
    rw [UserTable.getUserById_insert hu] at hu'
    rw [Option.some.inj hu']

theorem versionsKept_of_write {t t' : UserTable} (h : UserWrite t t') : VersionsKept t t' := by
  have hUpdate : ∀ (id : Text) (set : UserRow → UserRow),
      (∀ u, u.sessionVersion ≤ (set u).sessionVersion) → VersionsKept t (t.update id set) :=
    fun id set hSet => versions_update le_refl id hSet
  cases h with
  | login h => exact fun id u u' hu hu' => le_of_eq (versions_loginWrite h id u u' hu hu')
  | patched id input => exact hUpdate id _ fun u => le_refl u.sessionVersion
  | provisioned id input => exact hUpdate id _ fun u => le_refl u.sessionVersion
  | raised id => exact hUpdate id _ fun u => Nat.le_succ u.sessionVersion
  | passwordSet id newHash => exact hUpdate id _ fun u => le_refl u.sessionVersion
  | passwordReset id newHash => exact hUpdate id _ fun u => le_refl u.sessionVersion
  | deleted id =>
    intro k u u' hu hu'
    rw [Option.some.inj (hu.symm.trans (UserTable.getUserById_deleteUser hu'))]

namespace Ledger

variable {s s' : Ledger} {token : Issued}

/-- No version was raised in the future, and no row has an unused identifier. -/
structure Sound (s : Ledger) : Prop where
  raised : ∀ id, s.raisedAt id ≤ s.clock
  used : ∀ u ∈ s.table.rows, u.id ∈ s.used

structure Valid (s : Ledger) (token : Issued) : Prop where
  readAt : token.readAt ≤ s.clock
  used : token.payload.userId ∈ s.used
  version : ∀ u, s.table.getUserById token.payload.userId = some u →
    token.payload.sessionVersion ≤ u.sessionVersion ∧
      (token.readAt < s.raisedAt token.payload.userId ↔
        token.payload.sessionVersion < u.sessionVersion)

def NewRows (s s' : Ledger) : Prop :=
  ∀ u ∈ s'.table.rows, (s.table.getUserById u.id).isSome ∨ u.id ∉ s.used

/-- What a turn of any request does to the ledger. -/
inductive Turn (s : Ledger) : Ledger → Prop
  | write {f : UserTable → UserTable} (h : VersionsKept s.table (f s.table)) : Turn s (s.write f)
  | issue {token : Issued} (h : s.Valid token) : Turn s ((s.write id).issue token)

structure Grows (s s' : Ledger) : Prop where
  clock : s.clock ≤ s'.clock
  valid : ∀ token, s.Valid token → s'.Valid token

theorem Grows.refl (s : Ledger) : Grows s s := ⟨le_refl _, fun _ h => h⟩

theorem Grows.trans {s'' : Ledger} (h : Grows s s') (h' : Grows s' s'') : Grows s s'' :=
  ⟨h.clock.trans h'.clock, fun token hValid => h'.valid token (h.valid token hValid)⟩

theorem Sound.write {f : UserTable → UserTable} (h : s.Sound) : (s.write f).Sound where
  raised := by
    intro id
    show (if _ then s.clock + 1 else s.raisedAt id) ≤ s.clock + 1
    split
    · exact le_refl _
    · exact (h.raised id).trans (Nat.le_succ _)
  used := fun _ hu => List.mem_append_right _ (List.mem_map_of_mem hu)

theorem Valid.write {f : UserTable → UserTable}
    (hKept : VersionsKept s.table (f s.table)) (hNew : s.NewRows (s.write f))
    (h : s.Valid token) : (s.write f).Valid token where
  readAt := h.readAt.trans (Nat.le_succ _)
  used := List.mem_append_left _ h.used
  version := by
    intro u' hAfter
    have hAfter' : (f s.table).getUserById token.payload.userId = some u' := hAfter
    obtain ⟨hMem, hId⟩ := UserTable.mem_of_getUserById hAfter'
    have hBefore : (s.table.getUserById token.payload.userId).isSome := by
      rcases hNew u' hMem with hOld | hUnused
      · rwa [hId] at hOld
      · exact absurd h.used (hId ▸ hUnused)
    obtain ⟨u, hu⟩ := Option.isSome_iff_exists.mp hBefore
    obtain ⟨hLe, hIff⟩ := h.version u hu
    have hGrown := hKept _ u u' hu hAfter'
    refine ⟨hLe.trans hGrown, ?_⟩
    show (token.readAt < if raises (s.table.getUserById token.payload.userId)
      ((f s.table).getUserById token.payload.userId) then s.clock + 1 else s.raisedAt _) ↔ _
    rw [hu, hAfter']
    by_cases hRaised : u.sessionVersion < u'.sessionVersion
    · rw [if_pos (by simpa [raises] using hRaised)]
      exact iff_of_true (Nat.lt_succ_of_le h.readAt) (lt_of_le_of_lt hLe hRaised)
    · rw [if_neg (by simpa [raises] using hRaised), hIff]
      have hSame : u'.sessionVersion = u.sessionVersion := by omega
      rw [hSame]

theorem Valid.issue {other : Issued} (h : s.Valid token) : (s.issue other).Valid token :=
  ⟨h.readAt, h.used, h.version⟩

theorem Sound.issue (h : s.Sound) : (s.issue token).Sound := ⟨h.raised, h.used⟩

theorem Sound.turn (h : s.Sound) (hTurn : Turn s s') : s'.Sound := by
  cases hTurn with
  | write _ => exact h.write
  | issue _ => exact h.write.issue

theorem Turn.grows (hTurn : Turn s s') (hNew : s.NewRows s') : Grows s s' := by
  cases hTurn with
  | write hKept => exact ⟨Nat.le_succ _, fun token h => h.write hKept hNew⟩
  | issue _ =>
    have hWritten : s.NewRows (s.write id) := hNew
    exact ⟨Nat.le_succ _, fun token h => (h.write (versions_refl le_refl _) hWritten).issue⟩

/-- The token of a row that a turn leaves, if the turn raises no version. -/
theorem Sound.valid (h : s.Sound) {f : UserTable → UserTable}
    (hSame : Versions (· = ·) s.table (f s.table)) {u : UserRow} (hu : u ∈ (f s.table).rows) :
    (s.write f).Valid ⟨sessionPayload u, s.clock⟩ where
  readAt := Nat.le_succ _
  used := h.write.used u hu
  version := by
    intro v hv
    have hGet := UserTable.getUserById_of_mem hu
    obtain rfl := Option.some.inj (hGet.symm.trans hv)
    refine ⟨le_refl _, iff_of_false ?_ (lt_irrefl _)⟩
    show ¬ (s.clock < if raises (s.table.getUserById u.id) ((f s.table).getUserById u.id) then
      s.clock + 1 else s.raisedAt u.id)
    have hNot : raises (s.table.getUserById u.id) ((f s.table).getUserById u.id) = false := by
      rw [hGet]
      cases hOld : s.table.getUserById u.id with
      | none => rfl
      | some w => simp [raises, hSame u.id w u hOld hGet]
    rw [if_neg (by rw [hNot]; exact Bool.false_ne_true)]
    exact (h.raised u.id).not_gt

end Ledger

open Ledger

variable {α β : Type} {s s' : Ledger} {Q : Ledger → α → Prop}

/-- Whatever happens in between, every turn is one of those above, and `Q` holds of the result. -/
inductive Honest (Q : Ledger → α → Prop) : Web α → Ledger → Prop
  | done {a : α} {s : Ledger} (h : Q s a) : Honest Q (.done a) s
  | failed (e : HttpError) (s : Ledger) : Honest Q (.failed e) s
  | turn {write : Ledger → Ledger} {next : Ledger → Web α} {s : Ledger}
      (hTurn : ∀ s', s.Grows s' → s'.Sound → s'.Turn (write s'))
      (hNext : ∀ s', s.Grows s' → s'.Sound → s'.NewRows (write s') →
        Honest Q (next s') (write s')) : Honest Q (.turn write next) s

theorem Honest.bind {p : Web α} {f : α → Web β} {Q' : Ledger → β → Prop} (h : Honest Q p s)
    (hf : ∀ a s', Q s' a → Honest Q' (f a) s') : Honest Q' (p >>= f) s := by
  induction h with
  | done hQ => exact hf _ _ hQ
  | failed e s => exact .failed e s
  | turn hTurn _ ih => exact .turn hTurn ih

theorem Honest.grow {p : Web α} (h : Honest (fun _ _ => True) p s) (hGrows : s.Grows s') :
    Honest (fun _ _ => True) p s' := by
  cases h with
  | done _ => exact .done trivial
  | failed e => exact .failed e s'
  | turn hTurn hNext =>
    exact .turn (fun t hLater => hTurn t (hGrows.trans hLater))
      fun t hLater => hNext t (hGrows.trans hLater)

theorem turn_read (s : Ledger) : s.Turn (s.write id) := .write (versions_refl le_refl _)

theorem honest_query {f : Ledger → α}
    (hQ : ∀ s', s.Grows s' → s'.Sound → Q (s'.write id) (f s')) : Honest Q (query f) s :=
  .turn (fun s' _ _ => turn_read s') fun s' hGrows hSound _ => .done (hQ s' hGrows hSound)

theorem honest_timed {p : Db α} (h : Writes p) (turns : List OwnTurn) (s : Ledger) :
    Honest (fun _ _ => True) (timed p turns) s := by
  induction h generalizing turns s with
  | done a => exact .done trivial
  | failed e => exact .failed e s
  | turn hWrite _ ih =>
    exact .turn (fun s' _ _ => .write (versionsKept_of_write (hWrite s'.table)))
      fun s' _ _ _ => ih s'.table _ _

theorem timed_bind (p : Db α) (f : α → Db β) (turns : List OwnTurn) :
    timed (p >>= f) turns = timed p turns >>= fun x => timed (f x.1) x.2 := by
  induction p generalizing turns with
  | done a => rfl
  | failed e => rfl
  | turn write next ih =>
    show Async.turn _ _ = Async.turn _ _
    congr 1
    funext s
    exact ih s.table _

theorem honest_read {f : UserTable → β} {k : β → Db α} {turns : List OwnTurn}
    {Q : Ledger → α × List OwnTurn → Prop}
    (h : ∀ s', s.Grows s' → s'.Sound →
      Honest Q (timed (k (f s'.table)) (⟨s'.clock, s'.table, s'.table⟩ :: turns)) (s'.write id)) :
    Honest Q (timed (Async.read f >>= k) turns) s :=
  .turn (fun s' _ _ => turn_read s') fun s' hGrows hSound _ => h s' hGrows hSound

end EsosWebui.Users
