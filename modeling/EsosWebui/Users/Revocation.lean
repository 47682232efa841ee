import EsosWebui.Users.SessionLedger

/-! Revoked sessions. A token is rejected for good once the version of its account was raised after
the row was read; not every change that should revoke it raises the version. -/
namespace EsosWebui.Users

open Js

section

open Ledger

variable {s : Ledger} {turns : List OwnTurn}

def ReadBack (s : Ledger) (x : UserRow × List OwnTurn) : Prop :=
  s.Valid ⟨sessionPayload x.1, readTurn x.1 x.2⟩

theorem readTurn_inserted {u : UserRow} {last : OwnTurn} {earlier : List OwnTurn}
    (hFound : last.found.getUserById u.id = none) (hLeft : (last.left.getUserById u.id).isSome) :
    readTurn u (last :: earlier) = last.clock :=
  if_pos (by rw [hFound, hLeft]; rfl)

theorem readTurn_touched {u : UserRow} {last read : OwnTurn} {earlier : List OwnTurn}
    (h : (last.left.getUserById u.id).isSome = (last.found.getUserById u.id).isSome) :
    readTurn u (last :: read :: earlier) = read.clock :=
  if_neg (by rw [h]; cases last.found.getUserById u.id <;> simp)

theorem honest_touched {u : UserRow} {now : Text} {read : OwnTurn}
    (h : s.Valid ⟨sessionPayload u, read.clock⟩) :
    Honest ReadBack (timed (do touchExternalLogin u.id now; return u) (read :: turns)) s := by
  have hWrite : ∀ t : UserTable,
      VersionsKept t (t.update u.id fun u => { u with lastExternalLoginAt := some now }) :=
    fun t => versionsKept_of_write (.login (.touched u.id now))
  refine .turn (fun s' _ _ => .write (hWrite s'.table)) fun s' hGrows _ hNew => .done ?_
  show Ledger.Valid _ ⟨sessionPayload u, readTurn u (_ :: read :: turns)⟩
  rw [readTurn_touched]
  · exact (hGrows.valid _ h).write (hWrite s'.table) hNew
  · show ((s'.table.update u.id _).getUserById u.id).isSome = _
    rw [UserTable.getUserById_update, Option.isSome_map]

theorem honest_linkLogin {userId : Text} {authSource : AuthSource} {issuer subject now : Text} :
    Honest ReadBack (timed (linkLogin userId authSource issuer subject now) turns) s := by
  have hLinked : ∀ t : UserTable,
      LoginWrite t (t.linkUserToFederatedIdentity userId authSource issuer subject).1 :=
    fun t => .linked userId authSource issuer subject
  refine .turn (fun s' _ _ => .write (versionsKept_of_write (.login (hLinked s'.table))))
    fun s' _ hSound _ => ?_
  cases hOk : (s'.table.linkUserToFederatedIdentity userId authSource issuer subject).2 with
  | error e =>
    dsimp only
    rw [hOk]
    exact .failed e _
  | ok _ =>
    dsimp only
    rw [hOk]
    cases hBack : (s'.table.linkUserToFederatedIdentity userId authSource issuer
        subject).1.getUserById userId with
    | none => exact .failed _ _
    | some linked =>
      exact honest_touched (hSound.valid (versions_loginWrite (hLinked s'.table))
        (UserTable.mem_of_getUserById hBack).1)

theorem inserted_eq {t : UserTable} {row created : UserRow} {issuer subject : Text}
    (hIssuer : row.externalIssuer = some issuer) (hSubject : row.externalSubject = some subject)
    (hOk : (t.insert row).2 = .ok ())
    (hBack : (t.insert row).1.getUserByExternalIdentity issuer subject = some created) :
    created = row ∧ t.getUserById row.id = none := by
  have hInsert : t.insert row = ((t.insert row).1, .ok ()) := Prod.ext rfl hOk
  have hNone : t.getUserByExternalIdentity issuer subject = none ∧
      t.getUserById row.id = none := by
    unfold UserTable.insert at hOk
    split at hOk
    · cases hOk
    · rename_i hNew
      split at hOk
      · cases hOk
      · rename_i hDuplicate
        refine ⟨?_, ?_⟩
        · unfold UserTable.duplicate? at hDuplicate
          rw [hIssuer, hSubject] at hDuplicate
          split at hDuplicate
          · cases hDuplicate
          · by_contra hSome
            have hIdentity : t.hasIdentity issuer subject = true :=
              Option.isSome_iff_ne_none.mpr hSome
            simp [hIdentity] at hDuplicate
        · refine List.find?_eq_none.mpr fun u hu hSame => hNew ?_
          exact List.mem_map.mpr ⟨u, hu, by simpa using hSame⟩
  rw [UserTable.getUserByExternalIdentity_insert hIssuer hSubject hNone.1 hInsert] at hBack
  exact ⟨(Option.some.inj hBack).symm, hNone.2⟩

theorem honest_createJitLogin {row : UserRow} {issuer subject : Text} {failure : String}
    (hIssuer : row.externalIssuer = some issuer) (hSubject : row.externalSubject = some subject) :
    Honest ReadBack (timed (createJitLogin row issuer subject failure) turns) s := by
  have hCreated : ∀ t : UserTable, LoginWrite t (t.insert row).1 := fun t => .created row
  refine .turn (fun s' _ _ => .write (versionsKept_of_write (.login (hCreated s'.table))))
    fun s' _ hSound _ => ?_
  cases hOk : (s'.table.insert row).2 with
  | error e =>
    dsimp only
    rw [hOk]
    exact .failed e _
  | ok _ =>
    dsimp only
    rw [hOk]
    cases hBack : (s'.table.insert row).1.getUserByExternalIdentity issuer subject with
    | none => exact .failed _ _
    | some created =>
      obtain ⟨rfl, hFound⟩ := inserted_eq hIssuer hSubject hOk hBack
      have hMem : created ∈ (s'.table.insert created).1.rows := List.mem_of_find?_eq_some hBack
      refine .done ?_
      show Ledger.Valid _ ⟨sessionPayload created, readTurn created (_ :: turns)⟩
      rw [readTurn_inserted hFound]
      · exact hSound.valid (versions_loginWrite (hCreated s'.table)) hMem
      · rw [UserTable.getUserById_of_mem hMem]
        rfl

theorem LdapLogin.honest_create (login : LdapLogin) (fresh : Fresh) (s : Ledger) :
    Honest ReadBack (timed (login.create fresh) turns) s := by
  unfold LdapLogin.create
  split
  · exact .failed _ s
  · rw [timed_bind]
    have hName := honest_timed (login.writesAsLogin_newUsername fresh).writes turns s
    exact hName.bind fun x s' _ => honest_createJitLogin rfl rfl

theorem LdapLogin.honest_resolve (login : LdapLogin) (fresh : Fresh) (s : Ledger) :
    Honest ReadBack (timed (login.resolve fresh) turns) s := by
  have hRead : ∀ (s' : Ledger) (u : UserRow), s'.Sound → u ∈ s'.table.rows →
      (s'.write id).Valid ⟨sessionPayload u, s'.clock⟩ :=
    fun s' u hSound hu => hSound.valid (versions_refl (fun _ => rfl) _) hu
  refine honest_read fun s₁ _ hSound₁ => ?_
  cases hKnown : s₁.table.getUserByExternalIdentity login.issuer login.subject with
  | some u => exact honest_touched (hRead s₁ u hSound₁ (List.mem_of_find?_eq_some hKnown))
  | none =>
    refine honest_read fun s₂ _ hSound₂ => ?_
    cases hFound : s₂.table.getLdapUserByExternalLogin login.issuer login.accountName with
    | some u =>
      simp only [byExternalLogin]
      split
      · exact .failed _ _
      · split
        · exact honest_linkLogin
        · exact honest_touched
            (hRead s₂ u hSound₂ (UserTable.mem_of_getLdapUserByExternalLogin hFound))
    | none =>
      refine honest_read fun s₃ _ _ => ?_
      cases s₃.table.getUserByUsername login.loginName with
      | none => exact login.honest_create fresh _
      | some u =>
        simp only [byUsername]
        split_ifs
        · exact .failed _ _
        · exact .failed _ _
        · exact honest_linkLogin
        · exact login.honest_create fresh _

end

section

open Ledger

variable {s : Ledger}

abbrev HonestRequest (p : Web Unit) (s : Ledger) : Prop := Honest (fun _ _ => True) p s

theorem honest_setSessionCookieForUser {user : UserRow} {readAt : Nat}
    (h : s.Valid ⟨sessionPayload user, readAt⟩) :
    HonestRequest (setSessionCookieForUser user readAt) s :=
  .turn (fun _ hGrows _ => .issue (hGrows.valid _ h)) fun _ _ _ _ => .done trivial

theorem LdapLogin.honest_handler (login : LdapLogin) (fresh : Fresh) (s : Ledger) :
    HonestRequest (login.handler fresh) s := by
  refine (login.honest_resolve fresh s).bind fun x s' hValid => ?_
  obtain ⟨user, turns⟩ := x
  dsimp only
  split
  · exact .failed _ s'
  · exact honest_setSessionCookieForUser hValid

theorem LocalLogin.honest_handler (login : LocalLogin) (s : Ledger) :
    HonestRequest login.handler s := by
  have hRead : Honest (fun s x => ∀ u, x.1 = some u → s.Valid ⟨sessionPayload u, x.2⟩)
      (query fun s => (s.table.getUserByUsername login.username, s.clock)) s :=
    honest_query fun s' _ hSound u hu =>
      hSound.valid (versions_refl (fun _ => rfl) _) (List.mem_of_find?_eq_some hu)
  refine hRead.bind fun x s₁ hValid => ?_
  obtain ⟨user?, readAt⟩ := x
  cases user? with
  | none => exact .failed _ s₁
  | some user =>
    have hVerify : Honest (fun s (_ : Bool) => s.Valid ⟨sessionPayload user, readAt⟩)
        (query fun _ => login.isValid user) s₁ := by
      refine .turn (fun s' _ _ => turn_read s') fun s' hGrows _ hNew => .done ?_
      exact (hGrows.valid _ (hValid user rfl)).write (versions_refl le_refl _) hNew
    refine hVerify.bind fun valid s₂ hValid₂ => ?_
    split
    · exact .failed _ s₂
    · split
      · exact .failed _ s₂
      · exact honest_setSessionCookieForUser hValid₂

theorem Action.writes_program (action : Action) (currentUser : Text) :
    Writes (action.program currentUser) := by
  cases action with
  | changePassword newHash => exact PasswordChange.writes_handler currentUser newHash
  | resetPassword id newHash => exact PasswordReset.writes_handler id newHash
  | patch id input => exact input.writes_handler id currentUser
  | delete id => exact UserDeletion.writes_handler id currentUser
  | provision users providers =>
    exact (writes_provisionLdapUsers providers users).bind fun _ => writes_pure ()
  | other => exact writes_pure ()

theorem SessionRequest.honest_program (r : SessionRequest) (s : Ledger) :
    HonestRequest r.program s := by
  cases r with
  | localLogin login => exact login.honest_handler s
  | ldapLogin login fresh => exact login.honest_handler fresh s
  | authenticated token action =>
    have hAuth : Honest (fun _ _ => True)
        (query fun s => s.authenticateSessionFromToken token) s :=
      honest_query fun _ _ _ => trivial
    refine hAuth.bind fun auth s' _ => ?_
    cases auth with
    | error code => exact .failed _ s'
    | ok user =>
      dsimp only
      split
      · exact .failed _ s'
      · exact (honest_timed (action.writes_program user.id) [] s').bind
          fun _ _ _ => .done trivial

end

abbrev SessionProcesses := Processes SessionRequest Ledger HttpError Unit

abbrev sessionStep := Processes.step (κ := Unit) SessionRequest.program fun _ => ()

/-- Every token that was read before its account was last revoked is rejected. -/
def RevocationFinal (s : Ledger) : Prop :=
  ∀ token ∈ s.issued, token.readAt < s.revokedAt token.payload.userId →
    ∃ code, s.authenticateSessionFromToken (some token.payload) = .error code

def VersionsRaised (s : Ledger) : Prop :=
  ∀ token ∈ s.issued, ∀ u, s.table.getUserById token.payload.userId = some u → u.active = true →
    token.readAt < s.revokedAt token.payload.userId →
      token.readAt < s.raisedAt token.payload.userId

/-- The identifiers of new accounts are random, and were never used before. -/
def NewIds (x : Event SessionRequest) (c : SessionProcesses) : Prop :=
  ∀ i p write rest, x = .turn i → c.next? i = some (p, write, rest) →
    c.state.NewRows (write c.state)

/-- The turn leaves no active account revoked without its version raised. -/
def RaisesVersions (x : Event SessionRequest) (c : SessionProcesses) : Prop :=
  ∀ i p write rest, x = .turn i → c.next? i = some (p, write, rest) →
    VersionsRaised (write c.state)

section

open Ledger

variable {c c' : SessionProcesses} {x : Event SessionRequest}

structure HonestRun (c : SessionProcesses) : Prop where
  sound : c.state.Sound
  issued : ∀ token ∈ c.state.issued, c.state.Valid token
  running : ∀ p ∈ c.running, HonestRequest p.rest c.state

theorem honestRun_start (t : UserTable) : HonestRun ⟨.start t, []⟩ where
  sound := ⟨fun _ => le_refl _, fun _ hu => List.mem_map_of_mem hu⟩
  issued := fun _ h => absurd h List.not_mem_nil
  running := fun _ h => absurd h List.not_mem_nil

theorem issued_of_turn {s s' : Ledger} {token : Issued} (hTurn : s.Turn s')
    (hToken : token ∈ s'.issued) : token ∈ s.issued ∨ s.Valid token := by
  cases hTurn with
  | write _ => exact Or.inl hToken
  | issue hValid =>
    rcases List.mem_append.mp hToken with hOld | hNew
    · exact Or.inl hOld
    · obtain rfl := List.mem_singleton.mp hNew
      exact Or.inr hValid

theorem HonestRun.step (h : HonestRun c) (hNew : NewIds x c) (hStep : sessionStep x c = .ok c') :
    HonestRun c' := by
  cases x with
  | request r =>
    obtain rfl := Except.ok.inj hStep
    refine ⟨h.sound, h.issued, fun p hp => ?_⟩
    rcases List.mem_append.mp hp with hOld | hLast
    · exact h.running p hOld
    · obtain rfl := List.mem_singleton.mp hLast
      exact r.honest_program c.state
  | turn i =>
    simp only [Processes.step] at hStep
    split at hStep
    · rename_i p write rest hNext
      obtain rfl := Except.ok.inj hStep
      obtain ⟨hAt, next, hRest, rfl⟩ := Processes.next?_eq_some.mp hNext
      have hHonest := h.running p (List.mem_of_getElem? hAt)
      rw [hRest] at hHonest
      have hRows : c.state.NewRows (write c.state) := hNew i p write _ rfl hNext
      cases hHonest with
      | turn hTurn hAfter =>
        have hTaken := hTurn c.state (Grows.refl _) h.sound
        have hGrows := hTaken.grows hRows
        refine ⟨h.sound.turn hTaken, fun token hToken => ?_, fun q hq => ?_⟩
        · rcases issued_of_turn hTaken hToken with hOld | hValid
          · exact hGrows.valid token (h.issued token hOld)
          · exact hGrows.valid token hValid
        · rcases Processes.mem_takeTurn hAt hq with rfl | ⟨hOld, -⟩ | ⟨q', hOld, rfl⟩
          · exact hAfter c.state (Grows.refl _) h.sound hRows
          · exact (h.running q hOld).grow hGrows
          · exact (h.running q' hOld).grow hGrows
    · cases hStep

theorem rejected_iff {s : Ledger} {token : Issued} (hToken : token ∈ s.issued) :
    (∃ code, s.authenticateSessionFromToken (some token.payload) = .error code) ↔
      ∀ u, s.table.getUserById token.payload.userId = some u → u.active = true →
        u.sessionVersion ≠ token.payload.sessionVersion := by
  have hIssued : s.verifySession token.payload = true :=
    List.any_eq_true.mpr ⟨token, hToken, beq_self_eq_true token.payload⟩
  simp only [authenticateSessionFromToken, hIssued, Bool.not_true, Bool.false_eq_true, if_false]
  cases s.table.getUserById token.payload.userId with
  | none => simp
  | some u =>
    cases hActive : u.active with
    | false => simp [hActive]
    | true =>
      by_cases hSame : u.sessionVersion = token.payload.sessionVersion
      · simp [hActive, hSame]
      · simp [hActive, hSame]

/-- A token is rejected for good exactly when the version of its account was raised since. -/
theorem HonestRun.revocationFinal_iff (h : HonestRun c) :
    RevocationFinal c.state ↔ VersionsRaised c.state := by
  refine forall₂_congr fun token hToken => ?_
  rw [rejected_iff hToken, forall_comm]
  refine forall_congr' fun u => ?_
  have hVersion := (h.issued token hToken).version u
  constructor
  · intro hRejected hUser hActive hRevoked
    obtain ⟨hLe, hRaised⟩ := hVersion hUser
    exact hRaised.mpr (lt_of_le_of_ne hLe (hRejected hRevoked hUser hActive).symm)
  · intro hRaises hRevoked hUser hActive
    exact (((hVersion hUser).2.mp (hRaises hUser hActive hRevoked)).ne').elim

theorem raisesVersions_iff (hStep : sessionStep x c = .ok c') (h : VersionsRaised c.state) :
    RaisesVersions x c ↔ VersionsRaised c'.state := by
  cases x with
  | request r =>
    obtain rfl := Except.ok.inj hStep
    refine iff_of_true (fun i p write rest hTurn _ => ?_) h
    cases hTurn
  | turn i =>
    simp only [Processes.step] at hStep
    split at hStep
    · rename_i p write rest hNext
      obtain rfl := Except.ok.inj hStep
      constructor
      · intro hRaises
        exact hRaises i p write rest rfl hNext
      · intro hAfter j q write' rest' hTurn hNext'
        cases hTurn
        cases hNext.symm.trans hNext'
        exact hAfter
    · cases hStep

/-- The state that a step finds is final. -/
def FinalBefore (x : Event SessionRequest) (c : SessionProcesses) : Prop :=
  NewIds x c ∧ RevocationFinal c.state

theorem final_of_run {events : List (Event SessionRequest)}
    (hRun : Run sessionStep FinalBefore c events c') (hLast : RevocationFinal c'.state) :
    RevocationFinal c.state := by
  cases hRun with
  | nil => exact hLast
  | cons hFirst _ _ => exact hFirst.2

theorem run_iff {events : List (Event SessionRequest)} (h : HonestRun c)
    (hRaised : VersionsRaised c.state) :
    Run sessionStep (fun x c => NewIds x c ∧ RaisesVersions x c) c events c' ↔
      Run sessionStep FinalBefore c events c' ∧ RevocationFinal c'.state := by
  induction events generalizing c with
  | nil =>
    constructor
    · intro hRun
      cases hRun
      exact ⟨.nil _, h.revocationFinal_iff.mpr hRaised⟩
    · rintro ⟨hRun, -⟩
      cases hRun
      exact .nil _
  | cons x events ih =>
    constructor
    · intro hRun
      cases hRun with
      | cons hAllowed hStep hRest =>
        have hNext := (raisesVersions_iff hStep hRaised).mp hAllowed.2
        obtain ⟨hFinal, hLast⟩ := (ih (h.step hAllowed.1 hStep) hNext).mp hRest
        exact ⟨.cons ⟨hAllowed.1, h.revocationFinal_iff.mpr hRaised⟩ hStep hFinal, hLast⟩
    · rintro ⟨hRun, hLast⟩
      cases hRun with
      | cons hAllowed hStep hRest =>
        have hHonest := h.step hAllowed.1 hStep
        have hNext := hHonest.revocationFinal_iff.mp (final_of_run hRest hLast)
        exact .cons ⟨hAllowed.1, (raisesVersions_iff hStep hRaised).mpr hNext⟩ hStep
          ((ih hHonest hNext).mpr ⟨hRest, hLast⟩)

end

private def alice : UserRow :=
  { id := ['1'], username := ['a'], passwordHash := some ['h'], role := .viewer, active := true }

private def accounts : UserTable := ⟨[alice], List.nodup_singleton _⟩

private def signIn : LocalLogin := ⟨['a'], (· == ['h'])⟩

private theorem newIds_request (r : SessionRequest) (c : SessionProcesses) :
    NewIds (.request r) c := by
  intro i p write rest hTurn
  cases hTurn

private theorem newIds_turn {c : SessionProcesses} {i : Nat}
    {p : Process SessionRequest Ledger HttpError Unit} {write : Ledger → Ledger} {rest : Web Unit}
    (hNext : c.next? i = some (p, write, rest))
    (hIds : (write c.state).table.rows.map (·.id) = c.state.table.rows.map (·.id)) :
    NewIds (.turn i) c := by
  intro j q write' rest' hTurn hNext' u hu
  cases hTurn
  cases hNext.symm.trans hNext'
  have hId : u.id ∈ c.state.table.rows.map (·.id) := hIds ▸ List.mem_map_of_mem hu
  obtain ⟨v, hv, hSame⟩ := List.mem_map.mp hId
  left
  rw [← hSame, UserTable.getUserById_of_mem hv]
  rfl

end EsosWebui.Users
