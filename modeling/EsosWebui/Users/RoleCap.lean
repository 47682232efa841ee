import EsosWebui.Js.Throw
import EsosWebui.Users.Logins

/-! The cap on the roles of external accounts: it holds of the accounts that a login creates, and
of another account exactly when the table already says so. -/
namespace EsosWebui.Users

open Js

namespace UserTable

variable {t : UserTable}

theorem getUserById_of_mem {u : UserRow} (hu : u ∈ t.rows) : t.getUserById u.id = some u := by
  obtain ⟨v, hv⟩ : ∃ v, t.getUserById u.id = some v :=
    Option.isSome_iff_exists.mp (List.find?_isSome.mpr ⟨u, hu, beq_self_eq_true u.id⟩)
  have hId : v.id = u.id := by simpa using List.find?_some hv
  have hMem : v ∈ t.rows := List.mem_of_find?_eq_some hv
  rw [hv, List.inj_on_of_nodup_map t.idUnique hMem hu hId]

theorem mem_of_getUserById {id : Text} {u : UserRow} (h : t.getUserById id = some u) :
    u ∈ t.rows ∧ u.id = id :=
  ⟨List.mem_of_find?_eq_some h, by simpa using List.find?_some h⟩

theorem mem_of_getLdapUserByExternalLogin {issuer externalLogin : Text} {u : UserRow}
    (h : t.getLdapUserByExternalLogin issuer externalLogin = some u) : u ∈ t.rows := by
  unfold getLdapUserByExternalLogin at h
  dsimp only at h
  split at h
  · cases h
  · exact List.mem_of_find?_eq_some h

theorem mem_update {id : Text} {set : UserRow → UserRow} {u : UserRow} :
    u ∈ (t.update id set).rows ↔
      ∃ v ∈ t.rows, (if v.id = id then { set v with id := v.id } else v) = u :=
  List.mem_map

theorem role_of_link {u v : UserRow} {authSource : AuthSource} {issuer subject : Text}
    {t' : UserTable} {x : Unit} (hu : u ∈ t.rows)
    (hLink : t.linkUserToFederatedIdentity u.id authSource issuer subject = (t', .ok x))
    (hv : t'.getUserById u.id = some v) : v.role = u.role := by
  unfold linkUserToFederatedIdentity at hLink
  split at hLink
  · cases hLink
  · obtain rfl := congrArg Prod.fst hLink
    obtain ⟨hMem, hId⟩ := mem_of_getUserById hv
    obtain ⟨w, hw, rfl⟩ := mem_update.mp hMem
    by_cases hSame : w.id = u.id
    · rw [if_pos hSame, List.inj_on_of_nodup_map t.idUnique hw hu hSame]
    · rw [if_neg hSame] at hId
      exact absurd hId hSame

theorem getUserByExternalIdentity_insert {row : UserRow} {issuer subject : Text} {t' : UserTable}
    {x : Unit} (hIssuer : row.externalIssuer = some issuer)
    (hSubject : row.externalSubject = some subject)
    (hNone : t.getUserByExternalIdentity issuer subject = none)
    (hInsert : t.insert row = (t', .ok x)) :
    t'.getUserByExternalIdentity issuer subject = some row := by
  unfold insert at hInsert
  split at hInsert
  · cases hInsert
  · split at hInsert
    · cases hInsert
    · obtain rfl := congrArg Prod.fst hInsert
      have hOld : t.rows.find? (fun u => u.externalIssuer == some issuer &&
          u.externalSubject == some subject) = none := hNone
      show (t.rows ++ [row]).find? _ = some row
      rw [List.find?_append, hOld]
      simp [hIssuer, hSubject]

end UserTable

section

variable {t t' : UserTable} {user : UserRow}

theorem role_of_linkLogin {u : UserRow} {authSource : AuthSource} {issuer subject now : Text}
    (hu : u ∈ t.rows) (h : (linkLogin u.id authSource issuer subject now).run t = (t', .ok user)) :
    user.role = u.role := by
  obtain ⟨t₁, linked, hLink, hRest⟩ := Async.run_bind_eq_ok.mp h
  rw [Async.run_atomic] at hLink
  cases linked with
  | none => cases hRest
  | some linked =>
    obtain ⟨t₂, _, _, hReturn⟩ := Async.run_bind_eq_ok.mp hRest
    obtain rfl : linked = user := Except.ok.inj (congrArg Prod.snd hReturn)
    obtain ⟨x, hOk, hRead⟩ := map_eq_ok.mp (congrArg Prod.snd hLink)
    exact UserTable.role_of_link hu (Prod.ext rfl hOk) hRead

theorem run_searchUsername {candidate : Nat → Text} {attempts n : Nat} {username name : Text}
    (h : (searchUsername candidate attempts n username).run t = (t', .ok name)) : t' = t := by
  induction attempts generalizing n username with
  | zero => cases h
  | succ attempts ih =>
    rw [searchUsername, Async.run_read_bind] at h
    split at h
    · exact (congrArg Prod.fst h).symm
    · exact ih h

theorem createJitLogin_eq {row : UserRow} {issuer subject : Text} {failure : String}
    (hIssuer : row.externalIssuer = some issuer) (hSubject : row.externalSubject = some subject)
    (hNone : t.getUserByExternalIdentity issuer subject = none)
    (h : (createJitLogin row issuer subject failure).run t = (t', .ok user)) : user = row := by
  obtain ⟨t₁, created, hCreate, hRest⟩ := Async.run_bind_eq_ok.mp h
  rw [Async.run_atomic] at hCreate
  cases created with
  | none => cases hRest
  | some created =>
    obtain rfl : created = user := Except.ok.inj (congrArg Prod.snd hRest)
    obtain ⟨x, hOk, hRead⟩ := map_eq_ok.mp (congrArg Prod.snd hCreate)
    rw [UserTable.getUserByExternalIdentity_insert hIssuer hSubject hNone
      (Prod.ext rfl hOk)] at hRead
    exact (Option.some.inj hRead).symm

end

/-- The account that the table holds for a login has the role of the user that it returns; without
one the user is created with this role. -/
def HasRoleOf (account? : Option UserRow) (createdRole : UserRole) (user : UserRow) : Prop :=
  user.role = account?.elim createdRole (·.role)

theorem HasRoleOf.le_iff {account? : Option UserRow} {createdRole m : UserRole} {user : UserRow}
    (h : HasRoleOf account? createdRole user) (hCreated : createdRole.order ≤ m.order) :
    user.role.order ≤ m.order ↔ ∀ u, account? = some u → u.role.order ≤ m.order := by
  rw [h]
  cases account? with
  | none => simpa using hCreated
  | some u => simp

theorem touched_eq {t t' : UserTable} {u user : UserRow} {now : Text}
    (h : (do touchExternalLogin u.id now; return u : Db UserRow).run t = (t', .ok user)) :
    user = u := by
  obtain ⟨_, _, _, hReturn⟩ := Async.run_bind_eq_ok.mp h
  exact (Except.ok.inj (congrArg Prod.snd hReturn)).symm

namespace LdapLogin

variable {login : LdapLogin} {fresh : Fresh} {t t' : UserTable} {user : UserRow}

/-- The account known by the identity, else by the directory login, else the one that a login may
link by its name. -/
def account? (login : LdapLogin) (t : UserTable) : Option UserRow :=
  (t.getUserByExternalIdentity login.issuer login.subject).or <|
    (t.getLdapUserByExternalLogin login.issuer login.accountName).or <|
      (t.getUserByUsername login.loginName).filter (isUnset ·.externalSubject)

theorem run_newUsername {name : Text} (h : (login.newUsername fresh).run t = (t', .ok name)) :
    t' = t := by
  rw [newUsername, Async.run_read_bind] at h
  split at h
  · exact (congrArg Prod.fst h).symm
  · exact run_searchUsername h

theorem role_create (hNone : t.getUserByExternalIdentity login.issuer login.subject = none)
    (h : (login.create fresh).run t = (t', .ok user)) : user.role = login.createdRole := by
  unfold create at h
  split at h
  · cases h
  · obtain ⟨t₁, username, hSearch, hCreate⟩ := Async.run_bind_eq_ok.mp h
    obtain rfl := run_newUsername hSearch
    rw [createJitLogin_eq rfl rfl hNone hCreate]

theorem role_byUsername (hNone : t.getUserByExternalIdentity login.issuer login.subject = none)
    (h : (login.byUsername fresh (t.getUserByUsername login.loginName)).run t = (t', .ok user)) :
    HasRoleOf ((t.getUserByUsername login.loginName).filter (isUnset ·.externalSubject))
      login.createdRole user := by
  cases hFound : t.getUserByUsername login.loginName with
  | none =>
    rw [hFound] at h
    exact role_create hNone h
  | some u =>
    rw [hFound] at h
    simp only [byUsername] at h
    split at h
    · cases h
    · split at h
      · cases h
      · split at h
        · rename_i hUnset
          have hMem : u ∈ t.rows := List.mem_of_find?_eq_some hFound
          simpa [HasRoleOf, Option.filter, hUnset] using role_of_linkLogin hMem h
        · rename_i hSet
          simpa [HasRoleOf, Option.filter, hSet] using role_create hNone h

theorem role_resolve (h : (login.resolve fresh).run t = (t', .ok user)) :
    HasRoleOf (login.account? t) login.createdRole user := by
  unfold account?
  rw [resolve, Async.run_read_bind] at h
  cases hIdentity : t.getUserByExternalIdentity login.issuer login.subject with
  | some u =>
    rw [hIdentity] at h
    rw [touched_eq h]
    rfl
  | none =>
    rw [hIdentity] at h
    dsimp only at h
    rw [Async.run_read_bind] at h
    cases hLogin : t.getLdapUserByExternalLogin login.issuer login.accountName with
    | none =>
      rw [hLogin] at h
      exact role_byUsername hIdentity h
    | some u =>
      rw [hLogin] at h
      simp only [byExternalLogin] at h
      split at h
      · cases h
      · split at h
        · exact role_of_linkLogin (UserTable.mem_of_getLdapUserByExternalLogin hLogin) h
        · rw [touched_eq h]
          rfl

end LdapLogin

namespace SsoLogin

variable {login : SsoLogin} {fresh : Fresh} {t t' : UserTable} {user : UserRow}

def account? (login : SsoLogin) (t : UserTable) : Option UserRow :=
  (t.getUserByExternalIdentity login.issuer login.subject).or <|
    (t.getUserByUsername login.username).filter fun u => isUnset u.externalSubject && login.mayLink

/-- What a resolver does on its own: it searches for a name without writing anything, and creates
an account of the identity with the role. -/
structure Creates (login : SsoLogin) (createdRole : UserRole) : Prop where
  search : ∀ attempts t t' name, (login.newUsername attempts).run t = (t', .ok name) → t' = t
  issuer : ∀ name, (login.created name).externalIssuer = some login.issuer
  subject : ∀ name, (login.created name).externalSubject = some login.subject
  role : ∀ name, (login.created name).role = createdRole

variable {createdRole : UserRole} (hCreates : login.Creates createdRole)

include hCreates

theorem role_create (hNone : t.getUserByExternalIdentity login.issuer login.subject = none)
    (h : (login.create fresh).run t = (t', .ok user)) : user.role = createdRole := by
  unfold create at h
  split at h
  · cases h
  · obtain ⟨t₁, username, hSearch, hCreate⟩ := Async.run_bind_eq_ok.mp h
    obtain rfl := hCreates.search _ _ _ _ hSearch
    rw [createJitLogin_eq (hCreates.issuer _) (hCreates.subject _) hNone hCreate]
    exact hCreates.role username

theorem role_resolve (h : (login.resolve fresh).run t = (t', .ok user)) :
    HasRoleOf (login.account? t) createdRole user := by
  unfold account?
  rw [resolve, Async.run_read_bind] at h
  cases hIdentity : t.getUserByExternalIdentity login.issuer login.subject with
  | some u =>
    rw [hIdentity] at h
    rw [touched_eq h]
    rfl
  | none =>
    rw [hIdentity] at h
    dsimp only at h
    rw [Async.run_read_bind] at h
    cases hName : t.getUserByUsername login.username with
    | none =>
      rw [hName] at h
      exact role_create hCreates hIdentity h
    | some u =>
      rw [hName] at h
      simp only [byUsername] at h
      split at h
      · cases h
      · split at h
        · cases h
        · split at h
          · rename_i hLink
            have hMem : u ∈ t.rows := List.mem_of_find?_eq_some hName
            simpa [HasRoleOf, Option.filter, hLink] using role_of_linkLogin hMem h
          · rename_i hNot
            simpa [HasRoleOf, Option.filter, hNot] using role_create hCreates hIdentity h

end SsoLogin

theorem creates_header (identity : HeaderAuthIdentity) (providers : AuthProviders) (fresh : Fresh) :
    (headerSsoLogin identity providers fresh).Creates
      (applyMaxRole (resolveRoleFromOidcClaims identity.claims providers.mappingRules
        (parseUserRole providers.jitDefaultRole .viewer) providers.headerMaxRole)
        providers.headerMaxRole) where
  search := fun _ _ _ _ h => run_searchUsername h
  issuer := fun _ => rfl
  subject := fun _ => rfl
  role := fun _ => rfl

theorem creates_oidc (issuer subject : Text) (claims : Claims) (providers : AuthProviders)
    (fresh : Fresh) :
    (oidcSsoLogin issuer subject claims providers fresh).Creates
      (applyMaxRole (resolveRoleFromOidcClaims claims providers.mappingRules
        (parseUserRole providers.jitDefaultRole .viewer) providers.oidcMaxRole)
        providers.oidcMaxRole) where
  search := fun _ _ _ _ h => run_searchUsername h
  issuer := fun _ => rfl
  subject := fun _ => rfl
  role := fun _ => rfl

inductive ExternalLogin where
  | ldap (login : LdapLogin)
  | header (identity : HeaderAuthIdentity) (providers : AuthProviders)
  | oidc (issuer subject : Text) (claims : Claims) (providers : AuthProviders)

namespace ExternalLogin

def resolve (login : ExternalLogin) (fresh : Fresh) : Db UserRow :=
  match login with
  | ldap login => login.resolve fresh
  | header identity providers => resolveHeaderLoginUser identity providers fresh
  | oidc issuer subject claims providers =>
    resolveOidcLoginUser issuer subject claims providers fresh

def maxRole : ExternalLogin → Option UserRole
  | ldap login => login.providers.ldapMaxRole
  | header _ providers => providers.headerMaxRole
  | oidc _ _ _ providers => providers.oidcMaxRole

/-- The account that the table already has for a login: the one with its identity, else with its
directory login, else the one of its user name that it may link. -/
def account? (login : ExternalLogin) (fresh : Fresh) (t : UserTable) : Option UserRow :=
  match login with
  | ldap login => login.account? t
  | header identity providers => (headerSsoLogin identity providers fresh).account? t
  | oidc issuer subject claims providers =>
    (oidcSsoLogin issuer subject claims providers fresh).account? t

end ExternalLogin

private def directory : AuthProviders where
  ldapEnabled := true
  ldapUrl := ['l']
  ldapBindDn := ['b']
  ldapUsernameAttribute := []
  headerIssuer := []
  jitEnabled := true
  jitDefaultRole := []
  jitDefaultActive := true
  mappingRules := [.ldapGroupDn ['g'] .admin]
  oidcMaxRole := none
  ldapMaxRole := some .operator
  headerMaxRole := none

private def admins : ExternalLogin :=
  .ldap ⟨⟨['d'], none, [['g']], []⟩, ['n'], directory⟩

private def drawn : Fresh := ⟨['1'], ['0'], 1⟩

private def known : UserRow :=
  { id := ['2'], username := ['n'], role := .admin, active := true, authSource := .ldap
    externalIssuer := some ['l'], externalSubject := some ['d'], externalLogin := some ['n'] }

end EsosWebui.Users
