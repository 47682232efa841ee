import EsosWebui.Users.AdminRoutes
import EsosWebui.Users.RoleCap

/-! What a turn of a request can do to the accounts, told once for all requests. -/
namespace EsosWebui.Users

open Js

inductive LoginWrite (t : UserTable) : UserTable → Prop
  | read : LoginWrite t t
  | touched (userId now : Text) :
      LoginWrite t (t.update userId fun u => { u with lastExternalLoginAt := some now })
  | linked (userId : Text) (authSource : AuthSource) (issuer subject : Text) :
      LoginWrite t (t.linkUserToFederatedIdentity userId authSource issuer subject).1
  | created (row : UserRow) : LoginWrite t (t.insert row).1

/-- What a turn of any request does. -/
inductive UserWrite (t : UserTable) : UserTable → Prop
  | login {t' : UserTable} (h : LoginWrite t t') : UserWrite t t'
  | patched (id : Text) (input : UserPatch) : UserWrite t (t.update id input.set)
  | provisioned (id : Text) (input : ProvisionedUser) : UserWrite t (t.update id input.set)
  | raised (id : Text) :
      UserWrite t (t.update id fun u => { u with sessionVersion := u.sessionVersion + 1 })
  | passwordSet (id newHash : Text) : UserWrite t (t.update id fun u =>
    { u with passwordHash := some newHash, authSource := .localAccount })
  | passwordReset (id newHash : Text) : UserWrite t (t.update id fun u =>
    { u with
      passwordHash := some newHash
      authSource := .localAccount
      externalIssuer := none
      externalSubject := none
      lastExternalLoginAt := none })
  | deleted (id : Text) : UserWrite t (t.deleteUser id)

section

variable {α : Type}

abbrev WritesAsLogin (p : Db α) : Prop := p.Always LoginWrite

theorem writesAsLogin_pure (a : α) : WritesAsLogin (pure a) := .done a

theorem writesAsLogin_read (f : UserTable → α) : WritesAsLogin (Async.read f) :=
  Async.always_read fun _ => .read

theorem writesAsLogin_touch (userId now : Text) : WritesAsLogin (touchExternalLogin userId now) :=
  Async.always_modify fun _ => .touched userId now

theorem writesAsLogin_touched (u : UserRow) (now : Text) :
    WritesAsLogin (do touchExternalLogin u.id now; return u) :=
  (writesAsLogin_touch _ _).bind fun _ => writesAsLogin_pure _

theorem writesAsLogin_linkLogin (userId : Text) (authSource : AuthSource)
    (issuer subject now : Text) :
    WritesAsLogin (linkLogin userId authSource issuer subject now) := by
  refine (Async.always_atomic fun t => .linked userId authSource issuer subject).bind
    fun linked => ?_
  cases linked with
  | none => exact .failed _
  | some linked => exact writesAsLogin_touched linked now

theorem writesAsLogin_searchUsername (candidate : Nat → Text) (attempts n : Nat)
    (username : Text) : WritesAsLogin (searchUsername candidate attempts n username) := by
  induction attempts generalizing n username with
  | zero => exact .failed _
  | succ attempts ih =>
    refine (writesAsLogin_read _).bind fun taken => ?_
    cases taken with
    | none => exact writesAsLogin_pure _
    | some _ => exact ih _ _

theorem writesAsLogin_createJitLogin (row : UserRow) (issuer subject : Text) (failure : String) :
    WritesAsLogin (createJitLogin row issuer subject failure) := by
  refine (Async.always_atomic fun t => .created row).bind fun created => ?_
  cases created with
  | none => exact .failed _
  | some created => exact writesAsLogin_pure _

theorem LdapLogin.writesAsLogin_newUsername (login : LdapLogin) (fresh : Fresh) :
    WritesAsLogin (login.newUsername fresh) := by
  refine (writesAsLogin_read _).bind fun taken => ?_
  cases taken with
  | none => exact writesAsLogin_pure _
  | some _ => exact writesAsLogin_searchUsername _ _ _ _

theorem LdapLogin.writesAsLogin_create (login : LdapLogin) (fresh : Fresh) :
    WritesAsLogin (login.create fresh) := by
  unfold create
  split
  · exact .failed _
  · exact (login.writesAsLogin_newUsername fresh).bind fun username =>
      writesAsLogin_createJitLogin _ _ _ _

theorem LdapLogin.writesAsLogin_resolve (login : LdapLogin) (fresh : Fresh) :
    WritesAsLogin (login.resolve fresh) := by
  refine (writesAsLogin_read _).bind fun known => ?_
  cases known with
  | some u => exact writesAsLogin_touched u _
  | none =>
    refine (writesAsLogin_read _).bind fun found => ?_
    cases found with
    | some u =>
      simp only [byExternalLogin]
      split
      · exact .failed _
      · split
        · exact writesAsLogin_linkLogin _ _ _ _ _
        · exact writesAsLogin_touched u _
    | none =>
      refine (writesAsLogin_read _).bind fun found => ?_
      cases found with
      | none => exact login.writesAsLogin_create fresh
      | some u =>
        simp only [byUsername]
        split_ifs
        · exact .failed _
        · exact .failed _
        · exact writesAsLogin_linkLogin _ _ _ _ _
        · exact login.writesAsLogin_create fresh

theorem SsoLogin.writesAsLogin_create (login : SsoLogin) (fresh : Fresh)
    (hSearch : ∀ attempts, WritesAsLogin (login.newUsername attempts)) :
    WritesAsLogin (login.create fresh) := by
  unfold create
  split
  · exact .failed _
  · exact (hSearch _).bind fun username => writesAsLogin_createJitLogin _ _ _ _

theorem SsoLogin.writesAsLogin_resolve (login : SsoLogin) (fresh : Fresh)
    (hSearch : ∀ attempts, WritesAsLogin (login.newUsername attempts)) :
    WritesAsLogin (login.resolve fresh) := by
  refine (writesAsLogin_read _).bind fun known => ?_
  cases known with
  | some u => exact writesAsLogin_touched u _
  | none =>
    refine (writesAsLogin_read _).bind fun found => ?_
    cases found with
    | none => exact login.writesAsLogin_create fresh hSearch
    | some u =>
      simp only [byUsername]
      split_ifs
      · exact .failed _
      · exact .failed _
      · exact writesAsLogin_linkLogin _ _ _ _ _
      · exact login.writesAsLogin_create fresh hSearch

theorem writesAsLogin (login : ExternalLogin) (fresh : Fresh) :
    WritesAsLogin (login.resolve fresh) := by
  cases login with
  | ldap login => exact login.writesAsLogin_resolve fresh
  | header identity providers =>
    simp only [ExternalLogin.resolve, resolveHeaderLoginUser]
    split
    · exact .failed _
    · exact SsoLogin.writesAsLogin_resolve _ _ fun _ => writesAsLogin_searchUsername _ _ _ _
  | oidc issuer subject claims providers =>
    exact SsoLogin.writesAsLogin_resolve _ _ fun _ => writesAsLogin_searchUsername _ _ _ _

end

section

variable {α : Type}

abbrev Writes (p : Db α) : Prop := p.Always UserWrite

theorem WritesAsLogin.writes {p : Db α} (h : WritesAsLogin p) : Writes p :=
  h.mono fun _ _ => .login

theorem writes_pure (a : α) : Writes (pure a) := .done a

theorem writes_read (f : UserTable → α) : Writes (Async.read f) := (writesAsLogin_read f).writes

theorem writes_invalidateSessions (id : Text) : Writes (invalidateSessions id) :=
  Async.always_modify fun _ => .raised id

theorem UserPatch.writes_write (id : Text) (input : UserPatch) : Writes (input.write id) := by
  refine (Async.always_modify fun _ => .patched id input).bind fun _ => ?_
  split
  · exact writes_invalidateSessions id
  · exact writes_pure ()

theorem UserPatch.writes_handler (id : Text) (input : UserPatch) (currentUser : Text) :
    Writes (input.handler id currentUser) := by
  refine (writes_read _).bind fun target => ?_
  cases target with
  | none => exact .failed _
  | some target =>
    simp only [UserPatch.found]
    split
    · exact .failed _
    · split
      · refine (writes_read _).bind fun adminCount => ?_
        unfold UserPatch.counted
        split
        · exact .failed _
        · exact input.writes_write id
      · exact input.writes_write id

theorem UserDeletion.writes_handler (id currentUser : Text) :
    Writes (UserDeletion.handler id currentUser) := by
  have hWrite : Writes (UserDeletion.write id) := Async.always_modify fun _ => .deleted id
  unfold UserDeletion.handler
  split
  · exact .failed _
  · refine (writes_read _).bind fun target => ?_
    cases target with
    | none => exact .failed _
    | some target =>
      simp only [UserDeletion.found]
      split
      · refine (writes_read _).bind fun adminCount => ?_
        unfold UserDeletion.counted
        split
        · exact .failed _
        · exact hWrite
      · exact hWrite

theorem PasswordChange.writes_handler (userId newHash : Text) :
    Writes (PasswordChange.handler userId newHash) := by
  refine (writes_read _).bind fun account => ?_
  unfold PasswordChange.found
  split
  · exact .failed _
  · exact (writes_read _).bind fun _ => Async.always_modify fun _ => .passwordSet userId newHash

theorem PasswordReset.writes_handler (id newHash : Text) :
    Writes (PasswordReset.handler id newHash) := by
  refine (writes_read _).bind fun target => ?_
  cases target with
  | none => exact .failed _
  | some target =>
    simp only [PasswordReset.found]
    split
    · exact .failed _
    · have hReset : Writes (resetPassword id newHash) :=
        (writes_read _).bind fun _ => Async.always_modify fun _ => .passwordReset id newHash
      exact hReset.bind fun _ => writes_invalidateSessions id

end

namespace ProvisionLdapUserInput

variable (row : ProvisionLdapUserInput) (providers : AuthProviders) (issuer : Text) (fresh : Fresh)

theorem writes_updateProvisioned (userId : Text) :
    Writes (row.updateProvisioned providers userId) :=
  (Async.always_modify fun _ => .provisioned userId (row.provisioned providers)).bind
    fun _ => writes_pure _

theorem writes_uniqueUsernameForBase : Writes (row.uniqueUsernameForBase fresh) := by
  refine (writes_read _).bind fun taken => ?_
  cases taken with
  | none => exact writes_pure _
  | some _ => exact (writesAsLogin_searchUsername _ _ _ _).writes

theorem writes_importNew : Writes (row.importNew providers issuer fresh) := by
  refine (row.writes_uniqueUsernameForBase fresh).bind fun username => ?_
  refine Async.Always.bind (Async.always_atomic fun t => .login (.created _)) fun _ => ?_
  exact writes_pure _

theorem writes_provisionRow : Writes (row.provisionRow providers issuer fresh) := by
  refine (writes_read _).bind fun existing => ?_
  cases existing with
  | some user => exact row.writes_updateProvisioned providers user.id
  | none =>
    refine (writes_read _).bind fun byName => ?_
    cases byName with
    | none => exact row.writes_importNew providers issuer fresh
    | some user =>
      simp only [byUsername]
      split_ifs
      · exact writes_pure _
      · refine Async.Always.bind
          (Async.always_atomic fun t => .login (.linked user.id .ldap issuer row.subject))
          fun _ => ?_
        exact row.writes_updateProvisioned providers user.id
      · exact row.writes_importNew providers issuer fresh

theorem writes_provision : Writes (row.provision providers issuer fresh) := by
  unfold provision
  split
  · exact writes_pure _
  · exact (row.writes_provisionRow providers issuer fresh).catching fun _ => writes_pure _

end ProvisionLdapUserInput

theorem writes_provisionLdapUsers (providers : AuthProviders)
    (users : List (ProvisionLdapUserInput × Fresh)) :
    Writes (provisionLdapUsers providers users) := by
  unfold provisionLdapUsers
  split
  · exact .failed _
  · split
    · exact .failed _
    · generalize trim providers.ldapUrl = issuer
      induction users with
      | nil => exact writes_pure _
      | cons user users ih =>
        refine (user.1.writes_provision providers issuer user.2).bind fun result => ?_
        exact ih.bind fun results => writes_pure _

end EsosWebui.Users
