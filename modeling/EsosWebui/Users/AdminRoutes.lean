import EsosWebui.Users.Logins

/-! The requests that change, delete or import accounts. -/
namespace EsosWebui.Users

open Js

/-- A valid body of the PATCH request. -/
structure UserPatch where
  displayName : Option (Option Text) := none
  role : Option UserRole := none
  active : Option Bool := none

def UserPatch.set (input : UserPatch) (u : UserRow) : UserRow :=
  { u with
    displayName := input.displayName.getD u.displayName
    role := input.role.getD u.role
    active := input.active.getD u.active }

def invalidateSessions (userId : Text) : Db Unit :=
  Async.modify fun t => t.update userId fun u => { u with sessionVersion := u.sessionVersion + 1 }

namespace UserPatch

variable (id : Text) (input : UserPatch)

def write : Db Unit := do
  Async.modify fun t => t.update id input.set
  if input.role.isSome || input.active.isSome then invalidateSessions id else return ()

def counted (adminCount : Nat) : Db Unit :=
  if adminCount ≤ 1 ∧ (input.role ≠ some .admin ∨ input.active = some false) then
    throwing 400 "Impossible : il doit rester au moins un administrateur actif." none
  else input.write id

def found (currentUser : Text) (target : Option UserRow) : Db Unit :=
  match target with
  | none => throwing 404 "Utilisateur introuvable" none
  | some target =>
    if target.id = currentUser ∧ (input.role.isSome ∨ input.active = some false) then
      throwing 400
        "Impossible de modifier votre propre rôle ou de désactiver votre propre compte." none
    else if target.isActiveAdmin then do
      let adminCount ← Async.read UserTable.countAdmins
      input.counted id adminCount
    else input.write id

/-- `PATCH /api/admin/users/:id` -/
def handler (currentUser : Text) : Db Unit := do
  let target ← Async.read fun t => t.getUserById id
  input.found id currentUser target

end UserPatch

namespace UserDeletion

variable (id : Text)

def write : Db Unit := Async.modify fun t => t.deleteUser id

def counted (adminCount : Nat) : Db Unit :=
  if adminCount ≤ 1 then
    throwing 400 "Impossible : il doit rester au moins un administrateur actif." none
  else write id

def found (target : Option UserRow) : Db Unit :=
  match target with
  | none => throwing 404 "Utilisateur introuvable" none
  | some target =>
    if target.isActiveAdmin then do
      let adminCount ← Async.read UserTable.countAdmins
      counted id adminCount
    else write id

/-- `DELETE /api/admin/users/:id` -/
def handler (currentUser : Text) : Db Unit :=
  if id = currentUser then throwing 400 "Impossible de supprimer votre propre compte." none
  else do
    let target ← Async.read fun t => t.getUserById id
    found id target

end UserDeletion

structure ProvisionLdapUserInput where
  dn : Text
  login : Text
  displayName : Option Text := none
  mail : Option Text := none
  esosUsername : Option Text := none
  role : UserRole
  active : Option Bool := none

inductive ProvisionRowResult where
  | imported (dn userId : Text)
  | updated (dn userId : Text)
  | failed (dn : Text) (code message : String)

/-- What `updateProvisionedExternalUser` sets. -/
structure ProvisionedUser where
  displayName : Option Text
  role : UserRole
  active : Bool
  externalLogin : Text
  externalEmail : Option Text

def ProvisionedUser.set (input : ProvisionedUser) (u : UserRow) : UserRow :=
  { u with
    displayName := input.displayName
    role := input.role
    active := input.active
    externalLogin := some input.externalLogin
    externalEmail := input.externalEmail }

namespace ProvisionLdapUserInput

variable (row : ProvisionLdapUserInput) (providers : AuthProviders) (issuer : Text) (fresh : Fresh)

def subject : Text := trim row.dn

def provisioned : ProvisionedUser where
  displayName := row.displayName
  role := applyMaxRole row.role providers.ldapMaxRole
  active := row.active.getD true
  externalLogin := trim row.login
  externalEmail := row.mail

def baseUsername : Text :=
  let esosUsername := trim (row.esosUsername.getD [])
  sliceUnits 64 (if esosUsername.isEmpty then trim row.login else esosUsername)

def updateProvisioned (userId : Text) : Db ProvisionRowResult := do
  Async.modify fun t => t.update userId (row.provisioned providers).set
  return .updated row.subject userId

/-- The name itself, or `base_ldap1` and so on. -/
def uniqueUsernameForBase : Db Text := do
  let base := row.baseUsername
  let taken ← Async.read fun t => t.getUserByUsername base
  match taken with
  | none => return base
  | some _ =>
    searchUsername (fun n => suffixedName base (numberSuffix "_ldap" n)) fresh.attempts 0 base

def importNew : Db ProvisionRowResult := do
  let username ← row.uniqueUsernameForBase fresh
  let _ ← Async.atomic fun t => t.insert
    { id := fresh.id
      username
      displayName := row.displayName
      role := (row.provisioned providers).role
      active := (row.provisioned providers).active
      authSource := .ldap
      externalIssuer := some issuer
      externalSubject := some row.subject
      externalLogin := some (trim row.login)
      externalEmail := row.mail
      lastExternalLoginAt := some fresh.now }
  return .imported row.subject fresh.id

def byUsername (byName : Option UserRow) : Db ProvisionRowResult :=
  match byName with
  | none => row.importNew providers issuer fresh
  | some user =>
    if conflicts user.externalSubject row.subject then
      return .failed row.subject "username_conflict"
        s!"Le nom d'utilisateur « {String.ofList row.baseUsername} » est déjà utilisé."
    else if isUnset user.externalSubject then do
      let _ ← Async.atomic fun t => t.linkUserToFederatedIdentity user.id .ldap issuer row.subject
      row.updateProvisioned providers user.id
    else row.importNew providers issuer fresh

def provisionRow : Db ProvisionRowResult := do
  let existing ← Async.read fun t => t.getUserByExternalIdentity issuer row.subject
  match existing with
  | some user => row.updateProvisioned providers user.id
  | none => do
      let byName ← Async.read fun t => t.getUserByUsername row.baseUsername
      row.byUsername providers issuer fresh byName

def provision : Db ProvisionRowResult :=
  if row.subject.isEmpty || (trim row.login).isEmpty then
    return .failed row.subject "invalid_row" "DN ou identifiant manquant"
  else
    (row.provisionRow providers issuer fresh).catching fun e =>
      return .failed row.subject "error" e.message

end ProvisionLdapUserInput

def provisionRows (providers : AuthProviders) (issuer : Text) :
    List (ProvisionLdapUserInput × Fresh) → Db (List ProvisionRowResult)
  | [] => return []
  | (row, fresh) :: rows => do
      let result ← row.provision providers issuer fresh
      let results ← provisionRows providers issuer rows
      return result :: results

def provisionLdapUsers (providers : AuthProviders) (users : List (ProvisionLdapUserInput × Fresh)) :
    Db (List ProvisionRowResult) :=
  if !providers.ldapEnabled then throwing 400 "LDAP est désactivé" none
  else if (trim providers.ldapUrl).isEmpty || (trim providers.ldapBindDn).isEmpty then
    throwing 400 "Configuration LDAP incomplète" none
  else provisionRows providers (trim providers.ldapUrl) users

/-- `await hashPassword(...)` -/
def hashPassword : Db Unit := Async.read fun _ => ()

def updatePassword (userId newHash : Text) : Db Unit := do
  hashPassword
  Async.modify fun t => t.update userId fun u =>
    { u with passwordHash := some newHash, authSource := .localAccount }

def resetPassword (id newHash : Text) : Db Unit := do
  hashPassword
  Async.modify fun t => t.update id fun u =>
    { u with
      passwordHash := some newHash
      authSource := .localAccount
      externalIssuer := none
      externalSubject := none
      lastExternalLoginAt := none }

namespace PasswordChange

variable (userId newHash : Text)

def found (account : Option UserRow) : Db Unit :=
  if account.any (·.authSource != .localAccount) then
    throwing 400 "Mot de passe géré par le fournisseur d’identité (LDAP/OIDC)." none
  else updatePassword userId newHash

/-- `POST /api/auth/change-password`, with a password that the policy allows -/
def handler : Db Unit := do
  let account ← Async.read fun t => t.getUserById userId
  found userId newHash account

end PasswordChange

namespace PasswordReset

variable (id newHash : Text)

def found (target : Option UserRow) : Db Unit :=
  match target with
  | none => throwing 404 "Utilisateur introuvable" none
  | some target =>
    if target.authSource != .localAccount then
      throwing 400 "Mot de passe géré par le fournisseur externe"
        (some ("code", "admin.password_external_provider"))
    else do
      resetPassword id newHash
      invalidateSessions id

/-- `POST /api/admin/users/:id/reset-password` -/
def handler : Db Unit := do
  let target ← Async.read fun t => t.getUserById id
  found id newHash target

end PasswordReset

end EsosWebui.Users
