import EsosWebui.Users.Types

/-! The accounts that external logins are resolved to: those known by their identity, those that a
login links, and those created just in time. -/
namespace EsosWebui.Users

open Js

abbrev Db := Async UserTable HttpError

/-- The settings that the resolvers and the provisioning read. -/
structure AuthProviders where
  ldapEnabled : Bool
  ldapUrl : Text
  ldapBindDn : Text
  ldapUsernameAttribute : Text
  headerIssuer : Text
  jitEnabled : Bool
  jitDefaultRole : Text
  jitDefaultActive : Bool
  mappingRules : List AuthMappingRule
  oidcMaxRole : Option UserRole
  ldapMaxRole : Option UserRole
  headerMaxRole : Option UserRole

def touchExternalLogin (userId now : Text) : Db Unit :=
  Async.modify fun t => t.update userId fun u => { u with lastExternalLoginAt := some now }

def throwing {α : Type} (statusCode : Nat) (message : String)
    (data : Option (String × String)) : Db α :=
  .failed ⟨statusCode, message, data⟩

/-- An account is linked and read again in one turn, then touched. -/
def linkLogin (userId : Text) (authSource : AuthSource) (issuer subject now : Text) :
    Db UserRow := do
  let linked ← Async.atomic fun t =>
    let linking := t.linkUserToFederatedIdentity userId authSource issuer subject
    (linking.1, linking.2.map fun _ => linking.1.getUserById userId)
  match linked with
  | none => throwing 500 "Erreur liaison compte" none
  | some linked => do
      touchExternalLogin linked.id now
      return linked

/-- `n += 1`, of a number that is exact up to 2 ^ 53 and stays there. -/
def increment (n : Nat) : Nat := min (n + 1) (2 ^ 53)

/-- The names tried one after the other, until one is free; `attempts` bounds the search. -/
def searchUsername (candidate : Nat → Text) (attempts n : Nat) (username : Text) : Db Text :=
  match attempts with
  | 0 => throwing 500 "no free name" none
  | attempts + 1 => do
      let taken ← Async.read fun t => t.getUserByUsername username
      match taken with
      | none => return username
      | some _ => searchUsername candidate attempts (increment n) (candidate (increment n))

/-- An account is created and read again in one turn. -/
def createJitLogin (row : UserRow) (issuer subject : Text) (failure : String) : Db UserRow := do
  let created ← Async.atomic fun t =>
    let inserted := t.insert row
    (inserted.1, inserted.2.map fun _ => inserted.1.getUserByExternalIdentity issuer subject)
  match created with
  | none => throwing 500 failure none
  | some created => return created

/-- `!value`, of a text that may be null. -/
def isUnset (value : Option Text) : Bool := value.all (·.isEmpty)

/-- `value && value !== other` -/
def conflicts (value : Option Text) (other : Text) : Bool := !isUnset value && value != some other

def suffixedName (base suffix : Text) : Text :=
  sliceUnits (max 1 (64 - suffix.length)) base ++ suffix

def numberSuffix (label : String) (n : Nat) : Text := label.toList ++ Nat.toDigits 10 n

structure LdapEntry where
  dn : Text
  displayName : Option Text
  groupDns : List Text
  attributesPreview : List (Text × Text)

/-- The account name of a login: without its domain, or the part before `@`. -/
def accountNameOf (raw : Text) : Text :=
  let rawUsername := trim raw
  let orRaw := fun name : Text => if name.isEmpty then rawUsername else name
  if rawUsername.contains '\\' then orRaw (trim (rawUsername.dropWhile (· != '\\')).tail)
  else
    let atIndex := rawUsername.findIdx (· == '@')
    if 0 < atIndex ∧ atIndex + 1 < rawUsername.length then orRaw (trim (rawUsername.take atIndex))
    else rawUsername

def ldapAccountNameFromRow (ldapRow : LdapEntry) (usernameAttribute loginName : Text) : Text :=
  let trimmed := trim usernameAttribute
  let loginAttr := if trimmed.isEmpty then "sAMAccountName".toList else trimmed
  let fromAttr := trim ((ldapRow.attributesPreview.lookup loginAttr).getD [])
  if fromAttr.isEmpty then accountNameOf loginName else fromAttr

structure LdapLogin where
  ldapRow : LdapEntry
  loginName : Text
  providers : AuthProviders

/-- What the run of a handler takes from outside: a new id, the time, and how long a search for a
name may go on. -/
structure Fresh where
  id : Text
  now : Text
  attempts : Nat

namespace LdapLogin

variable (login : LdapLogin) (fresh : Fresh)

def issuer : Text := trim login.providers.ldapUrl

def subject : Text := login.ldapRow.dn

def accountName : Text :=
  ldapAccountNameFromRow login.ldapRow login.providers.ldapUsernameAttribute login.loginName

def createdRole : UserRole :=
  let defaultRole := parseUserRole login.providers.jitDefaultRole .viewer
  let mappedRole := resolveRoleFromLdapGroups login.ldapRow.groupDns login.providers.mappingRules
    defaultRole login.providers.ldapMaxRole
  applyMaxRole mappedRole login.providers.ldapMaxRole

def newUsername : Db Text := do
  let taken ← Async.read fun t => t.getUserByUsername login.accountName
  match taken with
  | none => return login.accountName
  | some _ =>
    searchUsername (fun n => suffixedName login.accountName (numberSuffix "_ldap" n))
      fresh.attempts 0 login.accountName

def create : Db UserRow :=
  if !login.providers.jitEnabled then
    throwing 403 "Identifiants incorrects" (some ("ldap.user_not_imported", "user_not_imported"))
  else do
    let username ← login.newUsername fresh
    createJitLogin
      { id := fresh.id
        username
        displayName := login.ldapRow.displayName
        role := login.createdRole
        active := login.providers.jitDefaultActive
        authSource := .ldap
        externalIssuer := some login.issuer
        externalSubject := some login.subject
        externalLogin := some login.accountName
        lastExternalLoginAt := some fresh.now }
      login.issuer login.subject "Création compte LDAP échouée"

def byUsername (found : Option UserRow) : Db UserRow :=
  match found with
  | none => login.create fresh
  | some user =>
    if conflicts user.externalSubject login.subject then
      throwing 403 "Ce compte est associé à un autre annuaire LDAP." none
    else if conflicts user.externalIssuer login.issuer then
      throwing 403 "Serveur LDAP incompatible pour ce compte." none
    else if isUnset user.externalSubject then
      linkLogin user.id .ldap login.issuer login.subject fresh.now
    else login.create fresh

def byExternalLogin (found : Option UserRow) : Db UserRow :=
  match found with
  | some user =>
    if conflicts user.externalSubject login.subject then
      throwing 403 "Ce compte est associé à un autre utilisateur LDAP."
        (some ("ldap.identity_conflict", "identity_conflict"))
    else if isUnset user.externalSubject then
      linkLogin user.id .ldap login.issuer login.subject fresh.now
    else do
      touchExternalLogin user.id fresh.now
      return user
  | none => do
      let found ← Async.read fun t => t.getUserByUsername login.loginName
      login.byUsername fresh found

/-- `resolveLdapLoginUser` -/
def resolve : Db UserRow := do
  let known ← Async.read fun t => t.getUserByExternalIdentity login.issuer login.subject
  match known with
  | some user => do
      touchExternalLogin user.id fresh.now
      return user
  | none => do
      let found ← Async.read fun t => t.getLdapUserByExternalLogin login.issuer login.accountName
      login.byExternalLogin fresh found

end LdapLogin

def isUsernameChar (c : Char) : Bool := c.isAlphanum || c == '_' || c == '.' || c == '-'

def squeezeUnderscores : Text → Text
  | '_' :: '_' :: rest => squeezeUnderscores ('_' :: rest)
  | c :: rest => c :: squeezeUnderscores rest
  | [] => []

def stripUnderscores (s : Text) : Text :=
  let s := if s.head? = some '_' then s.tail else s
  if s.getLast? = some '_' then s.dropLast else s

def sanitizeUsername (base : Text) : Text :=
  let s := stripUnderscores (squeezeUnderscores
    (base.map fun c => if isUsernameChar c then c else '_'))
  let short := s.take 64
  (if short.isEmpty then "user".toList else short).map Char.toLower

/-- What the header and the OIDC resolver do alike once they know the name of the account. -/
structure SsoLogin where
  issuer : Text
  subject : Text
  authSource : AuthSource
  username : Text
  mayLink : Bool
  jitEnabled : Bool
  newUsername : Nat → Db Text
  created : Text → UserRow
  otherSubject : String
  otherIssuer : String
  creationFailed : String

namespace SsoLogin

variable (login : SsoLogin) (fresh : Fresh)

def create : Db UserRow :=
  if !login.jitEnabled then
    throwing 403
      "Aucun compte correspondant. Activez le provisionnement JIT ou créez le compte." none
  else do
    let username ← login.newUsername fresh.attempts
    createJitLogin (login.created username) login.issuer login.subject login.creationFailed

def byUsername (found : Option UserRow) : Db UserRow :=
  match found with
  | none => login.create fresh
  | some user =>
    if conflicts user.externalSubject login.subject then throwing 403 login.otherSubject none
    else if conflicts user.externalIssuer login.issuer then throwing 403 login.otherIssuer none
    else if isUnset user.externalSubject && login.mayLink then
      linkLogin user.id login.authSource login.issuer login.subject fresh.now
    else login.create fresh

def resolve : Db UserRow := do
  let known ← Async.read fun t => t.getUserByExternalIdentity login.issuer login.subject
  match known with
  | some user => do
      touchExternalLogin user.id fresh.now
      return user
  | none => do
      let found ← Async.read fun t => t.getUserByUsername login.username
      login.byUsername fresh found

end SsoLogin

structure HeaderAuthIdentity where
  username : Text
  email : Option Text
  displayName : Option Text
  claims : Claims

def headerSsoLogin (identity : HeaderAuthIdentity) (providers : AuthProviders) (fresh : Fresh) :
    SsoLogin :=
  let issuer := trim providers.headerIssuer
  let subject := trim identity.username
  let defaultRole := parseUserRole providers.jitDefaultRole .viewer
  let mappedRole := resolveRoleFromOidcClaims identity.claims providers.mappingRules defaultRole
    providers.headerMaxRole
  let finalRole := applyMaxRole mappedRole providers.headerMaxRole
  let username := sanitizeUsername identity.username
  { issuer
    subject
    authSource := .header
    username
    mayLink := true
    jitEnabled := providers.jitEnabled
    newUsername := fun attempts =>
      searchUsername (fun n => sanitizeUsername (username ++ numberSuffix "_" n)) attempts 0
        (sanitizeUsername username)
    created := fun username =>
      { id := fresh.id
        username
        displayName := identity.displayName.orElse fun _ => identity.email
        role := finalRole
        active := providers.jitDefaultActive
        authSource := .header
        externalIssuer := some issuer
        externalSubject := some subject
        externalLogin := some identity.username
        externalEmail := identity.email
        lastExternalLoginAt := some fresh.now }
    otherSubject := "Ce compte local est associé à un autre identifiant SSO."
    otherIssuer := "Émetteur SSO incompatible pour ce compte."
    creationFailed := "Création compte header SSO échouée" }

def resolveHeaderLoginUser (identity : HeaderAuthIdentity) (providers : AuthProviders)
    (fresh : Fresh) : Db UserRow :=
  let login := headerSsoLogin identity providers fresh
  if login.issuer.isEmpty || login.subject.isEmpty then
    throwing 401 "Identité header incomplète." none
  else login.resolve fresh

def claimText? (claims : Claims) (claim : String) : Option Text :=
  match claims.lookup claim.toList with
  | some (.text s) => some s
  | _ => none

def suggestUsernameFromOidc (sub : Text) (email preferred : Option Text) : Text :=
  let preferred := trim (preferred.getD [])
  let mailbox := trim ((email.getD []).takeWhile (· != '@'))
  sanitizeUsername
    (if !preferred.isEmpty then preferred else if !mailbox.isEmpty then mailbox else sub)

def oidcClaimsAllowAutoLinkToExistingAccount (claims : Claims) : Bool :=
  match claims.lookup "email_verified".toList with
  | some (.bool b) => b
  | some (.text s) => s == "true".toList
  | _ => false

def oidcSsoLogin (issuer subject : Text) (claims : Claims) (providers : AuthProviders)
    (fresh : Fresh) : SsoLogin :=
  let defaultRole := parseUserRole providers.jitDefaultRole .viewer
  let mappedRole := resolveRoleFromOidcClaims claims providers.mappingRules defaultRole
    providers.oidcMaxRole
  let finalRole := applyMaxRole mappedRole providers.oidcMaxRole
  let pref := claimText? claims "preferred_username"
  let username := suggestUsernameFromOidc subject (claimText? claims "email") pref
  { issuer
    subject
    authSource := .oidc
    username
    mayLink := oidcClaimsAllowAutoLinkToExistingAccount claims
    jitEnabled := providers.jitEnabled
    newUsername := fun attempts =>
      searchUsername (fun n => suffixedName username (numberSuffix "_" n)) attempts 0 username
    created := fun username =>
      { id := fresh.id
        username
        displayName := (claimText? claims "name").orElse fun _ => pref
        role := finalRole
        active := providers.jitDefaultActive
        authSource := .oidc
        externalIssuer := some issuer
        externalSubject := some subject
        lastExternalLoginAt := some fresh.now }
    otherSubject := "Ce compte local est associé à un autre identifiant OIDC."
    otherIssuer := "Émetteur OIDC incompatible pour ce compte."
    creationFailed := "Création compte OIDC échouée" }

def resolveOidcLoginUser (issuer subject : Text) (claims : Claims) (providers : AuthProviders)
    (fresh : Fresh) : Db UserRow :=
  (oidcSsoLogin issuer subject claims providers fresh).resolve fresh

end EsosWebui.Users
