import EsosWebui.Js.Async
import EsosWebui.Js.Strings

/-! The accounts and what the repository reads and writes of them. Columns that only record times,
preferences or the creator of an account are left out, except those of an external login. -/
namespace EsosWebui.Users

open Js

inductive UserRole where
  | viewer
  | operator
  | admin
  deriving DecidableEq

/-- `ROLE_ORDER` -/
def UserRole.order : UserRole → Nat
  | viewer => 0
  | operator => 1
  | admin => 2

inductive AuthSource where
  | localAccount
  | ldap
  | oidc
  | header
  deriving DecidableEq

structure UserRow where
  id : Text
  username : Text
  displayName : Option Text := none
  passwordHash : Option Text := none
  role : UserRole
  active : Bool
  sessionVersion : Nat := 0
  authSource : AuthSource := .localAccount
  externalIssuer : Option Text := none
  externalSubject : Option Text := none
  externalLogin : Option Text := none
  externalEmail : Option Text := none
  lastExternalLoginAt : Option Text := none

def UserRow.isActiveAdmin (u : UserRow) : Bool := u.role == .admin && u.active

/-- The table `users`, whose primary key is `id`. -/
structure UserTable where
  rows : List UserRow
  idUnique : (rows.map (·.id)).Nodup

/-- What a handler throws; an error of the database has no data and is answered with 500. -/
structure HttpError where
  statusCode : Nat
  message : String
  data : Option (String × String) := none

namespace UserTable

variable (t : UserTable)

def getUserByUsername (username : Text) : Option UserRow :=
  t.rows.find? fun u => u.username == username

def getUserById (id : Text) : Option UserRow := t.rows.find? fun u => u.id == id

def getUserByExternalIdentity (issuer subject : Text) : Option UserRow :=
  t.rows.find? fun u => u.externalIssuer == some issuer && u.externalSubject == some subject

def getLdapUserByExternalLogin (issuer externalLogin : Text) : Option UserRow :=
  let login := trim externalLogin
  if login.isEmpty then none
  else t.rows.find? fun u =>
    u.authSource == .ldap && u.externalIssuer == some issuer && u.externalLogin == some login

def countAdmins : Nat := t.rows.countP (·.isActiveAdmin)

/-- `db.update(users).set(...).where(eq(users.id, id))` -/
def update (id : Text) (set : UserRow → UserRow) : UserTable where
  rows := t.rows.map fun u => if u.id = id then { set u with id := u.id } else u
  idUnique := by
    have hIds : (t.rows.map fun u => if u.id = id then { set u with id := u.id } else u).map
        (·.id) = t.rows.map (·.id) := by
      rw [List.map_map]
      refine List.map_congr_left fun u _ => ?_
      show (if u.id = id then { set u with id := u.id } else u).id = u.id
      split <;> rfl
    rw [hIds]
    exact t.idUnique

def deleteUser (id : Text) : UserTable where
  rows := t.rows.filter fun u => u.id != id
  idUnique := t.idUnique.sublist ((List.filter_sublist (l := t.rows)).map _)

def hasIdentity (issuer subject : Text) : Bool :=
  (t.getUserByExternalIdentity issuer subject).isSome

/-- What a unique index other than the primary key says to a new row. -/
def duplicate? (row : UserRow) : Option String :=
  if (t.getUserByUsername row.username).isSome then some "UNIQUE constraint failed: users.username"
  else
    match row.externalIssuer, row.externalSubject with
    | some issuer, some subject =>
      if t.hasIdentity issuer subject then
        some "UNIQUE constraint failed: users.external_issuer, users.external_subject"
      else none
    | _, _ => none

/-- `db.insert(users).values(row)` -/
def insert (row : UserRow) : UserTable × Except HttpError Unit :=
  if h : row.id ∈ t.rows.map (·.id) then
    (t, .error ⟨500, "UNIQUE constraint failed: users.id", none⟩)
  else
    match t.duplicate? row with
    | some message => (t, .error ⟨500, message, none⟩)
    | none => (⟨t.rows ++ [row], by simpa [List.nodup_append, t.idUnique] using h⟩, .ok ())

/-- `linkUserToFederatedIdentity` -/
def linkUserToFederatedIdentity (userId : Text) (authSource : AuthSource)
    (issuer subject : Text) : UserTable × Except HttpError Unit :=
  if t.rows.any fun u => u.id != userId && u.externalIssuer == some issuer &&
      u.externalSubject == some subject then
    (t, .error ⟨500, "UNIQUE constraint failed: users.external_issuer, users.external_subject",
      none⟩)
  else
    (t.update userId fun u =>
      { u with externalIssuer := some issuer, externalSubject := some subject, authSource }, .ok ())

end UserTable

inductive ClaimValue where
  | text (s : Text)
  | bool (b : Bool)
  | array (texts : List Text)
  | other

abbrev Claims := List (Text × ClaimValue)

/-- A rule as `parseAuthMappingRulesJson` returns it. -/
inductive AuthMappingRule where
  | oidcClaim (claim part : Text) (role : UserRole)
  | ldapGroupDn (part : Text) (role : UserRole)

def capRole (role max : UserRole) : UserRole := if max.order < role.order then max else role

def applyMaxRole (role : UserRole) (maxRole : Option UserRole) : UserRole :=
  maxRole.elim role (capRole role)

def parseUserRole (s : Text) (fallback : UserRole) : UserRole :=
  if s = "admin".toList then .admin
  else if s = "operator".toList then .operator
  else if s = "viewer".toList then .viewer
  else fallback

def claimValues (claims : Claims) (claim : Text) : List Text :=
  match claims.lookup claim with
  | some (.text s) => [s]
  | some (.array texts) => texts
  | _ => []

def bestRole (applies : AuthMappingRule → Option UserRole) (rules : List AuthMappingRule)
    (defaultRole : UserRole) : UserRole :=
  rules.foldl (fun best rule =>
    match applies rule with
    | some role => if best.order < role.order then role else best
    | none => best) defaultRole

def resolveRoleFromOidcClaims (claims : Claims) (rules : List AuthMappingRule)
    (defaultRole : UserRole) (maxRole : Option UserRole) : UserRole :=
  let applies : AuthMappingRule → Option UserRole
    | .oidcClaim claim part role =>
      if (claimValues claims claim).any (contains · part) then some role else none
    | .ldapGroupDn .. => none
  applyMaxRole (bestRole applies rules defaultRole) maxRole

def resolveRoleFromLdapGroups (groupDns : List Text) (rules : List AuthMappingRule)
    (defaultRole : UserRole) (maxRole : Option UserRole) : UserRole :=
  let applies : AuthMappingRule → Option UserRole
    | .ldapGroupDn part role => if groupDns.any (contains · part) then some role else none
    | .oidcClaim .. => none
  applyMaxRole (bestRole applies rules defaultRole) maxRole

theorem order_capRole_le (role max : UserRole) : (capRole role max).order ≤ max.order := by
  unfold capRole
  split <;> omega

theorem order_applyMaxRole_le (role max : UserRole) :
    (applyMaxRole role (some max)).order ≤ max.order :=
  order_capRole_le role max

end EsosWebui.Users
