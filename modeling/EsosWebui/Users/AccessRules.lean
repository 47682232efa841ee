import EsosWebui.Js.RegExp
import EsosWebui.Users.Types

/-! Which requests a role is let through: the tables of the rules for paths and methods, and what
changes with the role and with the method. -/
namespace EsosWebui.Users

open Js RegExp

inductive Method where
  | get
  | post
  | patch
  | put
  | delete
  | head
  | options
  | other (name : Text)
  deriving DecidableEq

/-- The methods of a rule: `'*'`, or those that are named. -/
inductive Methods where
  | star
  | named (methods : List Method)

def methodMatches : Methods → Method → Bool
  | .star, _ => true
  | .named methods, method => methods.contains method

structure RoutePermission where
  pattern : Anchored
  methods : Methods
  roles : List UserRole

/-- `MUTATING_METHODS` -/
def isMutating (method : Method) : Bool := [.post, .put, .patch, .delete].contains method

/-- `[^/]+` -/
def segment : RegExp := .plus (· ≠ '/')

/-- `(\/|$)` -/
def slashOrEnd : RegExp := .group (.either (.literal ['/']) (.stop false))

def logoutPath : Anchored := ⟨"/api/auth/logout", [.stop false]⟩
def changePasswordPath : Anchored := ⟨"/api/auth/change-password", [.stop false]⟩
def preferencesPath : Anchored := ⟨"/api/auth/preferences", [.stop false]⟩
def sshTestPath : Anchored := ⟨"/api/admin/ssh/test", [.stop false]⟩
def upgradePath : Anchored := ⟨"/api/admin/upgrade/", []⟩
def deploymentPath : Anchored := ⟨"/api/admin/deployment/", []⟩
def binariesPath : Anchored := ⟨"/api/admin/binaries", []⟩
def authProvidersPath : Anchored := ⟨"/api/admin/auth-providers", []⟩
def ldapReportsPath : Anchored :=
  ⟨"/api/admin/auth-providers/ldap/", [.group (.either (.literal "status".toList)
    (.either (.literal "provisioned".toList) (.literal "events".toList)))]⟩
def usersPath : Anchored := ⟨"/api/admin/users", []⟩
def missingToolsPath : Anchored := ⟨"/api/san/", [segment, .literal "/missing-tools/".toList]⟩
def binaryDeploymentsPath : Anchored :=
  ⟨"/api/san/", [segment, .literal "/binary-deployments".toList]⟩
def wsTicketPath : Anchored :=
  ⟨"/api/san/", [segment, .literal "/terminal/ws-ticket".toList, .stop false]⟩
def systemConfigPath : Anchored := ⟨"/api/san/", [segment, .literal "/system-config".toList]⟩
def adminSanPath : Anchored := ⟨"/api/admin/sans/", [segment, .stop false]⟩
def reconnectPath : Anchored :=
  ⟨"/api/admin/sans/", [segment, .literal "/reconnect".toList, .stop false]⟩
def dependenciesPath : Anchored := ⟨"/api/admin/dependencies", []⟩
def perfSetupPath : Anchored :=
  ⟨"/api/perf/", [.either (.literal "config".toList) (.either (.literal "service".toList)
    (.either (.literal "db-test".toList) (.literal "devices".toList)))]⟩
def perfPath : Anchored := ⟨"/api/perf/", []⟩
def raidPath : Anchored := ⟨"/api/raid/", []⟩
def advancedStoragePath : Anchored := ⟨"/api/advanced-storage/", []⟩
def lvmPath : Anchored := ⟨"/api/lvm/", []⟩
def fsPath : Anchored := ⟨"/api/fs/", []⟩
def clusterPath : Anchored := ⟨"/api/cluster/", []⟩
def targetsPath : Anchored := ⟨"/api/targets", []⟩
def accessControlPath : Anchored := ⟨"/api/targets/access-control", [.stop false]⟩
def devicesPath : Anchored := ⟨"/api/devices", []⟩
def sanPath : Anchored := ⟨"/api/san/", []⟩
def selectionPath : Anchored := ⟨"/api/context/selection", [.stop false]⟩
def sansPath : Anchored := ⟨"/api/admin/sans", [slashOrEnd]⟩
def clustersPath : Anchored := ⟨"/api/admin/clusters", [slashOrEnd]⟩
def loginHistoryPath : Anchored := ⟨"/api/admin/login-history", [.stop false]⟩
def appVersionPath : Anchored := ⟨"/api/admin/app-version", [slashOrEnd]⟩
def healthPath : Anchored := ⟨"/api/admin/health", [.stop false]⟩
def esosVersionPath : Anchored := ⟨"/api/admin/esos-version", [slashOrEnd]⟩
def adminPath : Anchored := ⟨"/api/admin/", []⟩

def allRoles : List UserRole := [.admin, .operator, .viewer]

/-- `MUTATION_ROUTE_PERMISSIONS` -/
def mutationRoutePermissions : List RoutePermission :=
  [⟨logoutPath, .named [.post], allRoles⟩,
    ⟨changePasswordPath, .named [.post], allRoles⟩,
    ⟨preferencesPath, .named [.patch], allRoles⟩,
    ⟨sshTestPath, .named [.post], [.admin]⟩,
    ⟨upgradePath, .named [.post, .put, .patch, .delete], [.admin]⟩,
    ⟨deploymentPath, .named [.post, .put, .patch, .delete], [.admin]⟩,
    ⟨binariesPath, .named [.post, .put, .patch, .delete], [.admin]⟩,
    ⟨authProvidersPath, .named [.post, .patch, .put, .delete], [.admin]⟩,
    ⟨usersPath, .star, [.admin]⟩,
    ⟨missingToolsPath, .named [.post, .put, .patch, .delete], [.admin]⟩,
    ⟨binaryDeploymentsPath, .named [.post, .put, .patch, .delete], [.admin]⟩,
    ⟨systemConfigPath, .named [.post, .patch, .delete], [.admin]⟩,
    ⟨adminSanPath, .named [.delete], [.admin]⟩,
    ⟨reconnectPath, .named [.post], [.admin, .operator]⟩,
    ⟨dependenciesPath, .star, [.admin, .operator]⟩,
    ⟨perfSetupPath, .star, [.admin, .operator]⟩,
    ⟨raidPath, .named [.post, .patch, .put, .delete], [.admin, .operator]⟩,
    ⟨lvmPath, .named [.post, .patch, .put, .delete], [.admin, .operator]⟩,
    ⟨fsPath, .named [.post, .patch, .put, .delete], [.admin, .operator]⟩,
    ⟨clusterPath, .named [.post, .put, .patch, .delete], [.admin, .operator]⟩,
    ⟨targetsPath, .named [.post, .patch, .delete], [.admin, .operator]⟩,
    ⟨devicesPath, .named [.post, .delete], [.admin, .operator]⟩,
    ⟨sanPath, .named [.post, .patch, .put, .delete], [.admin, .operator]⟩,
    ⟨adminPath, .named [.post, .patch, .put, .delete], [.admin]⟩]

def operatorReads : List RoutePermission :=
  [⟨sansPath, .named [.get, .head], [.admin, .operator]⟩,
    ⟨clustersPath, .named [.get, .head], [.admin, .operator]⟩,
    ⟨loginHistoryPath, .named [.get, .head], [.admin, .operator]⟩,
    ⟨appVersionPath, .named [.get, .head], [.admin, .operator]⟩,
    ⟨healthPath, .named [.get, .head], [.admin, .operator]⟩,
    ⟨esosVersionPath, .named [.get, .head], [.admin, .operator]⟩,
    ⟨upgradePath, .named [.get, .head], [.admin, .operator]⟩,
    ⟨deploymentPath, .named [.get, .head], [.admin, .operator]⟩,
    ⟨binariesPath, .named [.get, .head], [.admin, .operator]⟩]

/-- `READ_ROUTE_PERMISSIONS` -/
def readRoutePermissions : List RoutePermission :=
  [⟨usersPath, .star, [.admin]⟩,
    ⟨ldapReportsPath, .named [.get, .head], [.admin]⟩,
    ⟨authProvidersPath, .named [.get, .head], allRoles⟩,
    ⟨systemConfigPath, .named [.post, .patch, .delete], [.admin]⟩,
    ⟨adminSanPath, .named [.delete], [.admin]⟩,
    ⟨dependenciesPath, .star, [.admin, .operator]⟩,
    ⟨perfSetupPath, .star, [.admin, .operator]⟩,
    ⟨perfPath, .named [.get], allRoles⟩,
    ⟨raidPath, .named [.post, .patch, .put, .delete], [.admin, .operator]⟩,
    ⟨raidPath, .named [.get], allRoles⟩,
    ⟨advancedStoragePath, .named [.get], allRoles⟩,
    ⟨missingToolsPath, .named [.get, .head], [.admin, .operator]⟩,
    ⟨binaryDeploymentsPath, .named [.get, .head], [.admin, .operator]⟩,
    ⟨lvmPath, .named [.post, .patch, .put, .delete], [.admin, .operator]⟩,
    ⟨lvmPath, .named [.get], allRoles⟩,
    ⟨fsPath, .named [.post, .patch, .put, .delete], [.admin, .operator]⟩,
    ⟨fsPath, .named [.get], allRoles⟩,
    ⟨accessControlPath, .named [.get, .head], allRoles⟩,
    ⟨wsTicketPath, .named [.get], [.admin, .operator]⟩,
    ⟨systemConfigPath, .named [.get], [.admin, .operator]⟩,
    ⟨sanPath, .named [.post, .patch, .put, .delete], [.admin, .operator]⟩,
    ⟨selectionPath, .named [.get, .head], allRoles⟩] ++ operatorReads ++
  [⟨adminPath, .named [.get, .head], [.admin]⟩]

def UserRole.text : UserRole → String
  | .admin => "admin"
  | .operator => "operator"
  | .viewer => "viewer"

def ruleFor (rules : List RoutePermission) (path : Text) (method : Method) :
    Option RoutePermission :=
  rules.find? fun rule => rule.pattern.test path && methodMatches rule.methods method

def enforceRule (rule : RoutePermission) (role : UserRole) : Except HttpError Unit :=
  let names := Js.join " ou " (rule.roles.map UserRole.text)
  if rule.roles.contains role then .ok ()
  else .error { statusCode := 403, message := s!"Accès refusé. Rôle requis : {names}." }

def enforceMutationAccess (path : Text) (method : Method) (role : UserRole) :
    Except HttpError Unit :=
  (ruleFor mutationRoutePermissions path method).elim
    (.error { statusCode := 403, message := "Accès refusé pour cette opération." })
    (enforceRule · role)

def enforceReadAccess (path : Text) (method : Method) (role : UserRole) : Except HttpError Unit :=
  (ruleFor readRoutePermissions path method).elim (.ok ()) (enforceRule · role)

def enforceApiRbac (path : Text) (method : Method) (role : UserRole) : Except HttpError Unit :=
  if isMutating method then enforceMutationAccess path method role
  else enforceReadAccess path method role

def LetsThrough (path : Text) (method : Method) (role : UserRole) : Prop :=
  enforceApiRbac path method role = .ok ()

def appliesTo (path : Text) (method : Method) (rule : RoutePermission) : Bool :=
  rule.pattern.test path && methodMatches rule.methods method

def allows (role : UserRole) (rule : RoutePermission) : Bool := rule.roles.contains role

section

variable {path : Text} {method : Method} {role role' : UserRole}

theorem enforceRule_eq_ok_iff {rule : RoutePermission} :
    enforceRule rule role = .ok () ↔ allows role rule = true := by
  rw [enforceRule, allows]
  split_ifs with h
  · exact iff_of_true rfl h
  · exact iff_of_false nofun h

theorem letsThrough_read_iff (hRead : isMutating method = false) :
    LetsThrough path method role ↔
      firstAllows (appliesTo path method) (allows role) readRoutePermissions = true := by
  have hRule : ruleFor readRoutePermissions path method =
      readRoutePermissions.find? (appliesTo path method) := rfl
  rw [LetsThrough, enforceApiRbac, hRead, if_neg Bool.false_ne_true, enforceReadAccess, hRule,
    firstAllows]
  cases readRoutePermissions.find? (appliesTo path method) with
  | none => exact iff_of_true rfl rfl
  | some rule => exact enforceRule_eq_ok_iff

theorem letsThrough_mutation_iff (hMutating : isMutating method) :
    LetsThrough path method role ↔
      (ruleFor mutationRoutePermissions path method).any (allows role) = true := by
  rw [LetsThrough, enforceApiRbac, hMutating, if_pos rfl, enforceMutationAccess]
  cases ruleFor mutationRoutePermissions path method with
  | none => exact iff_of_false nofun Bool.false_ne_true
  | some rule => exact enforceRule_eq_ok_iff

theorem LetsThrough.mono
    (hMutations : ∀ rule ∈ mutationRoutePermissions, allows role rule → allows role' rule)
    (hReads : ∀ rule ∈ readRoutePermissions, allows role rule → allows role' rule)
    (h : LetsThrough path method role) : LetsThrough path method role' := by
  cases hMethod : isMutating method with
  | false =>
    rw [letsThrough_read_iff hMethod] at h ⊢
    exact firstAllows_mono hReads h
  | true =>
    rw [letsThrough_mutation_iff hMethod, Option.any_eq_true] at h ⊢
    obtain ⟨rule, hRule, hAllows⟩ := h
    exact ⟨rule, hRule, hMutations rule (List.mem_of_find?_eq_some hRule) hAllows⟩

end

def rulesIn (area : String) (method : Method) : List RoutePermission :=
  readRoutePermissions.filter fun rule =>
    methodMatches rule.methods method && comparable area.toList rule.pattern.start.toList

def areaAllows (area : String) (path : Text) (method : Method) (role : UserRole) : Bool :=
  firstAllows (fun rule => rule.pattern.test path) (allows role) (rulesIn area method)

section

variable {area : String} {path : Text} {method : Method} {role : UserRole}

theorem letsThrough_area_iff (hRead : isMutating method = false) (h : area.toList <+: path) :
    LetsThrough path method role ↔ areaAllows area path method role = true := by
  rw [letsThrough_read_iff hRead, areaAllows, rulesIn, firstAllows, firstAllows,
    find?_filter_of_forall]
  intro rule _
  rw [appliesTo]
  cases hTest : rule.pattern.test path with
  | false => rw [Bool.and_false, Bool.false_and]
  | true => rw [comparable_of_prefixes h (Anchored.prefix_of_test hTest), Bool.true_and,
      Bool.and_true, Bool.and_true]

theorem rulesIn_admin_get : rulesIn "/api/admin/" .get =
    [⟨usersPath, .star, [.admin]⟩, ⟨ldapReportsPath, .named [.get, .head], [.admin]⟩] ++
      (⟨authProvidersPath, .named [.get, .head], allRoles⟩ ::
        ⟨dependenciesPath, .star, [.admin, .operator]⟩ :: operatorReads) ++
      [⟨adminPath, .named [.get, .head], [.admin]⟩] := by rfl

theorem rulesIn_admin_head : rulesIn "/api/admin/" .head = rulesIn "/api/admin/" .get := by rfl

theorem rulesIn_admin_options : rulesIn "/api/admin/" .options =
    [⟨usersPath, .star, [.admin]⟩, ⟨dependenciesPath, .star, [.admin, .operator]⟩] := by rfl

theorem rulesIn_san_get : rulesIn "/api/san/" .get =
    [⟨missingToolsPath, .named [.get, .head], [.admin, .operator]⟩,
      ⟨binaryDeploymentsPath, .named [.get, .head], [.admin, .operator]⟩,
      ⟨wsTicketPath, .named [.get], [.admin, .operator]⟩,
      ⟨systemConfigPath, .named [.get], [.admin, .operator]⟩] := by rfl

theorem rulesIn_san_head : rulesIn "/api/san/" .head =
    [⟨missingToolsPath, .named [.get, .head], [.admin, .operator]⟩,
      ⟨binaryDeploymentsPath, .named [.get, .head], [.admin, .operator]⟩] := by rfl

theorem rulesIn_san_options : rulesIn "/api/san/" .options = [] := by rfl

theorem rulesIn_perf_get : rulesIn "/api/perf/" .get =
    [⟨perfSetupPath, .star, [.admin, .operator]⟩, ⟨perfPath, .named [.get], allRoles⟩] := by rfl

theorem rulesIn_perf_head : rulesIn "/api/perf/" .head =
    [⟨perfSetupPath, .star, [.admin, .operator]⟩] := by rfl

theorem rulesIn_perf_options : rulesIn "/api/perf/" .options =
    [⟨perfSetupPath, .star, [.admin, .operator]⟩] := by rfl

theorem areaAllows_admin (area : String) (path : Text) (method : Method) :
    areaAllows area path method .admin := by
  apply firstAllows_of_forall
  intro rule hRule _
  have hAll : ∀ rule ∈ readRoutePermissions, allows .admin rule = true := by decide
  exact hAll rule (List.mem_of_mem_filter hRule)

theorem adminArea_get_of_ne (hRole : role ≠ .admin) :
    areaAllows "/api/admin/" path .get role = true ↔
      (usersPath.test path = false ∧ ldapReportsPath.test path = false) ∧
        firstAllows (fun rule => rule.pattern.test path) (allows role)
          (⟨authProvidersPath, .named [.get, .head], allRoles⟩ ::
            ⟨dependenciesPath, .star, [.admin, .operator]⟩ ::
            (operatorReads ++ [⟨adminPath, .named [.get, .head], [.admin]⟩])) = true := by
  have hUsers : allows role ⟨usersPath, .star, [.admin]⟩ = false := by
    cases role with
    | admin => exact absurd rfl hRole
    | operator => rfl
    | viewer => rfl
  rw [areaAllows, rulesIn_admin_get, List.append_assoc, List.cons_append, firstAllows_cons,
    List.cons_append, firstAllows_cons, List.nil_append]
  have hLdap : allows role ⟨ldapReportsPath, .named [.get, .head], [.admin]⟩ = false := hUsers
  rw [hUsers, hLdap]
  cases usersPath.test path with
  | true => simp
  | false => cases ldapReportsPath.test path <;> simp

theorem adminArea_get_operator (hArea : "/api/admin/".toList <+: path) :
    areaAllows "/api/admin/" path .get .operator = true ↔
      (usersPath.test path = false ∧ ldapReportsPath.test path = false) ∧
        (authProvidersPath.test path = true ∨ dependenciesPath.test path = true ∨
          ∃ rule ∈ operatorReads, rule.pattern.test path = true) := by
  rw [adminArea_get_of_ne (by decide)]
  apply and_congr_right
  intro _
  have hAdmin : adminPath.test path = true := Anchored.test_of_prefix rfl hArea
  have hAuth : allows .operator ⟨authProvidersPath, .named [.get, .head], allRoles⟩ = true := rfl
  have hDependencies :
      allows .operator ⟨dependenciesPath, .star, [.admin, .operator]⟩ = true := rfl
  have hReads : firstAllows (fun rule : RoutePermission => rule.pattern.test path)
      (allows .operator) operatorReads = true :=
    firstAllows_of_forall fun rule hRule _ =>
      (by decide : ∀ rule ∈ operatorReads, allows .operator rule = true) rule hRule
  have hLast : firstAllows (fun rule : RoutePermission => rule.pattern.test path)
      (allows .operator) [⟨adminPath, .named [.get, .head], [.admin]⟩] = false := by
    rw [firstAllows_cons, hAdmin]
    rfl
  rw [firstAllows_cons, firstAllows_cons, firstAllows_append, hAuth, hDependencies, hReads, hLast,
    ← List.any_eq_true]
  cases authProvidersPath.test path <;> cases dependenciesPath.test path <;>
    cases operatorReads.any fun rule => rule.pattern.test path <;> simp

theorem adminArea_get_viewer (hArea : "/api/admin/".toList <+: path) :
    areaAllows "/api/admin/" path .get .viewer = true ↔
      (usersPath.test path = false ∧ ldapReportsPath.test path = false) ∧
        authProvidersPath.test path = true := by
  rw [adminArea_get_of_ne (by decide)]
  apply and_congr_right
  intro _
  have hAdmin : adminPath.test path = true := Anchored.test_of_prefix rfl hArea
  have hAuth : allows .viewer ⟨authProvidersPath, .named [.get, .head], allRoles⟩ = true := rfl
  have hRest : firstAllows (fun rule : RoutePermission => rule.pattern.test path)
      (allows .viewer) (⟨dependenciesPath, .star, [.admin, .operator]⟩ ::
        (operatorReads ++ [⟨adminPath, .named [.get, .head], [.admin]⟩])) = false := by
    rw [firstAllows_eq_false_of_forall (by decide)]
    simp [hAdmin]
  rw [firstAllows_cons, hAuth, hRest]
  cases authProvidersPath.test path <;> simp

theorem adminArea_options_operator :
    areaAllows "/api/admin/" path .options .operator = true ↔ usersPath.test path = false := by
  have hUsers : allows .operator ⟨usersPath, .star, [.admin]⟩ = false := rfl
  have hRest : firstAllows (fun rule : RoutePermission => rule.pattern.test path)
      (allows .operator) [⟨dependenciesPath, .star, [.admin, .operator]⟩] = true :=
    firstAllows_of_forall fun rule hRule _ => by
      rw [List.mem_singleton.mp hRule]
      rfl
  rw [areaAllows, rulesIn_admin_options, firstAllows_cons, hUsers, hRest]
  cases usersPath.test path <;> simp

theorem adminArea_options_viewer :
    areaAllows "/api/admin/" path .options .viewer = true ↔
      usersPath.test path = false ∧ dependenciesPath.test path = false := by
  rw [areaAllows, rulesIn_admin_options, firstAllows_eq_false_of_forall (by decide)]
  simp

theorem rulesIn_san (hMethod : method ∈ [.get, .head, .options]) :
    ∀ rule ∈ rulesIn "/api/san/" method,
      allows .operator rule = true ∧ allows .viewer rule = false := by
  simp only [List.mem_cons, List.not_mem_nil, or_false] at hMethod
  obtain rfl | rfl | rfl := hMethod
  · rw [rulesIn_san_get]
    decide
  · rw [rulesIn_san_head]
    decide
  · rw [rulesIn_san_options]
    decide

theorem sanArea_operator (hMethod : method ∈ [.get, .head, .options]) :
    areaAllows "/api/san/" path method .operator :=
  firstAllows_of_forall fun rule hRule _ => (rulesIn_san hMethod rule hRule).1

theorem sanArea_viewer (hMethod : method ∈ [.get, .head, .options]) :
    areaAllows "/api/san/" path method .viewer =
      !(rulesIn "/api/san/" method).any fun rule => rule.pattern.test path :=
  firstAllows_eq_false_of_forall fun rule hRule => (rulesIn_san hMethod rule hRule).2

/-- The measurements are set up by some roles and read by all, with any of the methods. -/
theorem perfArea_eq (hMethod : method ∈ [.get, .head, .options]) :
    areaAllows "/api/perf/" path method role =
      (!perfSetupPath.test path || allows role ⟨perfSetupPath, .star, [.admin, .operator]⟩) := by
  have hPerf : allows role ⟨perfPath, .named [.get], allRoles⟩ = true := by cases role <;> rfl
  have hNone : firstAllows (fun rule : RoutePermission => rule.pattern.test path)
      (allows role) [] = true := rfl
  rw [areaAllows]
  simp only [List.mem_cons, List.not_mem_nil, or_false] at hMethod
  obtain rfl | rfl | rfl := hMethod
  · rw [rulesIn_perf_get, firstAllows_cons, firstAllows_cons, hPerf, hNone]
    cases perfSetupPath.test path <;> simp
  · rw [rulesIn_perf_head, firstAllows_cons, hNone]
    cases perfSetupPath.test path <;> simp
  · rw [rulesIn_perf_options, firstAllows_cons, hNone]
    cases perfSetupPath.test path <;> simp

theorem letsThrough_of_no_area (hMethod : method ∈ [.get, .head, .options])
    (h : ∀ area ∈ ["/api/admin/", "/api/san/", "/api/perf/"], ¬ area.toList <+: path) :
    LetsThrough path method role := by
  have hRead : isMutating method = false :=
    (by decide : ∀ method ∈ [.get, .head, .options], isMutating method = false) method hMethod
  rw [letsThrough_read_iff hRead]
  apply firstAllows_of_forall
  intro rule hRule hApplies
  rw [appliesTo, Bool.and_eq_true] at hApplies
  have hRules : ∀ rule ∈ readRoutePermissions, ∀ method ∈ [.get, .head, .options],
      methodMatches rule.methods method = true →
        (∀ role ∈ allRoles, allows role rule = true) ∨
          ∃ area ∈ ["/api/admin/", "/api/san/", "/api/perf/"],
            area.toList.isPrefixOf rule.pattern.start.toList = true := by decide
  obtain hAll | ⟨area, hArea, hPrefix⟩ := hRules rule hRule method hMethod hApplies.2
  · exact hAll role (by cases role <;> decide)
  · rw [List.isPrefixOf_iff_prefix] at hPrefix
    exact absurd (hPrefix.trans (Anchored.prefix_of_test hApplies.1)) (h area hArea)

end

theorem exists_of_test_segment {p : Anchored} {l path : Text} {parts : List RegExp}
    (hParts : p.parts = segment :: .literal l :: parts) (h : p.test path) :
    ∃ name rest, path = p.start.toList ++ (name ++ (l ++ rest)) ∧ '/' ∉ name := by
  obtain ⟨read, rest, captures, rfl, hReads⟩ := Anchored.test_iff.mp h
  rw [hParts] at hReads
  obtain ⟨name, y, rfl, ⟨-, hName⟩, hRest⟩ := reads_chain_plus.mp hReads
  obtain ⟨z, rfl, -⟩ := reads_chain_literal.mp hRest
  refine ⟨name, z ++ rest, by simp, fun hMem => ?_⟩
  simpa using hName '/' hMem

/-- A path has one name after its start, so what follows the name tells patterns apart. -/
theorem not_test_of_test_segment {p q : Anchored} {l l' path : Text} {parts parts' : List RegExp}
    (hp : p.parts = segment :: .literal l :: parts)
    (hq : q.parts = segment :: .literal l' :: parts') (hStart : p.start = q.start)
    (hl : l.head? = some '/') (hl' : l'.head? = some '/') (hApart : comparable l l' = false)
    (h : p.test path) : q.test path = false := by
  cases hTest : q.test path with
  | false => rfl
  | true =>
    obtain ⟨name, rest, rfl, hName⟩ := exists_of_test_segment hp h
    obtain ⟨name', rest', hPath, hName'⟩ := exists_of_test_segment hq hTest
    obtain ⟨t, rfl⟩ := List.head?_eq_some_iff.mp hl
    obtain ⟨t', rfl⟩ := List.head?_eq_some_iff.mp hl'
    rw [hStart] at hPath
    have hRest : t ++ rest = t' ++ rest' :=
      (eq_of_append_cons_eq hName hName' (List.append_cancel_left hPath)).2
    have hComparable : comparable ('/' :: t) ('/' :: t') = true :=
      @comparable_of_prefixes ('/' :: (t ++ rest)) _ _ (List.prefix_append ('/' :: t) rest)
        (hRest ▸ List.prefix_append ('/' :: t') rest')
    rw [hApart] at hComparable
    exact absurd hComparable Bool.false_ne_true

/-- A viewer who may not read something of a node with one method may do so with another. -/
def HeadOpen (path : Text) (role : UserRole) : Prop :=
  role = .viewer ∧ (wsTicketPath.test path = true ∨ systemConfigPath.test path = true)

/-- What a role may read with the method that only three rules are for. -/
def OptionsOpen (path : Text) : UserRole → Prop
  | .admin => False
  | .operator =>
    ldapReportsPath.test path = true ∨ adminPath.test path = true ∧
      usersPath.test path = false ∧ authProvidersPath.test path = false ∧
      dependenciesPath.test path = false ∧
      ∀ rule ∈ operatorReads, rule.pattern.test path = false
  | .viewer =>
    (∃ p ∈ [missingToolsPath, binaryDeploymentsPath, wsTicketPath, systemConfigPath,
        ldapReportsPath], p.test path = true) ∨
      adminPath.test path = true ∧ usersPath.test path = false ∧
        authProvidersPath.test path = false ∧ dependenciesPath.test path = false

section

variable {path : Text} {role : UserRole}

theorem headOpen_of_not_san (h : ¬ "/api/san/".toList <+: path) : ¬ HeadOpen path role := by
  rintro ⟨-, hTest | hTest⟩
  · exact h (Anchored.prefix_of_test hTest)
  · exact h (Anchored.prefix_of_test hTest)

theorem not_test_of_tools (h : missingToolsPath.test path = true ∨
    binaryDeploymentsPath.test path = true) :
    wsTicketPath.test path = false ∧ systemConfigPath.test path = false := by
  obtain hTools | hBinaries := h
  · constructor
    · exact @not_test_of_test_segment missingToolsPath wsTicketPath _ _ path _ _ rfl rfl rfl
        (by decide) (by decide) (by decide) hTools
    · exact @not_test_of_test_segment missingToolsPath systemConfigPath _ _ path _ _ rfl rfl rfl
        (by decide) (by decide) (by decide) hTools
  · constructor
    · exact @not_test_of_test_segment binaryDeploymentsPath wsTicketPath _ _ path _ _ rfl rfl rfl
        (by decide) (by decide) (by decide) hBinaries
    · exact @not_test_of_test_segment binaryDeploymentsPath systemConfigPath _ _ path _ _ rfl rfl
        rfl (by decide) (by decide) (by decide) hBinaries

theorem head_iff (path : Text) (role : UserRole) :
    (LetsThrough path .head role → LetsThrough path .get role) ↔ ¬ HeadOpen path role := by
  by_cases hAdmin : "/api/admin/".toList <+: path
  · have hSan : ¬ "/api/san/".toList <+: path := fun hSan =>
      absurd (comparable_of_prefixes hAdmin hSan) (by decide)
    rw [letsThrough_area_iff rfl hAdmin, letsThrough_area_iff rfl hAdmin, areaAllows,
      rulesIn_admin_head, ← areaAllows]
    exact iff_of_true id (headOpen_of_not_san hSan)
  by_cases hPerf : "/api/perf/".toList <+: path
  · have hSan : ¬ "/api/san/".toList <+: path := fun hSan =>
      absurd (comparable_of_prefixes hPerf hSan) (by decide)
    rw [letsThrough_area_iff rfl hPerf, letsThrough_area_iff rfl hPerf, perfArea_eq (by decide),
      perfArea_eq (by decide)]
    exact iff_of_true id (headOpen_of_not_san hSan)
  by_cases hSan : "/api/san/".toList <+: path
  · rw [letsThrough_area_iff rfl hSan, letsThrough_area_iff rfl hSan]
    cases role with
    | admin =>
      refine iff_of_true (fun _ => areaAllows_admin _ _ _) ?_
      rintro ⟨⟨⟩, -⟩
    | operator =>
      refine iff_of_true (fun _ => sanArea_operator (by decide)) ?_
      rintro ⟨⟨⟩, -⟩
    | viewer =>
      have hTools := @not_test_of_tools path
      rw [sanArea_viewer (by decide), sanArea_viewer (by decide), rulesIn_san_get,
        rulesIn_san_head]
      simp only [List.any_cons, List.any_nil, HeadOpen, true_and, Bool.or_false]
      cases hMissing : missingToolsPath.test path with
      | true => simp [hTools (.inl hMissing)]
      | false =>
        cases hBinary : binaryDeploymentsPath.test path with
        | true => simp [hTools (.inr hBinary)]
        | false => simp
  have hNone : LetsThrough path .get role := by
    apply letsThrough_of_no_area (by decide)
    simp only [List.mem_cons, List.not_mem_nil, or_false, forall_eq_or_imp, forall_eq]
    exact ⟨hAdmin, hSan, hPerf⟩
  exact iff_of_true (fun _ => hNone) (headOpen_of_not_san hSan)

theorem apart_of_test_ldapReports (h : ldapReportsPath.test path) :
    adminPath.test path = true ∧ usersPath.test path = false ∧
      dependenciesPath.test path = false := by
  have hPrefix := Anchored.prefix_of_test h
  exact ⟨Anchored.test_of_prefix rfl
      ((by decide : "/api/admin/".toList <+: ldapReportsPath.start.toList).trans hPrefix),
    Anchored.test_eq_false hPrefix (by decide), Anchored.test_eq_false hPrefix (by decide)⟩

theorem optionsOpen_apart (hAdmin : ¬ "/api/admin/".toList <+: path)
    (hSan : ¬ "/api/san/".toList <+: path) : ¬ OptionsOpen path role := by
  have hAdminTest : adminPath.test path ≠ true := fun h => hAdmin (Anchored.prefix_of_test h)
  have hLdap : ldapReportsPath.test path ≠ true := fun h =>
    hAdminTest (apart_of_test_ldapReports h).1
  cases role with
  | admin => exact id
  | operator =>
    rintro (h | ⟨h, -⟩)
    · exact hLdap h
    · exact hAdminTest h
  | viewer =>
    rintro (⟨p, hp, hTest⟩ | ⟨h, -⟩)
    · simp only [List.mem_cons, List.not_mem_nil, or_false] at hp
      obtain rfl | rfl | rfl | rfl | rfl := hp
      · exact hSan (Anchored.prefix_of_test hTest)
      · exact hSan (Anchored.prefix_of_test hTest)
      · exact hSan (Anchored.prefix_of_test hTest)
      · exact hSan (Anchored.prefix_of_test hTest)
      · exact hLdap hTest
    · exact hAdminTest h

theorem options_iff (path : Text) (role : UserRole) :
    (LetsThrough path .options role → LetsThrough path .get role) ↔ ¬ OptionsOpen path role := by
  by_cases hAdmin : "/api/admin/".toList <+: path
  · rw [letsThrough_area_iff rfl hAdmin, letsThrough_area_iff rfl hAdmin]
    have hAdminTest : adminPath.test path = true := Anchored.test_of_prefix rfl hAdmin
    have hLdap := @apart_of_test_ldapReports path
    cases role with
    | admin => exact iff_of_true (fun _ => areaAllows_admin _ _ _) id
    | operator =>
      rw [adminArea_options_operator, adminArea_get_operator hAdmin, OptionsOpen, hAdminTest]
      cases hReports : ldapReportsPath.test path with
      | true => simp [(hLdap hReports).2.1]
      | false =>
        cases usersPath.test path with
        | true => simp
        | false =>
          cases authProvidersPath.test path <;> cases dependenciesPath.test path <;> simp
    | viewer =>
      have hPaths : (∃ p ∈ [missingToolsPath, binaryDeploymentsPath, wsTicketPath,
          systemConfigPath, ldapReportsPath], p.test path = true) ↔
            ldapReportsPath.test path = true := by
        have hMissing : missingToolsPath.test path = false :=
          Anchored.test_eq_false hAdmin (by decide)
        have hBinary : binaryDeploymentsPath.test path = false :=
          Anchored.test_eq_false hAdmin (by decide)
        have hTicket : wsTicketPath.test path = false :=
          Anchored.test_eq_false hAdmin (by decide)
        have hConfig : systemConfigPath.test path = false :=
          Anchored.test_eq_false hAdmin (by decide)
        simp [hMissing, hBinary, hTicket, hConfig]
      rw [adminArea_options_viewer, adminArea_get_viewer hAdmin, OptionsOpen, hPaths, hAdminTest]
      cases hReports : ldapReportsPath.test path with
      | true => simp [hLdap hReports]
      | false =>
        cases usersPath.test path <;> cases authProvidersPath.test path <;>
          cases dependenciesPath.test path <;> simp
  by_cases hSan : "/api/san/".toList <+: path
  · have hAdminTest : adminPath.test path ≠ true := fun h => hAdmin (Anchored.prefix_of_test h)
    have hLdap : ldapReportsPath.test path ≠ true := fun h =>
      hAdminTest (apart_of_test_ldapReports h).1
    rw [letsThrough_area_iff rfl hSan, letsThrough_area_iff rfl hSan]
    cases role with
    | admin => exact iff_of_true (fun _ => areaAllows_admin _ _ _) id
    | operator =>
      refine iff_of_true (fun _ => sanArea_operator (by decide)) ?_
      rintro (h | ⟨h, -⟩)
      · exact hLdap h
      · exact hAdminTest h
    | viewer =>
      rw [sanArea_viewer (by decide), sanArea_viewer (by decide), rulesIn_san_options,
        rulesIn_san_get, OptionsOpen]
      simp [hLdap, hAdminTest]
  have hApart := @optionsOpen_apart path role hAdmin hSan
  by_cases hPerf : "/api/perf/".toList <+: path
  · rw [letsThrough_area_iff rfl hPerf, letsThrough_area_iff rfl hPerf, perfArea_eq (by decide),
      perfArea_eq (by decide)]
    exact iff_of_true id hApart
  have hNone : LetsThrough path .get role := by
    apply letsThrough_of_no_area (by decide)
    simp only [List.mem_cons, List.not_mem_nil, or_false, forall_eq_or_imp, forall_eq]
    exact ⟨hAdmin, hSan, hPerf⟩
  exact iff_of_true (fun _ => hNone) hApart

end

/-- The rules grow with the role; and what may be read with another method is what may be read,
exactly off the paths that the rules for the method leave open. -/
theorem accessRules_iff (path : Text) (method : Method) (role : UserRole) :
    ((LetsThrough path method .viewer → LetsThrough path method .operator) ∧
        (LetsThrough path method .operator → LetsThrough path method .admin)) ∧
      ((LetsThrough path .head role → LetsThrough path .get role) ↔ ¬ HeadOpen path role) ∧
      ((LetsThrough path .options role → LetsThrough path .get role) ↔
        ¬ OptionsOpen path role) :=
  ⟨⟨LetsThrough.mono (by decide) (by decide), LetsThrough.mono (by decide) (by decide)⟩,
    head_iff path role, options_iff path role⟩

/-- A viewer gets no configuration of a node, except with another method. -/
theorem head_bypasses_get :
    LetsThrough "/api/san/n1/system-config/network".toList .head .viewer ∧
      LetsThrough "/api/san/n1/system-config/network".toList .options .viewer ∧
      ¬ LetsThrough "/api/san/n1/system-config/network".toList .get .viewer := by
  refine ⟨by rfl, by rfl, ?_⟩
  rw [letsThrough_read_iff rfl]
  decide

section

variable {path : Text} {method : Method} {role : UserRole}

/-- A rule decides when the rules before it are for other methods, or for paths apart. -/
theorem letsThrough_of_first (n : Nat) {rule : RoutePermission} (hMutating : isMutating method)
    (hRule : mutationRoutePermissions.drop n = rule :: mutationRoutePermissions.drop (n + 1))
    (hBefore : ∀ other ∈ mutationRoutePermissions.take n,
      methodMatches other.methods method = false ∨
        comparable rule.pattern.start.toList other.pattern.start.toList = false)
    (hTest : rule.pattern.test path) (hMethod : methodMatches rule.methods method)
    (hAllows : allows role rule) : LetsThrough path method role := by
  have hNone : (mutationRoutePermissions.take n).find? (appliesTo path method) = none := by
    refine List.find?_eq_none.mpr fun other hOther hApplies => ?_
    obtain ⟨hPath, hName⟩ := Bool.and_eq_true_iff.mp hApplies
    rcases hBefore other hOther with h | h
    · exact absurd hName (by simp [h])
    · exact absurd hPath (by simp [Anchored.test_eq_false (Anchored.prefix_of_test hTest) h])
  have hHere : appliesTo path method rule := Bool.and_eq_true_iff.mpr ⟨hTest, hMethod⟩
  have hFound : ruleFor mutationRoutePermissions path method = some rule := by
    show mutationRoutePermissions.find? (appliesTo path method) = _
    rw [← List.take_append_drop n mutationRoutePermissions, hRule, List.find?_append, hNone,
      Option.none_or, List.find?_cons_of_pos hHere]
  rw [letsThrough_mutation_iff hMutating, hFound]
  exact hAllows

theorem path_of_test_stop {p : Anchored} (hParts : p.parts = [.stop false]) (h : p.test path) :
    path = p.start.toList := by
  obtain ⟨read, rest, captures, rfl, hReads⟩ := Anchored.test_iff.mp h
  rw [hParts] at hReads
  obtain ⟨rfl, -, rfl⟩ := reads_chain_stop.mp hReads
  simp
theorem exists_rule_of_mutation (area : String) (hArea : area.toList <+: path)
    (hMutating : isMutating method) (h : LetsThrough path method role) :
    ∃ rule ∈ mutationRoutePermissions.filter fun rule =>
        allows role rule && comparable area.toList rule.pattern.start.toList,
      rule.pattern.test path = true ∧ methodMatches rule.methods method = true := by
  rw [letsThrough_mutation_iff hMutating, Option.any_eq_true] at h
  obtain ⟨rule, hRule, hAllows⟩ := h
  have hApplies : appliesTo path method rule = true := List.find?_some hRule
  obtain ⟨hTest, hMethod⟩ := Bool.and_eq_true_iff.mp hApplies
  refine ⟨rule, List.mem_filter.mpr ⟨List.mem_of_find?_eq_some hRule, ?_⟩, hTest, hMethod⟩
  exact Bool.and_eq_true_iff.mpr
    ⟨hAllows, comparable_of_prefixes hArea (Anchored.prefix_of_test hTest)⟩

def viewerMutations : List (Text × Method) :=
  [("/api/auth/logout".toList, .post), ("/api/auth/change-password".toList, .post),
    ("/api/auth/preferences".toList, .patch)]

/-- A viewer changes nothing but what is his own; and an operator nothing in the administration
but the connection of a SAN and the dependencies. -/
theorem mutations_by_role (path : Text) (method : Method) :
    (isMutating method = true ∧ LetsThrough path method .viewer ↔
      (path, method) ∈ viewerMutations) ∧
    (isMutating method = true ∧ "/api/admin/".toList <+: path ∧
        LetsThrough path method .operator ↔
      (method = .post ∧ reconnectPath.test path = true) ∨
        (isMutating method = true ∧ dependenciesPath.test path = true)) := by
  refine ⟨⟨?_, fun h => ?_⟩, ⟨?_, ?_⟩⟩
  · rintro ⟨hMutating, h⟩
    obtain ⟨rule, hRule, hTest, hMethod⟩ :=
      exists_rule_of_mutation "" List.nil_prefix hMutating h
    have hRules : ∀ rule ∈ mutationRoutePermissions.filter (fun rule =>
        allows .viewer rule && comparable [] rule.pattern.start.toList),
        rule.pattern.parts = [.stop false] ∧ ∃ own, rule.methods = .named [own] ∧
          (rule.pattern.start.toList, own) ∈ viewerMutations := by
      show ∀ rule ∈ [_, _, _], _
      simp [logoutPath, changePasswordPath, preferencesPath, viewerMutations]
    obtain ⟨hParts, own, hOwn, hMem⟩ := hRules rule hRule
    rw [hOwn] at hMethod
    obtain rfl : method = own := by simpa [methodMatches] using hMethod
    rwa [path_of_test_stop hParts hTest]
  · simp only [viewerMutations, List.mem_cons, List.not_mem_nil, or_false, Prod.mk.injEq] at h
    obtain ⟨rfl, rfl⟩ | ⟨rfl, rfl⟩ | ⟨rfl, rfl⟩ := h <;> exact ⟨rfl, by rfl⟩
  · rintro ⟨hMutating, hArea, h⟩
    obtain ⟨rule, hRule, hTest, hMethod⟩ := exists_rule_of_mutation _ hArea hMutating h
    rcases List.mem_pair.mp hRule with rfl | rfl
    · exact Or.inl ⟨by simpa [methodMatches] using hMethod, hTest⟩
    · exact Or.inr ⟨hMutating, hTest⟩
  · have hArea {p : Anchored} (hp : "/api/admin/".toList <+: p.start.toList)
        (hTest : p.test path) : "/api/admin/".toList <+: path :=
      hp.trans (Anchored.prefix_of_test hTest)
    rintro (⟨rfl, hTest⟩ | ⟨hMutating, hTest⟩)
    · exact ⟨rfl, hArea (by decide) hTest,
        letsThrough_of_first 13 rfl rfl (by decide) hTest rfl rfl⟩
    · have hApart : ∀ other ∈ mutationRoutePermissions.take 14, comparable
          dependenciesPath.start.toList other.pattern.start.toList = false := by decide
      exact ⟨hMutating, hArea (by decide) hTest, letsThrough_of_first 14 hMutating rfl
        (fun other hOther => Or.inr (hApart other hOther)) hTest rfl rfl⟩

end

end EsosWebui.Users
