import EsosWebui.Lvm.PeerPaths
import EsosWebui.Ssh.SessionManager

/-! Execution of a cluster plan: its nodes one after the other, whatever fails. -/
namespace EsosWebui.Lvm

open Js
open Raid (HttpError)

/-- How a node answers in its turn: the state of its connection, what a command comes to
(the message of what is thrown), and the logical volumes that a scan then finds. -/
structure NodeAnswers where
  status : Option Ssh.SSHStatus
  exec : String → Except String Ssh.ExecResult
  lvs : Except String (List LogicalVolume)

structure NodeTurn where
  nodeResult : Option ClusterLvmNodeResult
  error : Option String := none
  refreshed : Bool
  /-- The arguments of the command that was run. -/
  command : Option (List String) := none

def overviewHasLv (lvs : List LogicalVolume) (vgName lvName : String) : Bool :=
  lvs.any fun l => l.vgName == trimString vgName && l.name == trimString lvName

def thrownTurn (node : ClusterLvmNodeResult) (msg : String) (command : Option (List String)) :
    NodeTurn :=
  let label := node.label
  { nodeResult := some
      { sanId := node.sanId, label, participation := .failed, command := node.command
        error := some msg }
    error := some s!"{label}: {msg}"
    refreshed := false
    command }

def resolvedTurn (node : ClusterLvmNodeResult) (result : Ssh.ExecResult) (args : List String) :
    NodeTurn :=
  { nodeResult := some
      { sanId := node.sanId, label := node.label, participation := .execute
        command := node.command, stdout := some result.stdout, stderr := some result.stderr }
    refreshed := true
    command := some args }

/-- `verifyDetail || result.stderr.trim() || result.stdout.trim() || exit` -/
def lvCreateDetail (verifyDetail exit : String) (result : Ssh.ExecResult) : String :=
  if verifyDetail ≠ "" then verifyDetail
  else if trimString result.stderr ≠ "" then trimString result.stderr
  else if trimString result.stdout ≠ "" then trimString result.stdout
  else exit

/-- The turn of a node on which `lvcreate` resolved: its exit code is looked at, and then whether
the volume is there. -/
def lvCreateTurn (node : ClusterLvmNodeResult) (payload : LvmPayload) (answers : NodeAnswers)
    (result : Ssh.ExecResult) (args : List String) : NodeTurn :=
  let label := node.label
  let code := result.code
  let vgName := payload.vgName
  let name := payload.name
  let created : ClusterLvmNodeResult :=
    { sanId := node.sanId, label, participation := .execute, command := node.command
      exitCode := some code, stdout := some result.stdout, stderr := some result.stderr }
  let failed (verifyDetail : String) : NodeTurn :=
    { nodeResult := some
        { created with
          participation := .failed
          error := some (lvCreateDetail verifyDetail s!"exit {code}" result) }
      error := some (s!"{label}: " ++ lvCreateDetail verifyDetail s!"lvcreate exit {code}" result)
      refreshed := true
      command := some args }
  if code ≠ 0 then failed ""
  else
    match answers.lvs with
    | .error msg => thrownTurn node msg (some args)
    | .ok lvs =>
      if !overviewHasLv lvs vgName name then
        failed s!"LV {vgName}/{name} absent après lvcreate (lvs)"
      else { nodeResult := some created, refreshed := true, command := some args }

/-- What an execution depends on: the nodes of a cluster with their inventories, and the
answers of the executed nodes, by their position. -/
structure Execution where
  inventories : String → List ClusterLvmNodeInventory
  answers : Nat → NodeAnswers

variable [CaseMapping]

def nodeArgs (action : LvmAction) (payload : LvmPayload) (primarySanId : String)
    (inventories : List ClusterLvmNodeInventory) (diskMappings : List ClusterLvmDiskMapping)
    (sanId : String) : Option (List String) :=
  match action with
  | .pvremove =>
    some (pvRemoveArgs (resolvePvPathOnNode sanId primarySanId payload.path diskMappings))
  | .pvcreate =>
    some (pvCreateArgs (resolvePvPathOnNode sanId primarySanId payload.path diskMappings)
      payload.force)
  | .vgcreate =>
    some (vgCreateArgs payload.name
      (if sanId == primarySanId then payload.pvPaths
       else resolvePeerPvPaths primarySanId payload.pvPaths sanId inventories diskMappings))
  | .vgremove => some (vgRemoveArgs payload.name)
  | .lvcreate => some (lvCreateArgs payload.vgName payload.name payload.sizeBytes)
  | .lvremove => some (lvRemoveArgs payload.vgName payload.name)
  | .bindScst => none

def nodeTurn (action : LvmAction) (payload : LvmPayload) (primarySanId : String)
    (inventories : List ClusterLvmNodeInventory) (diskMappings : List ClusterLvmDiskMapping)
    (answers : NodeAnswers) (node : ClusterLvmNodeResult) : NodeTurn :=
  if answers.status ≠ some .connected then thrownTurn node "SSH non connecté" none
  else
    match nodeArgs action payload primarySanId inventories diskMappings node.sanId with
    | none => { nodeResult := none, refreshed := true }
    | some args =>
      match answers.exec (shellCommand args) with
      | .error msg => thrownTurn node msg (some args)
      | .ok result =>
        if action = .lvcreate then lvCreateTurn node payload answers result args
        else resolvedTurn node result args

def assertPlanExecutable (plan : ClusterLvmExecutionPlan) : Except HttpError Unit := do
  let blockers := join " · " plan.blockers
  throwIf (!plan.okSymmetric)
    ⟨422, if blockers ≠ "" then blockers else "Plan cluster non symétrique"⟩
  let missing := plan.nodeResults.filter (·.participation != .execute)
  throwIf (missing ≠ []) ⟨422, "Nœuds non exécutables : " ++ join ", " (missing.map (·.label))⟩

def ClusterLvmExecutionPlan.executed (plan : ClusterLvmExecutionPlan) :
    List ClusterLvmNodeResult :=
  plan.nodeResults.filter (·.participation == .execute)

def nodeTurns (execution : Execution) (plan : ClusterLvmExecutionPlan)
    (clusterExecution : ClusterLvmExecutionRequest) (payload : LvmPayload)
    (diskMappings : List ClusterLvmDiskMapping) (clusterId : String) : List NodeTurn :=
  plan.executed.mapIdx fun i node =>
    nodeTurn plan.action payload clusterExecution.primarySanId (execution.inventories clusterId)
      diskMappings (execution.answers i) node

def executionResult (plan : ClusterLvmExecutionPlan)
    (clusterExecution : ClusterLvmExecutionRequest) (clusterId : String)
    (turns : List NodeTurn) : ClusterLvmExecutionResult :=
  let errors := turns.filterMap (·.error)
  { success := errors.isEmpty
    action := plan.action
    clusterId
    primarySanId := clusterExecution.primarySanId
    nodeResults := turns.filterMap (·.nodeResult)
    refreshedSanIds := unique ((plan.executed.zip turns).filterMap fun (node, turn) =>
      if turn.refreshed then some node.sanId else none)
    errors }

def executeClusterLvmPlan (execution : Execution) (plan : ClusterLvmExecutionPlan)
    (clusterExecution : ClusterLvmExecutionRequest) (payload : LvmPayload)
    (diskMappings : List ClusterLvmDiskMapping) : Except HttpError ClusterLvmExecutionResult := do
  assertPlanExecutable plan
  let phrase := plan.confirmationPhrase
  throwIf (trimString payload.confirmation ≠ phrase) ⟨400, s!"Confirmation requise : {phrase}"⟩
  let clusterId := (plan.clusterId.or clusterExecution.clusterId).getD ""
  throwIf (clusterId = "") ⟨400, "clusterId requis"⟩
  throwIf ((execution.inventories clusterId).any (·.readOnly) = true) ⟨403, "SAN is read-only"⟩
  return executionResult plan clusterExecution clusterId
    (nodeTurns execution plan clusterExecution payload diskMappings clusterId)

end EsosWebui.Lvm

namespace EsosWebui.Lvm

open Js
open Raid (HttpError)

/-- How the node answers, and what the checks of a route come to: the preflight with its
confirmation, and for a new physical volume the protection of the system disk. -/
structure RouteAnswers extends NodeAnswers where
  preflight : Except HttpError Unit
  hasManager : Bool
  protection : Except HttpError Unit

/-- A route that checks, runs one command and looks at what came of it. What is thrown without
a status is answered as an internal error. -/
def runRoute (answers : RouteAnswers) (protection : Except HttpError Unit) (args : List String)
    (check : Ssh.ExecResult → Except HttpError Unit) : Except HttpError Unit := do
  answers.preflight
  throwIf (!answers.hasManager) ⟨503, "SSH non connecté"⟩
  protection
  let result ← (answers.exec (shellCommand args)).mapError (⟨500, ·⟩)
  check result

def pvCreateRoute (answers : RouteAnswers) (body : LvmPayload) : Except HttpError Unit :=
  runRoute answers answers.protection (pvCreateArgs body.path body.force) fun _ => .ok ()

def vgCreateRoute (answers : RouteAnswers) (body : LvmPayload) : Except HttpError Unit :=
  runRoute answers (.ok ()) (vgCreateArgs body.name body.pvPaths) fun _ => .ok ()

def lvCreateRoute (answers : RouteAnswers) (body : LvmPayload) : Except HttpError Unit :=
  runRoute answers (.ok ()) (lvCreateArgs body.vgName body.name body.sizeBytes) fun result => do
    let code := result.code
    let vgName := body.vgName
    let name := body.name
    throwIf (code ≠ 0) ⟨500, lvCreateDetail "" s!"lvcreate a échoué (code {code})" result⟩
    let lvs ← answers.lvs.mapError (⟨500, ·⟩)
    throwIf (!overviewHasLv lvs vgName name)
      ⟨500, s!"LV {vgName}/{name} absent après lvcreate (lvs)"⟩

def pvRemoveRoute (answers : RouteAnswers) (body : LvmPayload) : Except HttpError Unit :=
  runRoute answers (.ok ()) (pvRemoveArgs body.path) fun _ => .ok ()

def vgRemoveRoute (answers : RouteAnswers) (body : LvmPayload) : Except HttpError Unit :=
  runRoute answers (.ok ()) (vgRemoveArgs body.name) fun _ => .ok ()

def lvRemoveRoute (answers : RouteAnswers) (body : LvmPayload) : Except HttpError Unit :=
  runRoute answers (.ok ()) (lvRemoveArgs body.vgName body.name) fun _ => .ok ()

inductive StandaloneRoute where
  | pvCreate
  | vgCreate
  | lvCreate
  | pvRemove
  | vgRemove
  | lvRemove
  deriving DecidableEq

def StandaloneRoute.handle (route : StandaloneRoute) :
    RouteAnswers → LvmPayload → Except HttpError Unit :=
  match route with
  | .pvCreate => pvCreateRoute
  | .vgCreate => vgCreateRoute
  | .lvCreate => lvCreateRoute
  | .pvRemove => pvRemoveRoute
  | .vgRemove => vgRemoveRoute
  | .lvRemove => lvRemoveRoute

def StandaloneRoute.args (route : StandaloneRoute) (body : LvmPayload) : List String :=
  match route with
  | .pvCreate => pvCreateArgs body.path body.force
  | .vgCreate => vgCreateArgs body.name body.pvPaths
  | .lvCreate => lvCreateArgs body.vgName body.name body.sizeBytes
  | .pvRemove => pvRemoveArgs body.path
  | .vgRemove => vgRemoveArgs body.name
  | .lvRemove => lvRemoveArgs body.vgName body.name

/-- A route gets as far as its command. -/
structure RouteAnswers.Reaches (answers : RouteAnswers) (route : StandaloneRoute) : Prop where
  preflight : answers.preflight = .ok ()
  hasManager : answers.hasManager = true
  protection : route = .pvCreate → answers.protection = .ok ()

theorem runRoute_eq_ok {answers : RouteAnswers} {protection : Except HttpError Unit}
    {args : List String} {check : Ssh.ExecResult → Except HttpError Unit} {u : Unit} :
    runRoute answers protection args check = .ok u ↔
      answers.preflight = .ok () ∧ answers.hasManager = true ∧ protection = .ok () ∧
        ∃ result, answers.exec (shellCommand args) = .ok result ∧ check result = .ok u := by
  simp only [runRoute, bind_eq_ok, throwIf_eq_ok, mapError_eq_ok]
  constructor
  · rintro ⟨_, hPreflight, _, hManager, _, hProtection, hExec⟩
    exact ⟨hPreflight, by simpa using hManager, hProtection, hExec⟩
  · rintro ⟨hPreflight, hManager, hProtection, hExec⟩
    exact ⟨(), hPreflight, (), by simp [hManager], (), hProtection, hExec⟩

theorem StandaloneRoute.exec_of_success {route : StandaloneRoute} {answers : RouteAnswers}
    {body : LvmPayload} (h : route.handle answers body = .ok ()) :
    answers.Reaches route ∧ ∃ result, answers.exec (shellCommand (route.args body)) = .ok result := by
  cases route with
  | pvCreate =>
    obtain ⟨hPreflight, hManager, hProtection, result, hExec, -⟩ := runRoute_eq_ok.mp h
    exact ⟨⟨hPreflight, hManager, fun _ => hProtection⟩, result, hExec⟩
  | _ =>
    obtain ⟨hPreflight, hManager, -, result, hExec, -⟩ := runRoute_eq_ok.mp h
    exact ⟨⟨hPreflight, hManager, nofun⟩, result, hExec⟩

theorem lvCreateRoute_code {answers : RouteAnswers} {body : LvmPayload} {result : Ssh.ExecResult}
    (h : lvCreateRoute answers body = .ok ())
    (hExec : answers.exec (shellCommand (lvCreateArgs body.vgName body.name body.sizeBytes)) =
      .ok result) : result.code = 0 := by
  obtain ⟨-, -, -, result', hExec', hCheck⟩ := runRoute_eq_ok.mp h
  obtain rfl : result = result' := by simpa [hExec] using hExec'
  obtain ⟨_, hCode, -⟩ := bind_eq_ok.mp hCheck
  simpa using throwIf_eq_ok.mp hCode

theorem StandaloneRoute.success_of_exec {route : StandaloneRoute} {answers : RouteAnswers}
    {body : LvmPayload} {result : Ssh.ExecResult} (hRoute : route ≠ .lvCreate)
    (hReaches : answers.Reaches route)
    (hExec : answers.exec (shellCommand (route.args body)) = .ok result) :
    route.handle answers body = .ok () := by
  obtain ⟨hPreflight, hManager, hProtection⟩ := hReaches
  cases route with
  | lvCreate => exact absurd rfl hRoute
  | pvCreate =>
    exact runRoute_eq_ok.mpr ⟨hPreflight, hManager, hProtection rfl, result, hExec, rfl⟩
  | _ => exact runRoute_eq_ok.mpr ⟨hPreflight, hManager, rfl, result, hExec, rfl⟩

/-- A route answers success only if its command exited with 0 exactly when it is that of a new
logical volume, or its command does not exit with another code. -/
theorem StandaloneRoute.success_code_iff (route : StandaloneRoute) (answers : RouteAnswers)
    (body : LvmPayload) :
    (route.handle answers body = .ok () →
      ∃ result, answers.exec (shellCommand (route.args body)) = .ok result ∧ result.code = 0) ↔
    (route = .lvCreate ∨ ¬ answers.Reaches route ∨
      ∀ result, answers.exec (shellCommand (route.args body)) = .ok result → result.code = 0) := by
  constructor
  · intro hSuccess
    by_cases hRoute : route = .lvCreate
    · exact Or.inl hRoute
    by_cases hReaches : answers.Reaches route
    · refine Or.inr (Or.inr fun result hExec => ?_)
      obtain ⟨result', hExec', hCode⟩ := hSuccess (success_of_exec hRoute hReaches hExec)
      obtain rfl : result = result' := by simpa [hExec] using hExec'
      exact hCode
    · exact Or.inr (Or.inl hReaches)
  · intro hCondition hOk
    obtain ⟨hReaches, result, hExec⟩ := exec_of_success hOk
    refine ⟨result, hExec, ?_⟩
    rcases hCondition with rfl | hNot | hCode
    · exact lvCreateRoute_code hOk hExec
    · exact absurd hReaches hNot
    · exact hCode result hExec

end EsosWebui.Lvm
