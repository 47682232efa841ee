import EsosWebui.Lvm.ClusterExecution
import EsosWebui.Lvm.ClusterLvmPreflight

/-! The plans of requests on the volumes of a cluster. The nodes of a plan are those that its
preflight has scanned. -/
namespace EsosWebui.Lvm

open Js
open Raid (HttpError)

def clusterLvmBlockedMessage : String :=
  "Ce SAN est en cluster : les opérations LVM destructives requièrent un plan cluster validé " ++
    "(clusterExecution)."

def assertClusteredSanAllowsLvmMutation (sanClusterId : Option String) (sanId : String)
    (clusterExecution : Option ClusterLvmExecutionRequest) : Except HttpError (Option String) := do
  match sanClusterId.filter (· ≠ "") with
  | none => return none
  | some clusterId =>
    let primarySanId := (clusterExecution.map (·.primarySanId)).getD ""
    throwIf (primarySanId = "") ⟨409, clusterLvmBlockedMessage⟩
    throwIf (primarySanId ≠ sanId) ⟨400, "primarySanId doit être le SAN courant"⟩
    return some clusterId

/-- A node that is left out of a plan. -/
def skippedNode (node : ClusterLvmNodeInventory) (error : String) : ClusterLvmNodeResult :=
  { sanId := node.sanId, label := node.label, participation := .skip, error := some error }

def plannedNode (node : ClusterLvmNodeInventory) (execute : Bool) (command : String)
    (error : Option String) : ClusterLvmNodeResult :=
  { sanId := node.sanId, label := node.label
    participation := if execute then .execute else .skip
    command := some command, error }

def planOf (action : VolumeAction) (clusterId primarySanId confirmationPhrase : String)
    (pre : ClusterLvmPreflightResult) (nodeResults : List ClusterLvmNodeResult)
    (moreWarnings : List String) : ClusterLvmExecutionPlan :=
  { action := action.toLvmAction
    clusterId := some clusterId
    primarySanId
    confirmationPhrase
    nodeResults
    okSymmetric := pre.ok && nodeResults.all (·.participation == .execute)
    warnings := pre.warnings ++ moreWarnings
    blockers := pre.blockers }

def sshNotConnected : String := "SSH non connecté"

def pvCreateNode (primarySanId : String) (payload : LvmPayload) (pre : ClusterLvmPreflightResult)
    (diskMappings : List ClusterLvmDiskMapping) (node : ClusterLvmNodeInventory) :
    ClusterLvmNodeResult :=
  if !node.sshReady then skippedNode node (node.error.getD sshNotConnected)
  else
    match (resolveNodePvPath node primarySanId payload.path diskMappings).filter (· ≠ "") with
    | none => skippedNode node "Mapping manquant"
    | some path => plannedNode node pre.ok (buildPvCreatePreview path payload.force) none

def pvRemoveNode (primarySanId : String) (payload : LvmPayload) (pre : ClusterLvmPreflightResult)
    (diskMappings : List ClusterLvmDiskMapping) (node : ClusterLvmNodeInventory) :
    ClusterLvmNodeResult :=
  if !node.sshReady then skippedNode node (node.error.getD sshNotConnected)
  else
    let path := resolvePvPathOnNode node.sanId primarySanId payload.path diskMappings
    plannedNode node pre.ok (buildPvRemovePreview path) none

def lvCreateNode (payload : LvmPayload) (pre : ClusterLvmPreflightResult)
    (node : ClusterLvmNodeInventory) : ClusterLvmNodeResult :=
  let vgName := payload.vgName
  if !node.sshReady then skippedNode node sshNotConnected
  else
    let command := buildLvCreatePreview vgName payload.name payload.sizeBytes
    match node.overview.vgs.find? (·.name == vgName) with
    | none => plannedNode node false command (some s!"VG {vgName} absent")
    | some vg =>
      let fits := decide (payload.sizeBytes ≤ vg.freeBytes)
      plannedNode node (pre.ok && fits) command (if fits then none else some "Espace insuffisant")

def vgRemoveNode (payload : LvmPayload) (pre : ClusterLvmPreflightResult)
    (node : ClusterLvmNodeInventory) : ClusterLvmNodeResult :=
  if !node.sshReady then skippedNode node sshNotConnected
  else plannedNode node pre.ok (buildVgRemovePreview payload.name) none

def lvRemoveNode (payload : LvmPayload) (pre : ClusterLvmPreflightResult)
    (node : ClusterLvmNodeInventory) : ClusterLvmNodeResult :=
  if !node.sshReady then skippedNode node sshNotConnected
  else plannedNode node pre.ok (buildLvRemovePreview payload.vgName payload.name) none

section

variable [CaseMapping]

def vgCreateNode (primarySanId : String) (payload : LvmPayload) (pre : ClusterLvmPreflightResult)
    (node : ClusterLvmNodeInventory) : ClusterLvmNodeResult :=
  if !node.sshReady then skippedNode node sshNotConnected
  else
    let pvPaths := if node.sanId == primarySanId then payload.pvPaths
      else resolvePeerPvPaths primarySanId payload.pvPaths node.sanId pre.nodes pre.mappings
    plannedNode node (pre.ok && pvPaths.length == payload.pvPaths.length)
      (buildVgCreatePreview payload.name pvPaths)
      (if pvPaths = [] then some "PV non mappés" else none)

def planMappings (pre : ClusterLvmPreflightResult) (diskMappings : List ClusterLvmDiskMapping) :
    List ClusterLvmDiskMapping :=
  if pre.mappings ≠ [] then pre.mappings else diskMappings

def buildClusterPvCreatePlan (nodes : List ClusterLvmNodeInventory)
    (primarySanId clusterId : String) (payload : LvmPayload)
    (diskMappings : List ClusterLvmDiskMapping) : Except HttpError ClusterLvmExecutionPlan := do
  let pre ← runClusterLvmPreflight nodes primarySanId .pvcreate payload diskMappings
  let path := payload.path
  return planOf .pvcreate clusterId primarySanId s!"PVCREATE CLUSTER {path}" pre
    (nodes.map (pvCreateNode primarySanId payload pre (planMappings pre diskMappings))) []

def buildClusterVgCreatePlan (nodes : List ClusterLvmNodeInventory)
    (primarySanId clusterId : String) (payload : LvmPayload)
    (diskMappings : List ClusterLvmDiskMapping) : Except HttpError ClusterLvmExecutionPlan := do
  let pre ← runClusterLvmPreflight nodes primarySanId .vgcreate payload diskMappings
  let name := payload.name
  return planOf .vgcreate clusterId primarySanId s!"VGCREATE CLUSTER {name}" pre
    (nodes.map (vgCreateNode primarySanId payload pre))
    ["Chaque nœud reçoit un VG local du même nom (symétrie locale, pas clvmd)."]

def buildClusterLvCreatePlan (nodes : List ClusterLvmNodeInventory)
    (primarySanId clusterId : String) (payload : LvmPayload) :
    Except HttpError ClusterLvmExecutionPlan := do
  let pre ← runClusterLvmPreflight nodes primarySanId .lvcreate payload []
  let vgName := payload.vgName
  let name := payload.name
  return planOf .lvcreate clusterId primarySanId s!"LVCREATE CLUSTER {vgName}/{name}" pre
    (nodes.map (lvCreateNode payload pre)) []

def buildClusterPvRemovePlan (nodes : List ClusterLvmNodeInventory)
    (primarySanId clusterId : String) (payload : LvmPayload)
    (diskMappings : List ClusterLvmDiskMapping) : Except HttpError ClusterLvmExecutionPlan := do
  let pre ← runClusterLvmPreflight nodes primarySanId .pvremove payload diskMappings
  let path := payload.path
  return planOf .pvremove clusterId primarySanId s!"PVREMOVE CLUSTER {path}" pre
    (nodes.map (pvRemoveNode primarySanId payload pre (planMappings pre diskMappings))) []

def buildClusterVgRemovePlan (nodes : List ClusterLvmNodeInventory)
    (primarySanId clusterId : String) (payload : LvmPayload) :
    Except HttpError ClusterLvmExecutionPlan := do
  let pre ← runClusterLvmPreflight nodes primarySanId .vgremove payload []
  let name := payload.name
  return planOf .vgremove clusterId primarySanId s!"VGREMOVE CLUSTER {name}" pre
    (nodes.map (vgRemoveNode payload pre)) []

def buildClusterLvRemovePlan (nodes : List ClusterLvmNodeInventory)
    (primarySanId clusterId : String) (payload : LvmPayload) :
    Except HttpError ClusterLvmExecutionPlan := do
  let pre ← runClusterLvmPreflight nodes primarySanId .lvremove payload []
  let vgName := payload.vgName
  let name := payload.name
  return planOf .lvremove clusterId primarySanId s!"LVREMOVE CLUSTER {vgName}/{name}" pre
    (nodes.map (lvRemoveNode payload pre)) []

end

theorem preflight_of_executable {action : VolumeAction}
    {clusterId primarySanId phrase : String} {pre : ClusterLvmPreflightResult}
    {nodeResults : List ClusterLvmNodeResult} {warnings : List String} {u : Unit}
    (h : assertPlanExecutable
      (planOf action clusterId primarySanId phrase pre nodeResults warnings) = .ok u) :
    pre.ok := by
  obtain ⟨_, hSymmetric, -⟩ := bind_eq_ok.mp h
  have hOk : (pre.ok && nodeResults.all (·.participation == .execute)) = true := by
    simpa [planOf] using throwIf_eq_ok.mp hSymmetric
  exact (Bool.and_eq_true_iff.mp hOk).1

theorem exists_index_of_mem_zip_mapIdx {α β : Type} {l : List α} {f : Nat → α → β} {a : α} {b : β}
    (h : (a, b) ∈ l.zip (l.mapIdx f)) : ∃ i, b = f i a := by
  obtain ⟨i, hi⟩ := List.mem_iff_getElem?.mp h
  rw [List.getElem?_zip_eq_some, List.getElem?_mapIdx] at hi
  obtain ⟨ha, hb⟩ := hi
  rw [ha] at hb
  exact ⟨i, (Option.some.inj hb).symm⟩

theorem command_lvCreateTurn {node : ClusterLvmNodeResult} {payload : LvmPayload}
    {answers : NodeAnswers} {result : Ssh.ExecResult} {args : List String} :
    (lvCreateTurn node payload answers result args).command = some args := by
  simp only [lvCreateTurn]
  split
  · rfl
  · split
    · rfl
    · split <;> rfl

variable [CaseMapping] {execution : Execution} {plan : ClusterLvmExecutionPlan}
  {request : ClusterLvmExecutionRequest} {payload : LvmPayload}
  {diskMappings : List ClusterLvmDiskMapping} {result : ClusterLvmExecutionResult}

theorem nodeArgs_of_command {action : LvmAction} {primarySanId : String}
    {inventories : List ClusterLvmNodeInventory} {answers : NodeAnswers}
    {node : ClusterLvmNodeResult} {args : List String}
    (h : (nodeTurn action payload primarySanId inventories diskMappings answers node).command =
      some args) :
    nodeArgs action payload primarySanId inventories diskMappings node.sanId = some args := by
  unfold nodeTurn at h
  split at h
  · cases h
  · cases hArgs : nodeArgs action payload primarySanId inventories diskMappings node.sanId with
    | none => simp [hArgs] at h
    | some args' =>
      simp only [hArgs] at h
      split at h
      · exact h
      · split at h
        · rw [command_lvCreateTurn] at h
          exact h
        · exact h

theorem clusterId_executeClusterLvmPlan
    (h : executeClusterLvmPlan execution plan request payload diskMappings = .ok result) :
    assertPlanExecutable plan = .ok () ∧
      result.clusterId = (plan.clusterId.or request.clusterId).getD "" := by
  obtain ⟨_, hExecutable, h⟩ := bind_eq_ok.mp h
  obtain ⟨_, -, h⟩ := bind_eq_ok.mp h
  obtain ⟨_, -, h⟩ := bind_eq_ok.mp h
  obtain ⟨_, -, h⟩ := bind_eq_ok.mp h
  obtain rfl := Except.ok.inj h
  exact ⟨hExecutable, rfl⟩

def sentCommands (execution : Execution) (plan : ClusterLvmExecutionPlan)
    (request : ClusterLvmExecutionRequest) (payload : LvmPayload)
    (diskMappings : List ClusterLvmDiskMapping) : List (ClusterLvmNodeResult × List String) :=
  match executeClusterLvmPlan execution plan request payload diskMappings with
  | .error _ => []
  | .ok result =>
    (plan.executed.zip (nodeTurns execution plan request payload diskMappings
      result.clusterId)).filterMap fun (node, turn) => turn.command.map (node, ·)

theorem of_mem_sentCommands {entry : ClusterLvmNodeResult × List String}
    (h : entry ∈ sentCommands execution plan request payload diskMappings) :
    assertPlanExecutable plan = .ok () ∧ entry.1 ∈ plan.executed ∧
      nodeArgs plan.action payload request.primarySanId
        (execution.inventories ((plan.clusterId.or request.clusterId).getD "")) diskMappings
        entry.1.sanId = some entry.2 := by
  unfold sentCommands at h
  split at h
  · cases h
  · rename_i result hResult
    obtain ⟨hExecutable, hClusterId⟩ := clusterId_executeClusterLvmPlan hResult
    obtain ⟨⟨node, turn⟩, hZip, hCommand⟩ := List.mem_filterMap.mp h
    obtain ⟨args, hArgs, rfl⟩ := Option.map_eq_some_iff.mp hCommand
    obtain ⟨i, rfl⟩ := exists_index_of_mem_zip_mapIdx hZip
    rw [← hClusterId]
    exact ⟨hExecutable, (List.of_mem_zip hZip).1, nodeArgs_of_command hArgs⟩

end EsosWebui.Lvm
