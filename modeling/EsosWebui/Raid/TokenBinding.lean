import EsosWebui.Raid.AssemblePlan
import EsosWebui.Raid.MemberPlans
import EsosWebui.Raid.StopPlan

/-! What two plans with the same token run, and what of it their token leaves out. -/
namespace EsosWebui.Raid

open Js

structure AddMdMemberRequest where
  device : String
  intent : MdAddMemberIntent
  clusterExecution : ClusterMdExecutionRequest

def addMemberPreflight (input : AddMdMemberInput) (diskMappings : List ClusterDiskMappingInput) :
    ClusterStoragePreflightRequest :=
  { primarySanId := input.primarySanId
    action := .mdAddDevice
    payload :=
      { name := some (trimString input.arrayName)
        device := some input.device
        intent := some input.intent }
    diskMappings }

structure AddMdMemberClusterPlan where
  preflight : ClusterStoragePreflightResult
  nodeResults : List AddMdMemberClusterNodeResult

def buildAddMdMemberClusterExecutionPlan [CaseMapping] (cluster : Cluster)
    (input : AddMdMemberInput) (diskMappings : List ClusterDiskMappingInput) :
    Except HttpError AddMdMemberClusterPlan := do
  let preflight ← runClusterStoragePreflight cluster (addMemberPreflight input diskMappings)
  let blockers := join "; " preflight.blockers
  throwIf (!preflight.ok) ⟨409, s!"Préflight stockage cluster non validé : {blockers}"⟩
  let nodeResults ← buildAddMdMemberNodeResults preflight input
  return { preflight, nodeResults }

structure AddMdMemberExecutionPlan where
  intent : MdAddMemberIntent
  sourceSanId : String
  planToken : String
  confirmationPhrase : String
  nodeResults : List AddMdMemberClusterNodeResult
  preflightOk : Bool

def AddMdMemberRequest.input (req : AddMdMemberRequest) (arrayName : String) :
    AddMdMemberInput :=
  { primarySanId := req.clusterExecution.primarySanId
    arrayName
    device := req.device
    intent := req.intent }

def buildAddMdMemberExecutionPlanForCluster [Host] (cluster : Cluster) (arrayName : String)
    (req : AddMdMemberRequest) : Except HttpError AddMdMemberExecutionPlan := do
  let clusterExecution := req.clusterExecution
  let name ← normalizeMdArrayName arrayName
  let plan ← buildAddMdMemberClusterExecutionPlan cluster (req.input name)
    clusterExecution.diskMappings
  let planToken := computeAddMdMemberPlanToken name req.intent clusterExecution.primarySanId
    req.device (plan.nodeResults.map (·.sanId))
  let confirmationPhrase ← expectedClusterAddMdMemberConfirmation name req.intent
  return {
    intent := req.intent
    sourceSanId := clusterExecution.primarySanId
    planToken
    confirmationPhrase
    nodeResults := plan.nodeResults
    preflightOk := plan.preflight.ok }

structure PlannedRun where
  sanId : String
  command : Option String
  arrayPath : Option String
  members : List String
  deriving DecidableEq

def ClusterMdNodeResult.run (result : ClusterMdNodeResult) : PlannedRun :=
  ⟨result.sanId, result.command, result.arrayPath, result.members⟩

def AddMdMemberClusterNodeResult.run (result : AddMdMemberClusterNodeResult) : PlannedRun :=
  ⟨result.sanId, some result.command, some result.arrayPath, [result.device]⟩

def plannedRuns (results : List ClusterMdNodeResult) : List PlannedRun :=
  (nodesToExecute results).map (·.run)

/-- The same commands on the same nodes, with the same array path and the same members. -/
def SameRuns (runs runs' : List PlannedRun) : Prop := ∀ run, run ∈ runs ↔ run ∈ runs'

structure RunsOf (cluster : Cluster) (runOn : ClusterStorageNodeInventory → Option PlannedRun)
    (runs : List PlannedRun) : Prop where
  sanId : ∀ node run, runOn node = some run → run.sanId = node.sanId
  mem_iff : ∀ run, run ∈ runs ↔ ∃ node ∈ cluster.nodes, runOn node = some run

section

variable {cluster cluster' : Cluster}
  {runOn runOn' : ClusterStorageNodeInventory → Option PlannedRun} {runs runs' : List PlannedRun}

private theorem run_of_subset (h : RunsOf cluster runOn runs) (h' : RunsOf cluster' runOn' runs')
    (hSubset : ∀ run ∈ runs, run ∈ runs') {node node' : ClusterStorageNodeInventory}
    (hNode : node ∈ cluster.nodes) (hNode' : node' ∈ cluster'.nodes)
    (hId : node.sanId = node'.sanId) {run : PlannedRun} (hRun : runOn node = some run) :
    runOn' node' = some run := by
  have hMem : run ∈ runs := (h.mem_iff run).mpr ⟨node, hNode, hRun⟩
  obtain ⟨other, hOther, hOtherRun⟩ := (h'.mem_iff run).mp (hSubset run hMem)
  have hSame : other.sanId = node'.sanId :=
    ((h'.sanId other run hOtherRun).symm.trans (h.sanId node run hRun)).trans hId
  rwa [← cluster'.eq_of_sanId hOther hNode' hSame]

private theorem subset_of_run (h : RunsOf cluster runOn runs) (h' : RunsOf cluster' runOn' runs')
    (hIds : ∀ node ∈ cluster.nodes, ∃ node' ∈ cluster'.nodes, node.sanId = node'.sanId)
    (hRuns : ∀ node ∈ cluster.nodes, ∀ node' ∈ cluster'.nodes, node.sanId = node'.sanId →
      runOn node = runOn' node') : ∀ run ∈ runs, run ∈ runs' := by
  intro run hRun
  obtain ⟨node, hNode, hOn⟩ := (h.mem_iff run).mp hRun
  obtain ⟨node', hNode', hId⟩ := hIds node hNode
  exact (h'.mem_iff run).mpr ⟨node', hNode', hRuns node hNode node' hNode' hId ▸ hOn⟩

theorem sameRuns_iff (h : RunsOf cluster runOn runs) (h' : RunsOf cluster' runOn' runs')
    (hIds : (cluster.nodes.map (·.sanId)).Perm (cluster'.nodes.map (·.sanId))) :
    SameRuns runs runs' ↔ ∀ node ∈ cluster.nodes, ∀ node' ∈ cluster'.nodes,
      node.sanId = node'.sanId → runOn node = runOn' node' := by
  constructor
  · intro hSame node hNode node' hNode' hId
    apply Option.ext
    intro run
    constructor
    · exact run_of_subset h h' (fun run => (hSame run).mp) hNode hNode' hId
    · exact run_of_subset h' h (fun run => (hSame run).mpr) hNode' hNode hId.symm
  · intro hRuns run
    constructor
    · refine subset_of_run h h' (fun node hNode => ?_) hRuns run
      obtain ⟨node', hNode', hId⟩ := List.mem_map.mp (hIds.subset (List.mem_map_of_mem hNode))
      exact ⟨node', hNode', hId.symm⟩
    · refine subset_of_run h' h (fun node' hNode' => ?_)
        (fun node' hNode' node hNode hId => (hRuns node hNode node' hNode' hId.symm).symm) run
      obtain ⟨node, hNode, hId⟩ :=
        List.mem_map.mp (hIds.symm.subset (List.mem_map_of_mem hNode'))
      exact ⟨node, hNode, hId.symm⟩

end

theorem runsOf_of_forall₂ {cluster : Cluster} {primarySanId : String}
    {runOn : ClusterStorageNodeInventory → Option PlannedRun} {results : List ClusterMdNodeResult}
    (hId : ∀ node run, runOn node = some run → run.sanId = node.sanId)
    (h : List.Forall₂ (fun node result =>
      runOn node = if result.participation = .execute then some result.run else none)
      (orderNodes cluster.nodes primarySanId) results) :
    RunsOf cluster runOn (plannedRuns results) := by
  have hPerm := orderNodes_perm cluster.nodes primarySanId
  refine ⟨hId, fun run => ?_⟩
  constructor
  · intro hRun
    obtain ⟨result, hResult, rfl⟩ := List.mem_map.mp hRun
    obtain ⟨hResult, hExecute⟩ := List.mem_filter.mp hResult
    obtain ⟨node, hNode, hOn⟩ := exists_of_forall₂_right h hResult
    exact ⟨node, hPerm.subset hNode, by rw [hOn, if_pos (beq_iff_eq.mp hExecute)]⟩
  · rintro ⟨node, hNode, hRun⟩
    obtain ⟨result, hResult, hOn⟩ := exists_of_forall₂_left h (hPerm.symm.subset hNode)
    rw [hRun] at hOn
    split at hOn
    · rename_i hExecute
      rw [Option.some.inj hOn]
      exact List.mem_map_of_mem (List.mem_filter.mpr ⟨hResult, beq_iff_eq.mpr hExecute⟩)
    · cases hOn

def StopMdPlanRequest.pathOn (req : StopMdPlanRequest) (node : ClusterStorageNodeInventory) :
    String :=
  let name := trimString req.arrayName
  (req.report node).arrayPath.getD s!"/dev/{name}"

def StopMdPlanRequest.membersOn (req : StopMdPlanRequest) (node : ClusterStorageNodeInventory) :
    List String :=
  if (req.report node).members ≠ [] then (req.report node).members
  else
    match node.mdArrays.find? (·.name == trimString req.arrayName) with
    | some arr => arr.members.map fun m => m.path.getD ""
    | none => []

def StopMdPlanRequest.runOn (req : StopMdPlanRequest) (node : ClusterStorageNodeInventory) :
    Option PlannedRun :=
  let path := req.pathOn node
  if (req.report node).state = .active then
    some ⟨node.sanId, some s!"mdadm --stop {path}", some path, req.membersOn node⟩
  else none

theorem runOn_eq_stopNodeResult {req : StopMdPlanRequest} {mode : ClusterMdRecoveryMode}
    (hMode : stopsActive mode) {node : ClusterStorageNodeInventory}
    (hClean : (req.report node).state = .active → (req.report node).nodeBlockers = []) :
    let result := stopNodeResult req.primarySanId (trimString req.arrayName) mode node
      (req.report node)
    req.runOn node = if result.participation = .execute then some result.run else none := by
  intro result
  have hExecute : result.participation = .execute ↔ (req.report node).state = .active :=
    stopNodeResult_execute_iff hMode hClean
  unfold StopMdPlanRequest.runOn
  by_cases hActive : (req.report node).state = .active
  · rw [if_pos hActive, if_pos (hExecute.mpr hActive)]
    simp only [result, stopNodeResult, hActive, hClean hActive, hMode]
    rfl
  · rw [if_neg hActive, if_neg fun h => hActive (hExecute.mp h)]

theorem stop_runsOf [Host] {cluster : Cluster} {req : StopMdPlanRequest}
    {plan : ClusterMdPlan ClusterMdRecoveryMode}
    (h : buildStopMdClusterExecutionPlan cluster req = .ok plan) :
    RunsOf cluster req.runOn (plannedRuns plan.nodeResults) := by
  obtain ⟨-, -, ⟨uuidBlocks, symmetric, hMode⟩, hResults, -⟩ :=
    buildStopMdClusterExecutionPlan_eq_ok h
  apply @runsOf_of_forall₂ cluster req.primarySanId
  · intro node run hRun
    unfold StopMdPlanRequest.runOn at hRun
    dsimp only at hRun
    split at hRun
    · exact Option.some.inj hRun ▸ rfl
    · cases hRun
  · rw [hResults, List.forall₂_map_right_iff, List.forall₂_same]
    intro node hNode
    exact runOn_eq_stopNodeResult (stopsActive_of_allowed hMode)
      (clean_of_plan h ((orderNodes_perm _ _).subset hNode))

section

variable [CaseMapping] {req : AssembleMdArrayRequest}

def AssembleMdArrayRequest.runOn (req : AssembleMdArrayRequest)
    (source node : ClusterStorageNodeInventory) : Option PlannedRun :=
  let members := req.membersOn source node
  let name := req.effectiveName
  if (req.report node).assemblable && complete members then
    some ⟨node.sanId, (buildMdAssembleCommand name members).toOption, some s!"/dev/{name}", members⟩
  else none

theorem assembleRunOn_eq_some {source node : ClusterStorageNodeInventory} {run : PlannedRun} :
    req.runOn source node = some run ↔
      ((req.report node).assemblable = true ∧ complete (req.membersOn source node) = true) ∧
        run = ⟨node.sanId,
          (buildMdAssembleCommand req.effectiveName (req.membersOn source node)).toOption,
          some s!"/dev/{req.effectiveName}", req.membersOn source node⟩ := by
  unfold AssembleMdArrayRequest.runOn
  dsimp only
  split
  · rename_i hBoth
    simp [Bool.and_eq_true_iff.mp hBoth, eq_comm]
  · rename_i hBoth
    simpa using fun hCan hComplete _ => hBoth (Bool.and_eq_true_iff.mpr ⟨hCan, hComplete⟩)

theorem runOn_eq_of_assembledOn {source node : ClusterStorageNodeInventory}
    {result : ClusterMdNodeResult} (h : AssembledOn req source node result) :
    req.runOn source node = if result.participation = .execute then some result.run else none := by
  unfold AssembleMdArrayRequest.runOn
  dsimp only
  by_cases hExecute : result.participation = .execute
  · obtain ⟨hAssemblable, hComplete⟩ := h.execute_iff.mp hExecute
    obtain ⟨command, hCommand, hSome⟩ := h.command hExecute
    rw [if_pos hExecute, hAssemblable, hComplete, hCommand, ClusterMdNodeResult.run, h.sanId,
      h.members hExecute, h.arrayPath hExecute, hSome]
    rfl
  · have hNot : ¬ ((req.report node).assemblable && complete (req.membersOn source node)) = true :=
      fun hBoth => hExecute (h.execute_iff.mpr (Bool.and_eq_true_iff.mp hBoth))
    rw [if_neg hExecute, if_neg hNot]

end

theorem assemble_runsOf [Host] {cluster : Cluster} {req : AssembleMdArrayRequest}
    {recoveryModeInput : Option ClusterMdRecoveryMode} {plan : ClusterMdPlan ClusterMdRecoveryMode}
    {source : ClusterStorageNodeInventory} (hSource : source ∈ cluster.nodes)
    (hPrimary : source.sanId = req.primarySanId)
    (h : buildAssembleMdClusterExecutionPlan cluster req recoveryModeInput = .ok plan) :
    RunsOf cluster (req.runOn source) (plannedRuns plan.nodeResults) := by
  obtain ⟨run, -, -, -, hNodes, -⟩ := buildAssembleMdClusterExecutionPlan_eq_ok h
  obtain rfl := run.source_eq hSource hPrimary
  apply runsOf_of_forall₂ fun _ _ hRun => (assembleRunOn_eq_some.mp hRun).2 ▸ rfl
  exact hNodes.imp fun _ _ hOn => runOn_eq_of_assembledOn hOn

section

variable [CaseMapping]

def AddMdMemberInput.deviceOn (input : AddMdMemberInput)
    (diskMappings : List ClusterDiskMappingInput) (source node : ClusterStorageNodeInventory) :
    Option String :=
  if node.sanId = input.primarySanId then some input.device
  else targetOnPeer (addMemberPreflight input diskMappings) source node input.device

def AddMdMemberInput.runOn (input : AddMdMemberInput)
    (diskMappings : List ClusterDiskMappingInput) (source node : ClusterStorageNodeInventory) :
    Option PlannedRun :=
  let arrayName := withoutDevPrefix input.arrayName
  let arrayPath := s!"/dev/{arrayName}"
  (input.deviceOn diskMappings source node).map fun device =>
    ⟨node.sanId, (buildMdAddDeviceCommand arrayPath device).toOption, some arrayPath, [device]⟩

omit [CaseMapping] in
theorem mappedTarget_of_resolveDevice {mappings : List ClusterDiskMapping}
    {node : ClusterStorageNodeInventory} {sourcePath device : String}
    (h : (resolveDevice mappings node sourcePath).1 = device) (hSet : device ≠ "") :
    mappedTarget mappings sourcePath node.sanId = some device := by
  unfold resolveDevice at h
  unfold mappedTarget
  dsimp only at h
  split at h
  · exact absurd h.symm hSet
  · rename_i mapping hFound
    rw [hFound, Option.bind_some]
    split at h
    · exact absurd h.symm hSet
    · cases hTarget : mapping.targetPath with
      | none =>
        rw [hTarget] at h
        exact absurd h.symm hSet
      | some target =>
        rw [hTarget] at h
        obtain rfl : target = device := h
        simp [hSet]

theorem runOn_of_addMemberNodeResult {cluster : Cluster} {input : AddMdMemberInput}
    {diskMappings : List ClusterDiskMappingInput}
    {run : PreflightRun cluster (addMemberPreflight input diskMappings)}
    {node : ClusterStorageNodeInventory} (hNode : node ∈ cluster.nodes)
    {result : AddMdMemberClusterNodeResult} {blockers : List String} {arrayName : String}
    (hName : arrayName = withoutDevPrefix input.arrayName)
    (h : addMemberNodeResult run.result input s!"/dev/{arrayName}" node =
      .ok (some result, blockers)) :
    input.runOn diskMappings run.source node = some result.run := by
  unfold addMemberNodeResult at h
  generalize hDevice : (if node.sanId = input.primarySanId then (input.device, [])
    else resolveDevice run.result.mappings node input.device) = resolved at h
  obtain ⟨device, nodeBlockers⟩ := resolved
  dsimp only at h
  split at h
  · cases h
  · rename_i hSet
    split at h
    · cases h
    · obtain ⟨command, hCommand, hResult⟩ := map_eq_ok.mp h
      obtain ⟨hResult, -⟩ := Prod.mk.inj hResult
      have hOn : input.deviceOn diskMappings run.source node = some device := by
        unfold AddMdMemberInput.deviceOn
        by_cases hPrimary : node.sanId = input.primarySanId
        · rw [if_pos hPrimary] at hDevice ⊢
          rw [(Prod.mk.inj hDevice).1]
        · rw [if_neg hPrimary] at hDevice ⊢
          rw [← run.mappedTarget_result hNode hPrimary]
          exact mappedTarget_of_resolveDevice (congrArg Prod.fst hDevice) hSet
      unfold AddMdMemberInput.runOn
      subst hName
      rw [hOn, Option.map_some, hCommand, ← Option.some.inj hResult]
      rfl

end

section

variable [Host]

def recoveryTokenPayload (action : ClusterStorageAction) (arrayName primarySanId : String)
    (plan : ClusterMdPlan ClusterMdRecoveryMode) : Text :=
  clusterMdTokenPayload action arrayName plan.recoveryMode primarySanId
    (plan.recoveryAssessment.nodeReports.map fun r => (r.sanId, r.state))

def addMemberTokenPayload (arrayName : String) (req : AddMdMemberRequest)
    (plan : AddMdMemberExecutionPlan) : Text :=
  addMdMemberTokenPayload arrayName req.intent req.clusterExecution.primarySanId req.device
    (Host.sortByLocale (plan.nodeResults.map (·.sanId)))

theorem payload_eq_of_accepted {payload payload' : Text} {token token' : String}
    (hToken : token = planToken payload) (hToken' : token' = planToken payload')
    (hAccepted : validateClusterMdPlanToken (some token) token' = .ok ())
    (hCollision : NoCollision payload payload') : payload = payload' := by
  apply hCollision
  rw [← hToken, ← hToken']
  have hValid := throwIf_eq_ok.mp hAccepted
  simp only [Bool.or_eq_true, not_or, bne_iff_ne, ne_eq, not_not] at hValid
  exact Option.some.inj hValid.2

variable {cluster cluster' : Cluster}

omit [Host] in
theorem states_eq {state state' : ClusterStorageNodeInventory → MdArrayNodeState}
    (h : cluster.nodes.map (fun node => (node.sanId, state node)) =
      cluster'.nodes.map fun node => (node.sanId, state' node)) :
    cluster.nodes.map (·.sanId) = cluster'.nodes.map (·.sanId) ∧
      ∀ node ∈ cluster.nodes, ∀ node' ∈ cluster'.nodes, node.sanId = node'.sanId →
        state node = state' node' := by
  constructor
  · simpa [Function.comp_def] using congrArg (List.map Prod.fst) h
  · intro node hNode node' hNode' hId
    have hMem := List.mem_map_of_mem (f := fun node => (node.sanId, state node)) hNode
    rw [h] at hMem
    obtain ⟨other, hOther, hSame⟩ := List.mem_map.mp hMem
    obtain ⟨hOtherId, hState⟩ := Prod.mk.inj hSame
    rw [← hState, cluster'.eq_of_sanId hOther hNode' (hOtherId.trans hId)]

section

variable {req req' : StopMdPlanRequest} {plan plan' : ClusterMdPlan ClusterMdRecoveryMode}

theorem token_of_stop (h : buildStopMdClusterExecutionPlan cluster req = .ok plan) :
    plan.planToken = planToken (recoveryTokenPayload .stopMd (trimString req.arrayName)
        req.primarySanId plan) ∧
      plan.recoveryAssessment.nodeReports = cluster.nodes.map req.report := by
  obtain ⟨name, hName, hPreflight, hAssessment, -, -, -, hToken⟩ :=
    parts_of_buildStopMdClusterExecutionPlan h
  obtain rfl := normalizeMdArrayName_eq_ok hName
  obtain ⟨run, hRun⟩ := exists_preflightRun hPreflight
  rw [hRun] at hAssessment
  refine ⟨hToken, ?_⟩
  rw [stopAssessment_eq run (requireRecovery_eq_ok hAssessment).1]
  rfl

/-- Stop plans with the same token stop the same exactly when the array has the same device
and the same members on the nodes it is active on. -/
theorem stop_sameRuns_iff (h : buildStopMdClusterExecutionPlan cluster req = .ok plan)
    (h' : buildStopMdClusterExecutionPlan cluster' req' = .ok plan')
    (hAccepted : validateClusterMdPlanToken (some plan.planToken) plan'.planToken = .ok ())
    (hCollision : NoCollision
      (recoveryTokenPayload .stopMd (trimString req.arrayName) req.primarySanId plan)
      (recoveryTokenPayload .stopMd (trimString req'.arrayName) req'.primarySanId plan')) :
    SameRuns (plannedRuns plan.nodeResults) (plannedRuns plan'.nodeResults) ↔
      ∀ node ∈ cluster.nodes, ∀ node' ∈ cluster'.nodes, node.sanId = node'.sanId →
        (req.report node).state = .active →
          req.pathOn node = req'.pathOn node' ∧ req.membersOn node = req'.membersOn node' := by
  obtain ⟨hToken, hReports⟩ := token_of_stop h
  obtain ⟨hToken', hReports'⟩ := token_of_stop h'
  have hPayload := payload_eq_of_accepted hToken hToken' hAccepted hCollision
  unfold recoveryTokenPayload at hPayload
  obtain ⟨-, -, -, hNodes⟩ := clusterMdTokenPayload_inj hPayload
  rw [hReports, hReports', List.map_map, List.map_map] at hNodes
  obtain ⟨hIds, hStates⟩ := @states_eq cluster cluster' (fun node => (req.report node).state)
    (fun node => (req'.report node).state) 
    (by simpa [Function.comp_def, StopMdPlanRequest.report] using hNodes)
  rw [sameRuns_iff (stop_runsOf h) (stop_runsOf h') (hIds ▸ List.Perm.refl _)]
  apply forall₂_congr
  intro node hNode
  apply forall₂_congr
  intro node' hNode'
  apply forall_congr'
  intro hId
  have hState := hStates node hNode node' hNode' hId
  unfold StopMdPlanRequest.runOn
  dsimp only
  by_cases hActive : (req.report node).state = .active
  · rw [if_pos hActive, if_pos (hState ▸ hActive)]
    simp only [Option.some.injEq, PlannedRun.mk.injEq, hActive, forall_const]
    constructor
    · rintro ⟨-, -, hPath, hMembers⟩
      exact ⟨hPath, hMembers⟩
    · rintro ⟨hPath, hMembers⟩
      rw [hPath]
      exact ⟨hId, rfl, rfl, hMembers⟩
  · rw [if_neg hActive, if_neg (hState ▸ hActive)]
    simp [hActive]

end

section

variable {req req' : AssembleMdArrayRequest}
  {recoveryModeInput recoveryModeInput' : Option ClusterMdRecoveryMode}
  {plan plan' : ClusterMdPlan ClusterMdRecoveryMode} {source source' : ClusterStorageNodeInventory}

theorem token_of_assemble
    (h : buildAssembleMdClusterExecutionPlan cluster req recoveryModeInput = .ok plan) :
    plan.planToken = planToken (recoveryTokenPayload .assembleMd req.name req.primarySanId plan) ∧
      plan.recoveryAssessment.nodeReports = cluster.nodes.map req.report := by
  obtain ⟨hPreflight, hAssessment, -, -, -, hToken⟩ :=
    parts_of_buildAssembleMdClusterExecutionPlan h
  obtain ⟨run, hRun⟩ := exists_preflightRun hPreflight
  rw [hRun] at hAssessment
  refine ⟨hToken, ?_⟩
  obtain ⟨hSome, -⟩ := requireRecovery_eq_ok hAssessment
  rw [← Option.some.inj hSome]
  rfl

omit [Host] in
theorem assemblable_iff_of_hardBlockers {nodeReports : List MdArrayNodeStateReport}
    {arrayName : String} (h : assembleHardBlockers nodeReports arrayName = [])
    {report : MdArrayNodeStateReport} (hReport : report ∈ nodeReports) :
    report.assemblable = true ↔ report.state = .stopped ∨ report.state = .metadataOnly := by
  have hBlockers := (List.append_eq_nil_iff.mp (List.append_eq_nil_iff.mp h).1).2
  unfold MdArrayNodeStateReport.assemblable
  constructor
  · intro hBoth
    simpa using (Bool.and_eq_true_iff.mp hBoth).1
  · intro hState
    have hListed : report ∈ nodeReports.filter fun r =>
        r.state == .stopped || r.state == .metadataOnly :=
      List.mem_filter.mpr ⟨hReport, by simpa using hState⟩
    have hNone := List.flatMap_eq_nil_iff.mp hBlockers report hListed
    have hFree : report.nodeBlockers = [] := List.map_eq_nil_iff.mp hNone
    simpa [hFree] using hState

omit [Host] in
theorem devPath_inj {name other : String} (h : s!"/dev/{name}" = s!"/dev/{other}") :
    name = other := by
  have hText := congrArg String.toList h
  rw [String.toList_append, String.toList_append] at hText
  exact String.toList_injective (List.append_cancel_left hText)

/-- Assembly plans with the same token assemble the same exactly when the array is assembled
under the same name and from the same members on the nodes it is stopped on. -/
theorem assemble_sameRuns_iff (hSource : source ∈ cluster.nodes)
    (hPrimary : source.sanId = req.primarySanId) (hSource' : source' ∈ cluster'.nodes)
    (hPrimary' : source'.sanId = req'.primarySanId)
    (h : buildAssembleMdClusterExecutionPlan cluster req recoveryModeInput = .ok plan)
    (h' : buildAssembleMdClusterExecutionPlan cluster' req' recoveryModeInput' = .ok plan')
    (hAccepted : validateClusterMdPlanToken (some plan.planToken) plan'.planToken = .ok ())
    (hCollision : NoCollision
      (recoveryTokenPayload .assembleMd req.name req.primarySanId plan)
      (recoveryTokenPayload .assembleMd req'.name req'.primarySanId plan')) :
    SameRuns (plannedRuns plan.nodeResults) (plannedRuns plan'.nodeResults) ↔
      req.effectiveName = req'.effectiveName ∧
      ∀ node ∈ cluster.nodes, ∀ node' ∈ cluster'.nodes, node.sanId = node'.sanId →
        (req.report node).assemblable = true →
          (complete (req.membersOn source node) = true ∨
            complete (req'.membersOn source' node') = true) →
          req.membersOn source node = req'.membersOn source' node' := by
  obtain ⟨hToken, hReports⟩ := token_of_assemble h
  obtain ⟨hToken', hReports'⟩ := token_of_assemble h'
  have hPayload := payload_eq_of_accepted hToken hToken' hAccepted hCollision
  unfold recoveryTokenPayload at hPayload
  obtain ⟨-, -, -, hNodes⟩ := clusterMdTokenPayload_inj hPayload
  rw [hReports, hReports', List.map_map, List.map_map] at hNodes
  obtain ⟨hIds, hStates⟩ := @states_eq cluster cluster' (fun node => (req.report node).state)
    (fun node => (req'.report node).state)
    (by simpa [Function.comp_def, AssembleMdArrayRequest.report] using hNodes)
  obtain ⟨run, -, hHard, -, hAssembled, hSome, -⟩ := buildAssembleMdClusterExecutionPlan_eq_ok h
  obtain rfl := run.source_eq hSource hPrimary
  obtain ⟨-, -, hHard', -⟩ := buildAssembleMdClusterExecutionPlan_eq_ok h'
  have hAssemblable : ∀ node ∈ cluster.nodes, ∀ node' ∈ cluster'.nodes,
      node.sanId = node'.sanId →
        (req.report node).assemblable = (req'.report node').assemblable := by
    intro node hNode node' hNode' hId
    rw [Bool.eq_iff_iff, assemblable_iff_of_hardBlockers hHard (List.mem_map_of_mem hNode),
      assemblable_iff_of_hardBlockers hHard' (List.mem_map_of_mem hNode'),
      hStates node hNode node' hNode' hId]
  rw [sameRuns_iff (assemble_runsOf run.mem run.sanId h) (assemble_runsOf hSource' hPrimary' h')
    (hIds ▸ List.Perm.refl _)]
  constructor
  · intro hSame
    constructor
    · obtain ⟨result, hResult⟩ := List.exists_mem_of_ne_nil _ hSome
      obtain ⟨hResult, hExecute⟩ := List.mem_filter.mp hResult
      obtain ⟨node, hNode, hOn⟩ := exists_of_forall₂_right hAssembled hResult
      have hNode := (orderNodes_perm _ _).subset hNode
      obtain ⟨node', hNode', hId⟩ := List.mem_map.mp (hIds ▸ List.mem_map_of_mem hNode)
      have hRun : req.runOn run.source node = some result.run := by
        rw [runOn_eq_of_assembledOn hOn, if_pos (beq_iff_eq.mp hExecute)]
      have hRun' := hSame node hNode node' hNode' hId.symm ▸ hRun
      have hSameRun := (assembleRunOn_eq_some.mp hRun).2.symm.trans (assembleRunOn_eq_some.mp hRun').2
      exact devPath_inj (Option.some.inj (congrArg PlannedRun.arrayPath hSameRun))
    · intro node hNode node' hNode' hId hCan hEither
      have hRuns := hSame node hNode node' hNode' hId
      have hCan' := hAssemblable node hNode node' hNode' hId ▸ hCan
      rcases hEither with hComplete | hComplete
      · have hRun' := hRuns ▸ assembleRunOn_eq_some.mpr ⟨⟨hCan, hComplete⟩, rfl⟩
        exact congrArg PlannedRun.members (assembleRunOn_eq_some.mp hRun').2
      · have hRun := hRuns.symm ▸ assembleRunOn_eq_some.mpr ⟨⟨hCan', hComplete⟩, rfl⟩
        exact (congrArg PlannedRun.members (assembleRunOn_eq_some.mp hRun).2).symm
  · rintro ⟨hName, hMembers⟩ node hNode node' hNode' hId
    have hMembers := hMembers node hNode node' hNode' hId
    unfold AssembleMdArrayRequest.runOn
    dsimp only
    rw [← hAssemblable node hNode node' hNode' hId, ← hName]
    cases hCan : (req.report node).assemblable with
    | false => rfl
    | true =>
      simp only [hCan, forall_const] at hMembers
      by_cases hEither : complete (req.membersOn run.source node) = true ∨
          complete (req'.membersOn source' node') = true
      · rw [← hMembers hEither, hId]
      · obtain ⟨hNot, hNot'⟩ := not_or.mp hEither
        simp [hNot, hNot']

end

section

variable {arrayName arrayName' : String} {req req' : AddMdMemberRequest}
  {plan plan' : AddMdMemberExecutionPlan} {source source' : ClusterStorageNodeInventory}

theorem addMember_runsOf (hSource : source ∈ cluster.nodes)
    (hPrimary : source.sanId = req.clusterExecution.primarySanId)
    (h : buildAddMdMemberExecutionPlanForCluster cluster arrayName req = .ok plan) :
    RunsOf cluster ((req.input (trimString arrayName)).runOn req.clusterExecution.diskMappings
        source) (plan.nodeResults.map (·.run)) ∧
      (plan.nodeResults.map (·.sanId)).Perm (cluster.nodes.map (·.sanId)) ∧
      plan.planToken = planToken (addMemberTokenPayload (trimString arrayName) req plan) := by
  obtain ⟨name, hName, h⟩ := bind_eq_ok.mp h
  obtain rfl := normalizeMdArrayName_eq_ok hName
  obtain ⟨clusterPlan, hPlan, h⟩ := bind_eq_ok.mp h
  obtain ⟨phrase, -, h⟩ := bind_eq_ok.mp h
  cases pure_eq_ok.mp h
  obtain ⟨preflight, hPreflight, hPlan⟩ := bind_eq_ok.mp hPlan
  obtain ⟨_, -, hPlan⟩ := bind_eq_ok.mp hPlan
  obtain ⟨nodeResults, hResults, hPlan⟩ := bind_eq_ok.mp hPlan
  cases pure_eq_ok.mp hPlan
  obtain ⟨run, rfl⟩ := exists_preflightRun hPreflight
  obtain rfl := run.source_eq hSource hPrimary
  obtain ⟨_, -, hResults⟩ := bind_eq_ok.mp hResults
  obtain ⟨outcomes, hOutcomes, hResults⟩ := bind_eq_ok.mp hResults
  have hNodes := forall₂_comp (mapM_eq_ok.mp hOutcomes) (forall₂_of_collectPlans hResults)
  have hPerm := orderNodes_perm cluster.nodes req.clusterExecution.primarySanId
  have hRuns : ∀ node ∈ cluster.nodes, ∀ result : AddMdMemberClusterNodeResult,
      (∃ outcome, addMemberNodeResult run.result (req.input (trimString arrayName))
        s!"/dev/{withoutDevPrefix (trimString arrayName)}" node = .ok outcome ∧
        outcome = (some result, [])) →
      (req.input (trimString arrayName)).runOn req.clusterExecution.diskMappings run.source node =
        some result.run := by
    rintro node hNode result ⟨outcome, hOutcome, rfl⟩
    exact runOn_of_addMemberNodeResult hNode rfl hOutcome
  refine ⟨⟨fun node planned hRun => ?_, fun planned => ?_⟩, ?_, rfl⟩
  · obtain ⟨device, -, rfl⟩ := Option.map_eq_some_iff.mp hRun
    rfl
  · constructor
    · intro hPlanned
      obtain ⟨result, hResult, rfl⟩ := List.mem_map.mp hPlanned
      obtain ⟨node, hNode, hOn⟩ := exists_of_forall₂_right hNodes hResult
      exact ⟨node, hPerm.subset hNode, hRuns node (hPerm.subset hNode) result hOn⟩
    · rintro ⟨node, hNode, hRun⟩
      obtain ⟨result, hResult, hOn⟩ := exists_of_forall₂_left hNodes (hPerm.symm.subset hNode)
      rw [hRuns node hNode result hOn] at hRun
      exact Option.some.inj hRun ▸ List.mem_map_of_mem hResult
  · have hIds : nodeResults.map (·.sanId) =
        (orderNodes cluster.nodes req.clusterExecution.primarySanId).map (·.sanId) := by
      apply map_eq_of_forall₂ hNodes
      rintro node result ⟨outcome, hOutcome, rfl⟩
      exact (addMemberNodeResult_eq_some hOutcome).1
    exact hIds ▸ hPerm.map _

/-- Plans for adding a member with the same token add the same exactly when the device is mapped
to the same device of each peer. -/
theorem addMember_sameRuns_iff (hSource : source ∈ cluster.nodes)
    (hPrimary : source.sanId = req.clusterExecution.primarySanId) (hSource' : source' ∈ cluster'.nodes)
    (hPrimary' : source'.sanId = req'.clusterExecution.primarySanId)
    (h : buildAddMdMemberExecutionPlanForCluster cluster arrayName req = .ok plan)
    (h' : buildAddMdMemberExecutionPlanForCluster cluster' arrayName' req' = .ok plan')
    (hAccepted : validateClusterMdPlanToken (some plan.planToken) plan'.planToken = .ok ())
    (hCollision : NoCollision (addMemberTokenPayload (trimString arrayName) req plan)
      (addMemberTokenPayload (trimString arrayName') req' plan')) :
    SameRuns (plan.nodeResults.map (·.run)) (plan'.nodeResults.map (·.run)) ↔
      ∀ node ∈ cluster.nodes, ∀ node' ∈ cluster'.nodes, node.sanId = node'.sanId →
        node.sanId ≠ req.clusterExecution.primarySanId →
          targetOnPeer (addMemberPreflight (req.input (trimString arrayName))
              req.clusterExecution.diskMappings) source node req.device =
            targetOnPeer (addMemberPreflight (req'.input (trimString arrayName'))
              req'.clusterExecution.diskMappings) source' node' req'.device := by
  obtain ⟨hRuns, hPerm, hToken⟩ := addMember_runsOf hSource hPrimary h
  obtain ⟨hRuns', hPerm', hToken'⟩ := addMember_runsOf hSource' hPrimary' h'
  have hPayload := payload_eq_of_accepted hToken hToken' hAccepted hCollision
  unfold addMemberTokenPayload at hPayload
  obtain ⟨hName, hPrimaries, hDevice, hSorted⟩ := addMdMemberTokenPayload_inj hPayload
  have hIds : (cluster.nodes.map (·.sanId)).Perm (cluster'.nodes.map (·.sanId)) :=
    hPerm.symm.trans (((Host.sortByLocale_perm _).symm.trans
      (hSorted ▸ Host.sortByLocale_perm _)).trans hPerm')
  rw [sameRuns_iff hRuns hRuns' hIds]
  apply forall₂_congr
  intro node hNode
  apply forall₂_congr
  intro node' hNode'
  apply forall_congr'
  intro hId
  unfold AddMdMemberInput.runOn AddMdMemberInput.deviceOn AddMdMemberRequest.input
  dsimp only
  rw [← hName, ← hPrimaries, ← hDevice, ← hId]
  by_cases hNodePrimary : node.sanId = req.clusterExecution.primarySanId
  · simp [hNodePrimary]
  · simp only [hNodePrimary, if_false, ne_eq, not_false_eq_true, forall_const]
    constructor
    · intro hSame
      exact Option.map_injective (fun _ _ hRun => by simpa using congrArg PlannedRun.members hRun) hSame
    · intro hSame
      rw [hSame]

end

/-- Two plans of an action of which one is accepted with the token of the other run the same
exactly when what the token leaves out is the same: for a stop the device and the members of the
array, for an assembly its name and its members, for an addition the device on each peer. -/
theorem same_token_same_runs_iff (cluster cluster' : Cluster) :
    (∀ req req' plan plan', buildStopMdClusterExecutionPlan cluster req = .ok plan →
      buildStopMdClusterExecutionPlan cluster' req' = .ok plan' →
      validateClusterMdPlanToken (some plan.planToken) plan'.planToken = .ok () →
      NoCollision (recoveryTokenPayload .stopMd (trimString req.arrayName) req.primarySanId plan)
        (recoveryTokenPayload .stopMd (trimString req'.arrayName) req'.primarySanId plan') →
      (SameRuns (plannedRuns plan.nodeResults) (plannedRuns plan'.nodeResults) ↔
        ∀ node ∈ cluster.nodes, ∀ node' ∈ cluster'.nodes, node.sanId = node'.sanId →
          (req.report node).state = .active →
            req.pathOn node = req'.pathOn node' ∧ req.membersOn node = req'.membersOn node')) ∧
    (∀ req req' recoveryModeInput recoveryModeInput' plan plan', ∀ source ∈ cluster.nodes,
      source.sanId = AssembleMdArrayRequest.primarySanId req → ∀ source' ∈ cluster'.nodes,
      source'.sanId = AssembleMdArrayRequest.primarySanId req' →
      buildAssembleMdClusterExecutionPlan cluster req recoveryModeInput = .ok plan →
      buildAssembleMdClusterExecutionPlan cluster' req' recoveryModeInput' = .ok plan' →
      validateClusterMdPlanToken (some plan.planToken) plan'.planToken = .ok () →
      NoCollision (recoveryTokenPayload .assembleMd req.name req.primarySanId plan)
        (recoveryTokenPayload .assembleMd req'.name req'.primarySanId plan') →
      (SameRuns (plannedRuns plan.nodeResults) (plannedRuns plan'.nodeResults) ↔
        req.effectiveName = req'.effectiveName ∧
        ∀ node ∈ cluster.nodes, ∀ node' ∈ cluster'.nodes, node.sanId = node'.sanId →
          (req.report node).assemblable = true →
            (complete (req.membersOn source node) = true ∨
              complete (req'.membersOn source' node') = true) →
            req.membersOn source node = req'.membersOn source' node')) ∧
    ∀ arrayName arrayName' req req' plan plan', ∀ source ∈ cluster.nodes,
      source.sanId = (AddMdMemberRequest.clusterExecution req).primarySanId →
      ∀ source' ∈ cluster'.nodes,
      source'.sanId = (AddMdMemberRequest.clusterExecution req').primarySanId →
      buildAddMdMemberExecutionPlanForCluster cluster arrayName req = .ok plan →
      buildAddMdMemberExecutionPlanForCluster cluster' arrayName' req' = .ok plan' →
      validateClusterMdPlanToken (some plan.planToken) plan'.planToken = .ok () →
      NoCollision (addMemberTokenPayload (trimString arrayName) req plan)
        (addMemberTokenPayload (trimString arrayName') req' plan') →
      (SameRuns (plan.nodeResults.map (·.run)) (plan'.nodeResults.map (·.run)) ↔
        ∀ node ∈ cluster.nodes, ∀ node' ∈ cluster'.nodes, node.sanId = node'.sanId →
          node.sanId ≠ req.clusterExecution.primarySanId →
            targetOnPeer (addMemberPreflight (req.input (trimString arrayName))
                req.clusterExecution.diskMappings) source node req.device =
              targetOnPeer (addMemberPreflight (req'.input (trimString arrayName'))
                req'.clusterExecution.diskMappings) source' node' req'.device) :=
  ⟨fun _ _ _ _ h h' hAccepted hCollision => stop_sameRuns_iff h h' hAccepted hCollision,
    fun _ _ _ _ _ _ _ hSource hPrimary _ hSource' hPrimary' h h' hAccepted hCollision =>
      assemble_sameRuns_iff hSource hPrimary hSource' hPrimary' h h' hAccepted hCollision,
    fun _ _ _ _ _ _ _ hSource hPrimary _ hSource' hPrimary' h h' hAccepted hCollision =>
      addMember_sameRuns_iff hSource hPrimary hSource' hPrimary' h h' hAccepted hCollision⟩

end

theorem planToken_hostWith {digests : List (Text × String)} {payload : Text} {digest : String}
    (h : digests.lookup payload = some digest) :
    @planToken (hostWith digests) payload = String.ofList (digest.toList.take 16) := by
  have hDigest : (digests.lookup (String.ofList payload).toList).getD (String.ofList payload) =
      digest := by rw [String.toList_ofList, h, Option.getD_some]
  exact congrArg (fun text : String => String.ofList (text.toList.take 16)) hDigest

theorem accepted_of_digest {digests : List (Text × String)} {payload : Text}
    {token token' : String}
    (hDigest : ((digests.lookup payload).any fun digest => digest != ""))
    (hToken : token = @planToken (hostWith digests) payload)
    (hToken' : token' = @planToken (hostWith digests) payload) :
    validateClusterMdPlanToken (some token) token' = .ok () := by
  obtain ⟨digest, hFound, hSet⟩ := (Option.any_eq_true _ _).mp hDigest
  have hSet : digest ≠ "" := bne_iff_ne.mp hSet
  apply throwIf_eq_ok.mpr
  rw [hToken, hToken', planToken_hostWith hFound]
  simpa [isSet] using hSet

def stoppedTwinCluster : Cluster where
  nodes := ["a", "b"].map fun sanId =>
    { sanId, label := sanId, tools := some { mdadm := true }
      blockDevices := ["sda1", "sdc1"].map fun name =>
        { name, path := "/dev/" ++ name, type := .part, serial := some name }
      stoppedMdArrays := [{ name := "md0", raidDevices := 1, members := [⟨"/dev/sda1", true⟩] }] }
  unique := by decide

def assembleTwin (members : List String) (diskMappings : List ClusterDiskMappingInput) :
    AssembleMdArrayRequest where
  name := "md0"
  members
  clusterExecution := { primarySanId := "a", diskMappings }

def addTwin (diskMappings : List ClusterDiskMappingInput) : AddMdMemberRequest where
  device := "/dev/sdc1"
  intent := .spare
  clusterExecution := { primarySanId := "a", diskMappings }

def stopTwinPayload : Text :=
  clusterMdTokenPayload .stopMd "md0" .stopActiveOnly "a" [("a", .active), ("b", .missing)]

def assembleTwinPayload : Text :=
  clusterMdTokenPayload .assembleMd "md0" .assembleStoppedNodes "a"
    [("a", .stopped), ("b", .stopped)]

def addTwinPayload : Text := addMdMemberTokenPayload "md0" .spare "a" "/dev/sdc1" ["a", "b"]

abbrev twinHost : Host :=
  hostWith
    [(stopTwinPayload, "25872df515d3134df26d76e578002142daf60ca5c37a08e1d501d66f82d9e997"),
      (assembleTwinPayload, "668859421615405371f0e5722cbb7f492428cd526cedcde4fb4366b0507d7900"),
      (addTwinPayload, "f6c5293bce840a266c7e77d5ee8e676038d124b478534f0ebe82fcfe015f291d")]

theorem same_token_same_runs_iff_twin :
    (∃ plan plan', @buildStopMdClusterExecutionPlan twinHost oneActiveCluster
        { primarySanId := "a", arrayName := "md0" } = .ok plan ∧
      @buildStopMdClusterExecutionPlan twinHost oneActiveCluster
        { primarySanId := "a", arrayName := " md0" } = .ok plan' ∧
      SameRuns (plannedRuns plan.nodeResults) (plannedRuns plan'.nodeResults)) ∧
    (∃ plan plan', @buildAssembleMdClusterExecutionPlan twinHost stoppedTwinCluster
        (assembleTwin [] []) none = .ok plan ∧
      @buildAssembleMdClusterExecutionPlan twinHost stoppedTwinCluster
        (assembleTwin ["/dev/sda1"] []) none = .ok plan' ∧
      SameRuns (plannedRuns plan.nodeResults) (plannedRuns plan'.nodeResults)) ∧
    ∃ plan plan', @buildAddMdMemberExecutionPlanForCluster twinHost twinCluster "md0"
        (addTwin []) = .ok plan ∧
      @buildAddMdMemberExecutionPlanForCluster twinHost twinCluster "md0"
        (addTwin [⟨"/dev/sdc1", "b", "/dev/sdc1", none, none⟩]) = .ok plan' ∧
      SameRuns (plan.nodeResults.map (·.run)) (plan'.nodeResults.map (·.run)) := by
  simp only [exists_and_left]
  refine ⟨?_, ?_, ?_⟩
  · refine exists_ok_of_map (f := recoveryTokenPayload .stopMd (trimString "md0") "a")
      (c := stopTwinPayload) (by decide +kernel) fun plan hPlan hPayload =>
        exists_ok_of_map (f := recoveryTokenPayload .stopMd (trimString " md0") "a")
          (c := stopTwinPayload) (by decide +kernel) fun plan' hPlan' hPayload' => ?_
    have hAccepted := accepted_of_digest (by decide +kernel)
      ((@token_of_stop twinHost _ _ _ hPlan).1.trans (congrArg _ hPayload))
      ((@token_of_stop twinHost _ _ _ hPlan').1.trans (congrArg _ hPayload'))
    refine ((@same_token_same_runs_iff twinHost _ _).1 _ _ _ _ hPlan hPlan' hAccepted
      fun _ => hPayload.trans hPayload'.symm).mpr ?_
    decide +kernel
  · refine exists_ok_of_map (f := recoveryTokenPayload .assembleMd "md0" "a")
      (c := assembleTwinPayload) (by decide +kernel) fun plan hPlan hPayload =>
        exists_ok_of_map (f := recoveryTokenPayload .assembleMd "md0" "a")
          (c := assembleTwinPayload) (by decide +kernel) fun plan' hPlan' hPayload' => ?_
    have hAccepted := accepted_of_digest (by decide +kernel)
      ((@token_of_assemble twinHost _ _ _ _ hPlan).1.trans (congrArg _ hPayload))
      ((@token_of_assemble twinHost _ _ _ _ hPlan').1.trans (congrArg _ hPayload'))
    refine ((@same_token_same_runs_iff twinHost _ _).2.1 _ _ _ _ _ _ _ List.mem_cons_self rfl _
      List.mem_cons_self rfl hPlan hPlan' hAccepted fun _ => hPayload.trans hPayload'.symm).mpr ?_
    decide +kernel
  · refine exists_ok_of_map
      (f := @addMemberTokenPayload twinHost (trimString "md0") (addTwin []))
      (c := addTwinPayload) (by decide +kernel) fun plan hPlan hPayload =>
        exists_ok_of_map
          (f := @addMemberTokenPayload twinHost (trimString "md0")
            (addTwin [⟨"/dev/sdc1", "b", "/dev/sdc1", none, none⟩]))
          (c := addTwinPayload) (by decide +kernel) fun plan' hPlan' hPayload' => ?_
    have hAccepted := accepted_of_digest (by decide +kernel)
      ((@addMember_runsOf twinHost _ _ _ _ _ List.mem_cons_self rfl hPlan).2.2.trans
        (congrArg _ hPayload))
      ((@addMember_runsOf twinHost _ _ _ _ _ List.mem_cons_self rfl hPlan').2.2.trans
        (congrArg _ hPayload'))
    refine ((@same_token_same_runs_iff twinHost _ _).2.2 _ _ _ _ _ _ _ List.mem_cons_self rfl _
      List.mem_cons_self rfl hPlan hPlan' hAccepted fun _ => hPayload.trans hPayload'.symm).mpr ?_
    decide +kernel

/-- Another mapping of a selected member makes the second node assemble another partition, with
the token of the first plan. -/
theorem remapped_same_token :
    ∃ plan plan', @buildAssembleMdClusterExecutionPlan twinHost stoppedTwinCluster
        (assembleTwin ["/dev/sda1"] []) none = .ok plan ∧
      @buildAssembleMdClusterExecutionPlan twinHost stoppedTwinCluster
        (assembleTwin ["/dev/sda1"] [⟨"/dev/sda1", "b", "/dev/sdc1", none, none⟩]) none =
          .ok plan' ∧
      validateClusterMdPlanToken (some plan.planToken) plan'.planToken = .ok () ∧
      recoveryTokenPayload .assembleMd "md0" "a" plan =
        recoveryTokenPayload .assembleMd "md0" "a" plan' ∧
      ¬ SameRuns (plannedRuns plan.nodeResults) (plannedRuns plan'.nodeResults) := by
  simp only [exists_and_left]
  refine exists_ok_of_map
    (f := fun plan => (recoveryTokenPayload .assembleMd "md0" "a" plan, plannedRuns plan.nodeResults))
    (c := (assembleTwinPayload,
      [⟨"a", some "mdadm --assemble /dev/md0 /dev/sda1", some "/dev/md0", ["/dev/sda1"]⟩,
        ⟨"b", some "mdadm --assemble /dev/md0 /dev/sda1", some "/dev/md0", ["/dev/sda1"]⟩]))
    (by decide +kernel) fun plan hPlan hFound => exists_ok_of_map
    (f := fun plan => (recoveryTokenPayload .assembleMd "md0" "a" plan, plannedRuns plan.nodeResults))
    (c := (assembleTwinPayload,
      [⟨"a", some "mdadm --assemble /dev/md0 /dev/sda1", some "/dev/md0", ["/dev/sda1"]⟩,
        ⟨"b", some "mdadm --assemble /dev/md0 /dev/sdc1", some "/dev/md0", ["/dev/sdc1"]⟩]))
    (by decide +kernel) fun plan' hPlan' hFound' => ?_
  obtain ⟨hPayload, hRuns⟩ := Prod.mk.inj hFound
  obtain ⟨hPayload', hRuns'⟩ := Prod.mk.inj hFound'
  refine ⟨?_, hPayload.trans hPayload'.symm, ?_⟩
  · exact accepted_of_digest (by decide +kernel)
      ((@token_of_assemble twinHost _ _ _ _ hPlan).1.trans (congrArg _ hPayload))
      ((@token_of_assemble twinHost _ _ _ _ hPlan').1.trans (congrArg _ hPayload'))
  · rw [hRuns, hRuns']
    intro hEqual
    have hOther := (hEqual _).mp (List.mem_cons_of_mem _ List.mem_cons_self)
    exact absurd hOther (by decide)

end EsosWebui.Raid
