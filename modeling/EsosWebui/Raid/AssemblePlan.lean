import EsosWebui.Raid.Plans
import EsosWebui.Raid.Targets

/-! Plans for assembling an array: which nodes they assemble it on, from what. -/
namespace EsosWebui.Raid

open Js

def AssembleMdArrayRequest.report (req : AssembleMdArrayRequest)
    (node : ClusterStorageNodeInventory) : MdArrayNodeStateReport :=
  classifyMdArrayNodeState node req.name req.uuid

def AssembleMdArrayRequest.primarySanId (req : AssembleMdArrayRequest) : String :=
  req.clusterExecution.primarySanId

def AssembleMdArrayRequest.found (req : AssembleMdArrayRequest)
    (source : ClusterStorageNodeInventory) : List String :=
  if source.ready then
    ((findStoppedMdArray source.stoppedMdArrays req.name req.uuid).map (·.presentPaths)).getD []
  else []

section

variable [CaseMapping]

/-- What the selected members are on a node. Without a selection the source node takes
what it found, and the others have nothing to go by. -/
def AssembleMdArrayRequest.selection (req : AssembleMdArrayRequest)
    (source node : ClusterStorageNodeInventory) : List String :=
  if node.sanId = req.primarySanId then
    if req.members ≠ [] then req.members else req.found source
  else req.members.map fun sourcePath => (targetOnPeer req.preflight source node sourcePath).getD ""

def AssembleMdArrayRequest.membersOn (req : AssembleMdArrayRequest)
    (source node : ClusterStorageNodeInventory) : List String :=
  if complete (req.selection source node) then req.selection source node
  else (req.report node).members

end

theorem complete_iff {members : List String} :
    complete members = true ↔ members ≠ [] ∧ ∀ m ∈ members, m ≠ "" := by
  simp [complete]

theorem assemble_mode_of_allowed {nodeReports : List MdArrayNodeStateReport}
    {mode : ClusterMdRecoveryMode} (h : mode ∈ allowedAssembleModes nodeReports) :
    mode = .assembleStoppedNodes ∨ mode = .assembleMissingOnly := by
  unfold allowedAssembleModes at h
  rcases List.mem_append.mp h with h | h
  · split_ifs at h <;> simp_all
  · split_ifs at h <;> simp_all [or_comm]

private theorem scanned_or {mapped selection scanned : List String}
    (hComplete : complete mapped = complete selection)
    (hSame : complete selection = true → mapped = selection) :
    complete (if !complete mapped && scanned ≠ [] then scanned else mapped) =
        complete (if complete selection then selection else scanned) ∧
      (complete (if complete selection then selection else scanned) = true →
        (if !complete mapped && scanned ≠ [] then scanned else mapped) =
          if complete selection then selection else scanned) := by
  cases hSelection : complete selection with
  | true => simp [hSelection, hSame hSelection]
  | false =>
    rw [hSelection] at hComplete
    have hNil : complete [] = false := rfl
    by_cases hScanned : scanned = []
    · simp [hComplete, hScanned, hNil]
    · simp [hComplete, hScanned]

section

variable {mappings : List ClusterDiskMapping} {primarySanId effectiveName : String}
  {mode : ClusterMdRecoveryMode} {sources : List String} {node : ClusterStorageNodeInventory}
  {report : MdArrayNodeStateReport} {result : ClusterMdNodeResult}

theorem sanId_assembleNodeResult
    (h : assembleNodeResult mappings primarySanId effectiveName mode sources node report =
      .ok result) : result.sanId = node.sanId := by
  unfold assembleNodeResult at h
  dsimp only at h
  split at h
  · cases h
    rfl
  · split at h
    · cases h
      rfl
    · split at h
      · cases h
        rfl
      · obtain ⟨command, -, rfl⟩ := map_eq_ok.mp h
        rfl

theorem assembleNodeResult_execute_iff
    (hMode : mode = .assembleStoppedNodes ∨ mode = .assembleMissingOnly)
    (h : assembleNodeResult mappings primarySanId effectiveName mode sources node report =
      .ok result) :
    result.participation = .execute ↔
      report.assemblable = true ∧
        complete (assemblyMembers mappings primarySanId sources node report) = true := by
  have hModes : (mode == .assembleStoppedNodes || mode == .assembleMissingOnly) = true := by
    rcases hMode with rfl | rfl <;> rfl
  unfold assembleNodeResult at h
  dsimp only at h
  simp only [hModes, Bool.and_true] at h
  unfold MdArrayNodeStateReport.assemblable
  split at h
  · rename_i hBlocked
    cases h
    simp only [Bool.and_eq_true, decide_eq_true_eq] at hBlocked
    simp [Nat.ne_of_gt hBlocked.1]
  · rename_i hBlocked
    split at h
    · rename_i hState
      cases h
      rw [Bool.not_eq_true'] at hState
      simp [hState]
    · rename_i hState
      rw [Bool.not_eq_true', Bool.not_eq_false] at hState
      have hFree : report.nodeBlockers = [] := by simpa [hState] using hBlocked
      split at h
      · rename_i hMissing
        cases h
        rw [Bool.not_eq_true'] at hMissing
        simp [hMissing]
      · rename_i hFound
        rw [Bool.not_eq_true', Bool.not_eq_false] at hFound
        obtain ⟨command, -, rfl⟩ := map_eq_ok.mp h
        simp [hState, hFree, hFound]

theorem assembleNodeResult_of_execute
    (h : assembleNodeResult mappings primarySanId effectiveName mode sources node report =
      .ok result) (hExecute : result.participation = .execute) :
    result.members = assemblyMembers mappings primarySanId sources node report ∧
      result.arrayPath = some s!"/dev/{effectiveName}" ∧
      ∃ command, buildMdAssembleCommand effectiveName result.members = .ok command ∧
        result.command = some command := by
  unfold assembleNodeResult at h
  dsimp only at h
  split at h
  · cases h
    cases hExecute
  · split at h
    · cases h
      cases hExecute
    · split at h
      · cases h
        cases hExecute
      · obtain ⟨command, hCommand, rfl⟩ := map_eq_ok.mp h
        exact ⟨rfl, rfl, command, hCommand, rfl⟩

end

section

variable [CaseMapping] {cluster : Cluster} {req : AssembleMdArrayRequest}

theorem lookup_source (run : PreflightRun cluster req.preflight) :
    ((run.result.perNodePreflights.lookup req.primarySanId).map (·.impactedDevices)).getD [] =
      req.found run.source := by
  have hPreflights : run.result.perNodePreflights = run.checks.flatMap (·.preflights) := rfl
  unfold AssembleMdArrayRequest.found
  rw [hPreflights]
  rcases run.checked with ⟨hReady, -, hChecks⟩ | ⟨hReady, -, hChecks⟩
  · rw [hChecks, hReady]
    rfl
  · obtain ⟨sourceCheck, hSource, hRest⟩ := bind_eq_ok.mp hChecks
    obtain ⟨peerChecks, -, hAll⟩ := bind_eq_ok.mp hRest
    obtain ⟨preflight, hPreflight, rfl⟩ := map_eq_ok.mp hSource
    obtain ⟨validation, hValidation, hRest⟩ := bind_eq_ok.mp hPreflight
    obtain ⟨confirmation, -, hResult⟩ := bind_eq_ok.mp hRest
    have hAssemblyPreflight : assembleMdPreflight req.preflight.payload run.source.blockDevices
        run.source.mdArrays run.source.stoppedMdArrays = .ok validation := hValidation
    rw [← pure_eq_ok.mp hAll, List.flatMap_cons, hReady, if_pos rfl]
    have hId : req.primarySanId = run.source.sanId := run.sanId.symm
    rw [nodeCheck, List.singleton_append, List.lookup_cons, hId, beq_self_eq_true]
    rw [← pure_eq_ok.mp hResult]
    exact impactedDevices_assembleMdPreflight hAssemblyPreflight

variable {run : PreflightRun cluster req.preflight} {node : ClusterStorageNodeInventory}

/-- Members that are looked up through the mappings are those the request stands for. -/
theorem assemblyMembers_result (hNode : node ∈ cluster.nodes) :
    (complete (assemblyMembers run.result.mappings req.primarySanId
        (assembleSources run.result req.primarySanId req.members) node (req.report node)) =
      complete (req.membersOn run.source node)) ∧
    (complete (req.membersOn run.source node) = true →
      assemblyMembers run.result.mappings req.primarySanId
        (assembleSources run.result req.primarySanId req.members) node (req.report node) =
      req.membersOn run.source node) := by
  have hMapped : ∀ sourcePath, node.sanId ≠ req.primarySanId →
      mappedTarget run.result.mappings sourcePath node.sanId =
        targetOnPeer req.preflight run.source node sourcePath := fun sourcePath hOther =>
    run.mappedTarget_result hNode hOther sourcePath
  unfold assemblyMembers AssembleMdArrayRequest.membersOn AssembleMdArrayRequest.selection
    assembleSources
  rw [lookup_source run]
  by_cases hPrimary : node.sanId = req.primarySanId
  · simp only [hPrimary, if_true]
    exact scanned_or rfl fun _ => rfl
  · simp only [hPrimary, if_false, hMapped _ hPrimary]
    by_cases hMembers : req.members = []
    · -- Nothing is selected, so nothing is mapped to a peer.
      have hUnmapped : ∀ sourcePath, targetOnPeer req.preflight run.source node sourcePath = none := by
        intro sourcePath
        have hSelected : req.preflight.selectedPaths = [] := hMembers
        simp [targetOnPeer, hSelected]
      have hNone : ∀ found : List String, complete (found.map fun _ => "") = false := by
        intro found
        cases found <;> simp [complete]
      simp only [hMembers, hUnmapped, ne_eq, not_true_eq_false, if_false, Option.getD_none,
        List.map_nil]
      exact scanned_or (hNone _) (by simp [complete])
    · simp only [ne_eq, hMembers, not_false_eq_true, if_true]
      exact scanned_or rfl fun _ => rfl

structure AssembledOn (req : AssembleMdArrayRequest) (source node : ClusterStorageNodeInventory)
    (result : ClusterMdNodeResult) : Prop where
  sanId : result.sanId = node.sanId
  execute_iff : result.participation = .execute ↔
    (req.report node).assemblable = true ∧ complete (req.membersOn source node) = true
  members : result.participation = .execute → result.members = req.membersOn source node
  arrayPath : result.participation = .execute →
    result.arrayPath = some s!"/dev/{req.effectiveName}"
  command : result.participation = .execute → ∃ command,
    buildMdAssembleCommand req.effectiveName (req.membersOn source node) = .ok command ∧
      result.command = some command

theorem assembledOn_of_assembleNodeResult {mode : ClusterMdRecoveryMode}
    {result : ClusterMdNodeResult} (hNode : node ∈ cluster.nodes)
    (hMode : mode = .assembleStoppedNodes ∨ mode = .assembleMissingOnly)
    (h : assembleNodeResult run.result.mappings req.primarySanId req.effectiveName mode
      (assembleSources run.result req.primarySanId req.members) node (req.report node) =
        .ok result) :
    AssembledOn req run.source node result := by
  obtain ⟨hComplete, hMembers⟩ := @assemblyMembers_result _ cluster req run node hNode
  have hExecute := assembleNodeResult_execute_iff hMode h
  rw [hComplete] at hExecute
  have hRun : result.participation = .execute →
      result.members = req.membersOn run.source node := fun hExecutes =>
    (assembleNodeResult_of_execute h hExecutes).1.trans (hMembers (hExecute.mp hExecutes).2)
  refine ⟨sanId_assembleNodeResult h, hExecute, hRun, ?_, ?_⟩
  · intro hExecutes
    exact (assembleNodeResult_of_execute h hExecutes).2.1
  · intro hExecutes
    obtain ⟨command, hCommand, hSome⟩ := (assembleNodeResult_of_execute h hExecutes).2.2
    exact ⟨command, hRun hExecutes ▸ hCommand, hSome⟩

theorem assembledOn_of_buildAssembleNodeResults {mode : ClusterMdRecoveryMode}
    {results : List ClusterMdNodeResult}
    (hMode : mode = .assembleStoppedNodes ∨ mode = .assembleMissingOnly)
    (h : buildAssembleNodeResultsFromAssessment run.result req.primarySanId req.effectiveName mode
      (cluster.nodes.map req.report) req.members = .ok results) :
    List.Forall₂ (AssembledOn req run.source) (orderNodes cluster.nodes req.primarySanId)
      results := by
  obtain ⟨reported, hReported, hResults⟩ := bind_eq_ok.mp h
  have hClassified : withReports (orderNodes cluster.nodes req.primarySanId)
      (cluster.nodes.map req.report) =
        .ok ((orderNodes cluster.nodes req.primarySanId).map fun node => (node, req.report node)) :=
    withReports_classified cluster.unique (orderNodes_perm _ _).subset req.name req.uuid
  cases hClassified.symm.trans hReported
  have hAll := List.forall₂_map_left_iff.mp (mapM_eq_ok.mp hResults)
  have hMem : ∀ node ∈ orderNodes cluster.nodes req.primarySanId, node ∈ cluster.nodes :=
    fun node hNode => (orderNodes_perm _ _).subset hNode
  apply List.Forall₂.imp _ ((List.forall₂_and_left _ _).mpr ⟨hMem, hAll⟩)
  rintro node result ⟨hNode, hResult⟩
  exact assembledOn_of_assembleNodeResult hNode hMode hResult

end

theorem buildAssembleMdClusterExecutionPlan_eq_ok [Host] {cluster : Cluster}
    {req : AssembleMdArrayRequest} {recoveryModeInput : Option ClusterMdRecoveryMode}
    {plan : ClusterMdPlan ClusterMdRecoveryMode}
    (h : buildAssembleMdClusterExecutionPlan cluster req recoveryModeInput = .ok plan) :
    ∃ run : PreflightRun cluster req.preflight,
      plan.preflight = run.result ∧
      assembleHardBlockers (cluster.nodes.map req.report) req.name = [] ∧
      plan.recoveryMode ∈ allowedAssembleModes (cluster.nodes.map req.report) ∧
      List.Forall₂ (AssembledOn req run.source) (orderNodes cluster.nodes req.primarySanId)
        plan.nodeResults ∧
      nodesToExecute plan.nodeResults ≠ [] ∧
      plan.planToken = computeClusterMdPlanToken .assembleMd req.name plan.recoveryMode
        req.primarySanId (cluster.nodes.map req.report) := by
  obtain ⟨hPreflight, hAssessment, hMode, hResults, hExecute, hToken⟩ :=
    parts_of_buildAssembleMdClusterExecutionPlan h
  obtain ⟨run, hRun⟩ := exists_preflightRun hPreflight
  rw [hRun] at hAssessment hResults
  obtain ⟨hSome, hHard⟩ := requireRecovery_eq_ok hAssessment
  have hSame : plan.recoveryAssessment =
      buildAssembleRecoveryAssessment (cluster.nodes.map req.report) req.name :=
    (Option.some.inj hSome).symm
  rw [hSame] at hHard hMode hResults hToken
  have hAllowed : plan.recoveryMode ∈ allowedAssembleModes (cluster.nodes.map req.report) :=
    mem_unique.mp hMode
  exact ⟨run, hRun, unique_eq_nil_iff.mp hHard, hAllowed,
    assembledOn_of_buildAssembleNodeResults (assemble_mode_of_allowed hAllowed) hResults,
    hExecute, hToken⟩

theorem assemble_executesWhere [CaseMapping] {req : AssembleMdArrayRequest}
    {source : ClusterStorageNodeInventory} {nodes : List ClusterStorageNodeInventory}
    {results : List ClusterMdNodeResult}
    (h : List.Forall₂ (AssembledOn req source) nodes results) :
    ExecutesWhere (fun node => (req.report node).assemblable = true ∧
      complete (req.membersOn source node) = true) nodes results :=
  h.imp fun _ _ hOn => ⟨hOn.sanId, hOn.execute_iff⟩

end EsosWebui.Raid
