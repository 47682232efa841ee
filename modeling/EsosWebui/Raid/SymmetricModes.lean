import EsosWebui.Raid.AssemblePlan
import EsosWebui.Raid.StopPlan

/-! Modes that count as symmetric, and whether all nodes take part in them. -/
namespace EsosWebui.Raid

open Js

theorem ready_of_state {node : ClusterStorageNodeInventory} {arrayName : String}
    {uuid : Option String}
    (hReachable : (classifyMdArrayNodeState node arrayName uuid).state ≠ .unreachable)
    (hError : (classifyMdArrayNodeState node arrayName uuid).state ≠ .error) :
    node.ready := by
  cases hReady : node.ready with
  | true => rfl
  | false =>
    have hState := classifyMdArrayNodeState_of_not_ready (not_ready_iff.mpr hReady) arrayName uuid
    exact absurd hState (not_or_intro hReachable hError)

theorem ready_of_assemblable {node : ClusterStorageNodeInventory} {req : AssembleMdArrayRequest}
    (h : (req.report node).assemblable) : node.ready := by
  simp only [MdArrayNodeStateReport.assemblable, Bool.and_eq_true, Bool.or_eq_true,
    beq_iff_eq] at h
  apply @ready_of_state node req.name req.uuid
  · intro hState
    change (req.report node).state = _ at hState
    simp [hState] at h
  · intro hState
    change (req.report node).state = _ at hState
    simp [hState] at h

theorem activeClean_of_stopAllActive {nodeReports : List MdArrayNodeStateReport}
    {uuidBlocksSymmetric structurallySymmetric : Bool}
    (h : ClusterMdRecoveryMode.stopAllActive ∈
      allowedStopModes nodeReports uuidBlocksSymmetric structurallySymmetric) :
    ∀ report ∈ nodeReports, report.activeClean = true := by
  unfold allowedStopModes at h
  rcases List.mem_append.mp h with h | h
  · split_ifs at h with hConflict hAll hStructure
    · simp at h
    · simp only [Bool.and_eq_true, beq_iff_eq] at hAll
      exact List.length_filter_eq_length_iff.mp hAll.1.2
    · simp at h
    · cases h
  · split_ifs at h <;> simp at h

section

variable [CaseMapping] {cluster : Cluster} {r : ClusterStoragePreflightResult}
  {assessment : ClusterMdRecoveryAssessment} {mode : ClusterMdRecoveryMode}
  {results : List ClusterMdNodeResult}

theorem allNodesExecute_stop {req : StopMdPlanRequest} {name : String}
    (hName : normalizeMdArrayName req.arrayName = .ok name)
    (hPreflight : runClusterStoragePreflight cluster (req.preflight name) = .ok r)
    (hAssessment : r.recoveryAssessment = some assessment)
    (hMode : mode ∈ assessment.allowedRecoveryModes) (hSymmetric : isSymmetricRecoveryMode mode)
    (hResults : buildStopNodeResultsFromAssessment r req.primarySanId name mode
      assessment.nodeReports = .ok results) :
    AllNodesExecute cluster results := by
  obtain rfl := normalizeMdArrayName_eq_ok hName
  obtain ⟨run, rfl⟩ := exists_preflightRun hPreflight
  have hSame : assessment = buildStopRecoveryAssessment (cluster.nodes.map req.report)
      (trimString req.arrayName) cluster.nodes none :=
    stopAssessment_eq run hAssessment
  subst hSame
  have hStopAll : mode = .stopAllActive := by
    have hStops := stopsActive_of_allowed hMode
    cases mode <;> simp_all [stopsActive, isSymmetricRecoveryMode]
  subst hStopAll
  have hActive : ∀ node ∈ cluster.nodes, (req.report node).state = .active := fun node hNode =>
    active_of_stopAllActive hMode _ (List.mem_map_of_mem hNode)
  have hClean : ∀ node ∈ cluster.nodes, (req.report node).nodeBlockers = [] := by
    intro node hNode
    have hBoth := activeClean_of_stopAllActive hMode _ (List.mem_map_of_mem hNode)
    simpa [MdArrayNodeStateReport.activeClean, hActive node hNode] using hBoth
  have hOk := Except.ok.inj ((buildStopNodeResults_ok run _ _).symm.trans hResults)
  refine ⟨fun node hNode => ?_, ?_, ?_⟩
  · have hState : (classifyMdArrayNodeState node req.arrayName none).state = .active :=
      hActive node hNode
    apply ready_of_state
    · rw [hState]
      decide
    · rw [hState]
      decide
  · have hIds : results.map (·.sanId) =
        (orderNodes cluster.nodes req.primarySanId).map (·.sanId) := by
      rw [← hOk, List.map_map]
      exact List.map_congr_left fun node _ => sanId_stopNodeResult
    exact hIds ▸ (orderNodes_perm _ _).map _
  · intro result hResult
    rw [← hOk] at hResult
    obtain ⟨node, hNode, rfl⟩ := List.mem_map.mp hResult
    have hMem := (orderNodes_perm _ _).subset hNode
    exact (stopNodeResult_execute_iff rfl fun _ => hClean node hMem).mpr (hActive node hMem)

theorem allNodesExecute_assemble_iff {req : AssembleMdArrayRequest}
    {source : ClusterStorageNodeInventory} (hSource : source ∈ cluster.nodes)
    (hPrimary : source.sanId = req.primarySanId)
    (hPreflight : runClusterStoragePreflight cluster req.preflight = .ok r)
    (hAssessment : r.recoveryAssessment = some assessment)
    (hMode : mode ∈ assessment.allowedRecoveryModes)
    (hResults : buildAssembleNodeResultsFromAssessment r req.primarySanId req.effectiveName mode
      assessment.nodeReports req.members = .ok results) :
    AllNodesExecute cluster results ↔ ∀ node ∈ cluster.nodes,
      (req.report node).assemblable = true ∧ complete (req.membersOn source node) = true := by
  obtain ⟨run, rfl⟩ := exists_preflightRun hPreflight
  obtain rfl := run.source_eq hSource hPrimary
  have hAssessed : assessment = buildAssembleRecoveryAssessment (cluster.nodes.map req.report)
      req.name := (Option.some.inj hAssessment).symm
  subst hAssessed
  have hNodes := assembledOn_of_buildAssembleNodeResults
    (assemble_mode_of_allowed (mem_unique.mp hMode)) hResults
  have hPerm := orderNodes_perm cluster.nodes req.primarySanId
  constructor
  · intro hAll node hNode
    obtain ⟨result, hResult, hOn⟩ := exists_of_forall₂_left hNodes (hPerm.symm.subset hNode)
    exact hOn.execute_iff.mp (hAll.execute result hResult)
  · intro hAll
    refine ⟨fun node hNode => ready_of_assemblable (hAll node hNode).1, ?_, ?_⟩
    · exact (map_eq_of_forall₂ hNodes fun _ _ hOn => hOn.sanId) ▸ hPerm.map _
    · intro result hResult
      obtain ⟨node, hNode, hOn⟩ := exists_of_forall₂_right hNodes hResult
      exact hOn.execute_iff.mpr (hAll node (hPerm.subset hNode))

/-- A symmetric mode means all nodes: always when an array is stopped, but when it is assembled
only if it is stopped and its members are known everywhere. -/
theorem symmetric_mode_all_nodes_iff (cluster : Cluster) :
    (∀ req name r assessment mode results, normalizeMdArrayName req.arrayName = .ok name →
      runClusterStoragePreflight cluster (StopMdPlanRequest.preflight req name) = .ok r →
      r.recoveryAssessment = some assessment →
      mode ∈ assessment.allowedRecoveryModes → isSymmetricRecoveryMode mode = true →
      buildStopNodeResultsFromAssessment r req.primarySanId name mode assessment.nodeReports =
        .ok results →
      AllNodesExecute cluster results) ∧
    ∀ req source r assessment mode results, source ∈ cluster.nodes →
      source.sanId = req.primarySanId →
      runClusterStoragePreflight cluster (AssembleMdArrayRequest.preflight req) = .ok r →
      r.recoveryAssessment = some assessment →
      mode ∈ assessment.allowedRecoveryModes → isSymmetricRecoveryMode mode = true →
      buildAssembleNodeResultsFromAssessment r req.primarySanId req.effectiveName mode
        assessment.nodeReports req.members = .ok results →
      (AllNodesExecute cluster results ↔ ∀ node ∈ cluster.nodes,
        (req.report node).assemblable = true ∧ complete (req.membersOn source node) = true) :=
  ⟨fun _ _ _ _ _ _ hName hPreflight hAssessment hMode hSymmetric hResults =>
    allNodesExecute_stop hName hPreflight hAssessment hMode hSymmetric hResults,
  fun _ _ _ _ _ _ hSource hPrimary hPreflight hAssessment hMode _ hResults =>
    allNodesExecute_assemble_iff hSource hPrimary hPreflight hAssessment hMode hResults⟩

end

def twoArraysCluster : Cluster where
  nodes := ["a", "b"].map fun sanId =>
    { sanId, label := sanId, tools := some { mdadm := true }
      mdArrays := [{ name := "md0", path := "/dev/md0", members := [⟨some "/dev/sda1", []⟩] }]
      stoppedMdArrays := [{ name := "md1", raidDevices := 1, members := [⟨"/dev/sdb1", true⟩] }] }
  unique := by decide

theorem symmetric_mode_all_nodes_iff_twoArrays :
    (∃ plan, @buildStopMdClusterExecutionPlan anyHost twoArraysCluster
        { primarySanId := "a", arrayName := "md0" } = .ok plan ∧
      AllNodesExecute twoArraysCluster plan.nodeResults) ∧
    ∃ plan, @buildAssembleMdClusterExecutionPlan anyHost twoArraysCluster
        { name := "md1", clusterExecution := { primarySanId := "a" } } none = .ok plan ∧
      AllNodesExecute twoArraysCluster plan.nodeResults := by
  obtain ⟨hStop, hAssemble⟩ := @symmetric_mode_all_nodes_iff anyHost.toCaseMapping twoArraysCluster
  constructor
  · refine exists_ok_of_map (f := fun plan => isSymmetricRecoveryMode plan.recoveryMode)
      (c := true) (by decide +kernel) fun plan hPlan hSymmetric => ?_
    obtain ⟨name, hName, hPreflight, hAssessment, hMode, hResults, -⟩ :=
      @parts_of_buildStopMdClusterExecutionPlan anyHost _ _ _ hPlan
    have hSome := recoveryAssessment_of_requireRecovery hAssessment
    exact hStop _ _ _ _ _ _ hName hPreflight hSome hMode hSymmetric hResults
  · refine exists_ok_of_map (f := fun plan => isSymmetricRecoveryMode plan.recoveryMode)
      (c := true) (by decide +kernel) fun plan hPlan hSymmetric => ?_
    obtain ⟨hPreflight, hAssessment, hMode, hResults, -⟩ :=
      @parts_of_buildAssembleMdClusterExecutionPlan anyHost _ _ _ _ hPlan
    have hSome := recoveryAssessment_of_requireRecovery hAssessment
    refine (hAssemble _ _ _ _ _ _ List.mem_cons_self rfl hPreflight hSome hMode hSymmetric
      hResults).mpr ?_
    decide +kernel

def oneStoppedCluster : Cluster where
  nodes :=
    [{ sanId := "a", label := "A", tools := some { mdadm := true }
       stoppedMdArrays := [{ name := "md0", raidDevices := 1, members := [⟨"/dev/sda1", true⟩] }] },
      { sanId := "b", label := "B", sshReady := false }]
  unique := by decide

def oneStoppedRequest : AssembleMdArrayRequest where
  name := "md0"
  clusterExecution := { primarySanId := "a", recoveryMode := some .assembleStoppedNodes }

/-- The mode counts as symmetric although the second node is left out. -/
theorem oneStopped_symmetric_skips_node :
    ∃ plan, @buildAssembleMdClusterExecutionPlan anyHost oneStoppedCluster oneStoppedRequest
        none = .ok plan ∧
      isSymmetricRecoveryMode plan.recoveryMode = true ∧
      (∃ node ∈ oneStoppedCluster.nodes, node.sshReady = false) ∧
      ∃ result ∈ plan.nodeResults, result.participation = .skip := by
  refine exists_ok_of_map
    (f := fun plan => (plan.recoveryMode, plan.nodeResults.map (·.participation)))
    (c := (.assembleStoppedNodes, [.execute, .skip])) (by decide +kernel) fun plan _ hFound => ?_
  obtain ⟨hMode, hResults⟩ := Prod.mk.inj hFound
  refine ⟨by rw [hMode]; rfl, by decide, ?_⟩
  have hSkip : Participation.skip ∈ plan.nodeResults.map (·.participation) := by simp [hResults]
  exact List.mem_map.mp hSkip

end EsosWebui.Raid
