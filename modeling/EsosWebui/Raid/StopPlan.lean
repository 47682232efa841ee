import EsosWebui.Raid.Plans

/-! Plans for stopping an array: which nodes they stop it on. -/
namespace EsosWebui.Raid

open Js

def StopMdPlanRequest.report (req : StopMdPlanRequest) (node : ClusterStorageNodeInventory) :
    MdArrayNodeStateReport :=
  classifyMdArrayNodeState node req.arrayName none

theorem normalizeMdArrayName_eq_ok {arrayName name : String}
    (h : normalizeMdArrayName arrayName = .ok name) : name = trimString arrayName := by
  unfold normalizeMdArrayName at h
  dsimp only at h
  split at h
  · exact (Except.ok.inj h).symm
  · cases h

theorem trimString_trimString (s : String) : trimString (trimString s) = trimString s := by
  simp [trimString, trim_trim]

variable {nodeReports : List MdArrayNodeStateReport} {report : MdArrayNodeStateReport}

theorem unblocked_of_stopHardBlockers {arrayName : String}
    (h : stopHardBlockers nodeReports arrayName = []) (hReport : report ∈ nodeReports)
    (hActive : report.state = .active) : report.nodeBlockers = [] := by
  have hLabelled := (List.append_eq_nil_iff.mp h).1
  have hNone := List.flatMap_eq_nil_iff.mp hLabelled report (by simp [hReport, hActive])
  exact List.map_eq_nil_iff.mp hNone

variable {mode : ClusterMdRecoveryMode}

theorem stopsActive_of_allowed {uuidBlocksSymmetric structurallySymmetric : Bool}
    (h : mode ∈ allowedStopModes nodeReports uuidBlocksSymmetric structurallySymmetric) :
    stopsActive mode := by
  unfold allowedStopModes at h
  rcases List.mem_append.mp h with h | h
  · split_ifs at h <;> simp_all [stopsActive]
  · split_ifs at h <;> simp_all [stopsActive]

theorem active_of_stopAllActive {uuidBlocksSymmetric structurallySymmetric : Bool}
    (h : ClusterMdRecoveryMode.stopAllActive ∈ allowedStopModes nodeReports uuidBlocksSymmetric
      structurallySymmetric) :
    ∀ report ∈ nodeReports, report.state = .active := by
  unfold allowedStopModes at h
  rcases List.mem_append.mp h with h | h
  · split_ifs at h with hConflict hAll hStructure
    · simp at h
    · simp only [Bool.and_eq_true, List.all_eq_true, beq_iff_eq] at hAll
      exact hAll.2.2
    · simp at h
    · cases h
  · split_ifs at h <;> simp at h

variable {node : ClusterStorageNodeInventory}

theorem stopNodeResult_execute_iff {primarySanId arrayName : String}
    (hMode : stopsActive mode) (hClean : report.state = .active → report.nodeBlockers = []) :
    (stopNodeResult primarySanId arrayName mode node report).participation = .execute ↔
      report.state = .active := by
  unfold stopNodeResult
  dsimp only
  split
  · rename_i hBlocked
    simp [hClean hBlocked.1] at hBlocked
  · split
    · rename_i hStops
      simpa [hMode] using hStops
    · rename_i hStops
      simpa [hMode] using hStops

theorem sanId_stopNodeResult {primarySanId arrayName : String} :
    (stopNodeResult primarySanId arrayName mode node report).sanId = node.sanId := by
  unfold stopNodeResult
  dsimp only
  split
  · rfl
  · split <;> rfl

section

variable [CaseMapping] {cluster : Cluster} {req : StopMdPlanRequest}

theorem stopAssessment_eq (run : PreflightRun cluster (req.preflight (trimString req.arrayName)))
    {assessment : ClusterMdRecoveryAssessment}
    (h : run.result.recoveryAssessment = some assessment) :
    assessment = buildStopRecoveryAssessment (cluster.nodes.map req.report)
      (trimString req.arrayName) cluster.nodes none := by
  have hReports : classifyClusterMdNodeStates cluster.nodes (trimString req.arrayName) none =
      cluster.nodes.map req.report :=
    List.map_congr_left fun node _ =>
      classifyMdArrayNodeState_congr none (trimString_trimString req.arrayName)
  rw [← hReports]
  exact (Option.some.inj h).symm

theorem buildStopNodeResults_ok {preflightReq : ClusterStoragePreflightRequest}
    (run : PreflightRun cluster preflightReq) (arrayName : String) (mode : ClusterMdRecoveryMode) :
    buildStopNodeResultsFromAssessment run.result req.primarySanId arrayName mode
        (cluster.nodes.map req.report) =
      .ok ((orderNodes cluster.nodes req.primarySanId).map fun node =>
        stopNodeResult req.primarySanId arrayName mode node (req.report node)) := by
  have hReported : withReports (orderNodes cluster.nodes req.primarySanId)
      (cluster.nodes.map req.report) =
        .ok ((orderNodes cluster.nodes req.primarySanId).map fun node => (node, req.report node)) :=
    withReports_classified cluster.unique (orderNodes_perm _ _).subset req.arrayName none
  apply map_eq_ok.mpr
  refine ⟨_, hReported, ?_⟩
  rw [List.map_map]
  rfl

end

section

variable [Host] {cluster : Cluster} {req : StopMdPlanRequest}
  {plan : ClusterMdPlan ClusterMdRecoveryMode}

theorem buildStopMdClusterExecutionPlan_eq_ok
    (h : buildStopMdClusterExecutionPlan cluster req = .ok plan) :
    req.primarySanId ∈ cluster.nodes.map (·.sanId) ∧
      stopHardBlockers (cluster.nodes.map req.report) (trimString req.arrayName) = [] ∧
      (∃ uuidBlocks symmetric, plan.recoveryMode ∈
        allowedStopModes (cluster.nodes.map req.report) uuidBlocks symmetric) ∧
      plan.nodeResults = (orderNodes cluster.nodes req.primarySanId).map (fun node =>
        stopNodeResult req.primarySanId (trimString req.arrayName) plan.recoveryMode node
          (req.report node)) ∧
      nodesToExecute plan.nodeResults ≠ [] := by
  obtain ⟨name, hName, hPreflight, hAssessment, hMode, hResults, hExecute, -⟩ :=
    parts_of_buildStopMdClusterExecutionPlan h
  obtain rfl := normalizeMdArrayName_eq_ok hName
  obtain ⟨run, hRun⟩ := exists_preflightRun hPreflight
  rw [hRun] at hAssessment hResults
  obtain ⟨hSome, hHard⟩ := requireRecovery_eq_ok hAssessment
  rw [stopAssessment_eq run hSome] at hHard hMode hResults
  exact ⟨run.primary_mem, unique_eq_nil_iff.mp hHard, ⟨_, _, hMode⟩,
    (Except.ok.inj ((buildStopNodeResults_ok run _ _).symm.trans hResults)).symm, hExecute⟩

theorem clean_of_plan (h : buildStopMdClusterExecutionPlan cluster req = .ok plan)
    (hNode : node ∈ cluster.nodes) (hActive : (req.report node).state = .active) :
    (req.report node).nodeBlockers = [] :=
  unblocked_of_stopHardBlockers (buildStopMdClusterExecutionPlan_eq_ok h).2.1
    (List.mem_map_of_mem hNode) hActive

theorem stop_executesWhere (h : buildStopMdClusterExecutionPlan cluster req = .ok plan) :
    ExecutesWhere (fun node => (req.report node).state = .active)
      (orderNodes cluster.nodes req.primarySanId) plan.nodeResults := by
  obtain ⟨-, -, ⟨uuidBlocks, symmetric, hMode⟩, hResults, -⟩ :=
    buildStopMdClusterExecutionPlan_eq_ok h
  rw [hResults]
  apply executesWhere_map fun node => sanId_stopNodeResult
  intro node hNode
  exact stopNodeResult_execute_iff (stopsActive_of_allowed hMode)
    (clean_of_plan h ((orderNodes_perm _ _).subset hNode))

/-- A plan stops the array on the nodes it is active on, of which there is at least one;
nothing uses it there, and in the mode that stops all of them these are all nodes. -/
theorem stop_executes_exactly_active (h : buildStopMdClusterExecutionPlan cluster req = .ok plan) :
    (plan.nodeResults.map (·.sanId)).Perm (cluster.nodes.map (·.sanId)) ∧
      (plan.nodeResults.map (·.sanId)).Nodup ∧
      (plan.nodeResults.map (·.sanId)).head? = some req.primarySanId ∧
      (∀ node ∈ cluster.nodes,
        (node.sanId ∈ (nodesToExecute plan.nodeResults).map (·.sanId) ↔
          (req.report node).state = .active) ∧
        ((req.report node).state = .active → (req.report node).nodeBlockers = [])) ∧
      nodesToExecute plan.nodeResults ≠ [] ∧
      (plan.recoveryMode = .stopAllActive →
        ∀ result ∈ plan.nodeResults, result.participation = .execute) := by
  obtain ⟨hPrimary, -, ⟨uuidBlocks, symmetric, hMode⟩, -, hSome⟩ :=
    buildStopMdClusterExecutionPlan_eq_ok h
  have hExecutes := stop_executesWhere h
  refine ⟨hExecutes.perm, hExecutes.perm.nodup_iff.mpr cluster.unique,
    hExecutes.ids ▸ head_orderNodes hPrimary, ?_, hSome, ?_⟩
  · intro node hNode
    exact ⟨hExecutes.executes_iff hNode, clean_of_plan h hNode⟩
  · intro hAll result hResult
    obtain ⟨node, hNode, -, hExecute⟩ := exists_of_forall₂_right hExecutes hResult
    rw [hAll] at hMode
    exact hExecute.mpr (active_of_stopAllActive hMode _
      (List.mem_map_of_mem ((orderNodes_perm _ _).subset hNode)))

end

def oneActiveCluster : Cluster where
  nodes :=
    [{ sanId := "a", label := "A", tools := some { mdadm := true }
       mdArrays := [{ name := "md0", path := "/dev/md0", members := [⟨some "/dev/sda1", []⟩] }] },
      { sanId := "b", label := "B", tools := some { mdadm := true } }]
  unique := by decide

abbrev oneActiveHost : Host :=
  hostWith
    [(clusterMdTokenPayload .stopMd "md0" .stopActiveOnly "a" [("a", .active), ("b", .missing)],
      "25872df515d3134df26d76e578002142daf60ca5c37a08e1d501d66f82d9e997")]

theorem stop_executes_exactly_active_oneActive :
    ∃ plan, @buildStopMdClusterExecutionPlan oneActiveHost oneActiveCluster
        { primarySanId := "a", arrayName := "md0" } = .ok plan ∧
      "a" ∈ (nodesToExecute plan.nodeResults).map (·.sanId) ∧
      "b" ∉ (nodesToExecute plan.nodeResults).map (·.sanId) := by
  refine exists_ok_of_isOk (by decide +kernel) fun plan hPlan => ?_
  have hNodes := (@stop_executes_exactly_active oneActiveHost _ _ _ hPlan).2.2.2.1
  constructor
  · exact (hNodes _ List.mem_cons_self).1.mpr (by decide +kernel)
  · intro hExecuted
    have hActive := (hNodes _ (List.mem_cons_of_mem _ List.mem_cons_self)).1.mp hExecuted
    exact absurd hActive (by decide +kernel)

end EsosWebui.Raid
