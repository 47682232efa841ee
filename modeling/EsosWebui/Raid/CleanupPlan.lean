import EsosWebui.Raid.Plans
import EsosWebui.Raid.Targets

/-! Plans for removing the metadata of an array: which nodes they remove it on. -/
namespace EsosWebui.Raid

open Js

section

variable {node : ClusterStorageNodeInventory} {primarySanId : String} {sourceMembers : List String}
  {mappings : List ClusterDiskMapping} {nodePreflight : Option RaidPreflightResult}
  {commandBuilder : List String → String}

def membersForNode (node : ClusterStorageNodeInventory) (primarySanId : String)
    (sourceMembers : List String) (mappings : List ClusterDiskMapping) : List String :=
  (resolveMembersForNode node primarySanId sourceMembers mappings).1

def ClusterStorageNodeInventory.free (node : ClusterStorageNodeInventory)
    (members : List String) : Prop :=
  ∀ arr ∈ node.mdArrays, ∀ m ∈ arr.members, ∀ path ∈ m.path, path ∉ members

theorem free_iff {members : List String} :
    (node.mdArrays.any fun arr => arr.members.any fun m => m.path.any members.contains) = false ↔
      node.free members := by
  simp only [ClusterStorageNodeInventory.free, List.any_eq_false, Bool.not_eq_true,
    Option.any_eq_false, List.contains_eq_mem, decide_eq_false_iff_not, Option.mem_def]

theorem resolved_iff :
    (resolveMembersForNode node primarySanId sourceMembers mappings).2 = none ↔
      (membersForNode node primarySanId sourceMembers mappings).length = sourceMembers.length := by
  unfold membersForNode resolveMembersForNode
  split
  · simp
  · rw [Option.map_eq_none_iff, List.head?_eq_none_iff, List.filter_eq_nil_iff]
    induction sourceMembers with
    | nil => simp
    | cons first rest ih =>
      have hRest := List.length_filterMap_le
        (fun sourcePath => mappedTarget mappings sourcePath node.sanId) rest
      cases hFirst : mappedTarget mappings first node.sanId with
      | none =>
        simp only [List.mem_cons, forall_eq_or_imp, hFirst, Option.isNone_none, not_true_eq_false,
          false_and, List.filterMap_cons, List.length_cons, false_iff]
        omega
      | some target => simpa [hFirst] using ih

theorem classifyNodePreflight_execute_iff :
    (classifyNodePreflight nodePreflight).1 = .execute ↔
      ∃ preflight, nodePreflight = some preflight ∧ preflight.ok = true := by
  unfold classifyNodePreflight
  cases nodePreflight with
  | none => simp
  | some preflight =>
    cases hOk : preflight.ok with
    | true => simp [hOk]
    | false =>
      dsimp only
      rw [hOk, if_neg Bool.false_ne_true]
      split_ifs <;> simp [hOk]

theorem cleanupNodeResult_execute_iff :
    (cleanupNodeResult node primarySanId sourceMembers mappings nodePreflight
        commandBuilder).participation = .execute ↔
      let members := membersForNode node primarySanId sourceMembers mappings
      node.sshReady = true ∧ members.length = sourceMembers.length ∧ members ≠ [] ∧
        "" ∉ members ∧ node.free members ∧
        ∃ preflight, nodePreflight = some preflight ∧ preflight.ok = true := by
  have hResolved := @resolved_iff node primarySanId sourceMembers mappings
  have hFree := @free_iff node (membersForNode node primarySanId sourceMembers mappings)
  have hPreflight := @classifyNodePreflight_execute_iff nodePreflight
  unfold cleanupNodeResult
  unfold membersForNode at hResolved hFree ⊢
  dsimp only
  cases hSsh : node.sshReady with
  | false => simp
  | true =>
    rw [← hResolved, ← hFree, ← hPreflight]
    generalize resolveMembersForNode node primarySanId sourceMembers mappings = resolved
    obtain ⟨members, issue⟩ := resolved
    simp only [Bool.not_true, Bool.false_eq_true, if_false, true_and]
    split
    · rename_i hGap
      simp only [Bool.or_eq_true, beq_iff_eq, List.length_eq_zero_iff, List.any_eq_true,
        exists_eq_right] at hGap
      rcases hGap with (hIssue | hNil) | hEmpty
      · simp [Option.ne_none_iff_isSome.mpr hIssue]
      · simp [hNil]
      · simp [hEmpty]
    · rename_i hGap
      simp only [Bool.or_eq_true, beq_iff_eq, List.length_eq_zero_iff, List.any_eq_true,
        exists_eq_right, not_or, Bool.not_eq_true, Option.isSome_eq_false_iff,
        Option.isNone_iff_eq_none] at hGap
      split
      · rename_i hBusy
        simp [hBusy]
      · rename_i hFree
        rw [Bool.not_eq_true] at hFree
        simp only [hGap, hFree, not_false_eq_true, ne_eq, true_and]
        cases hClass : classifyNodePreflight nodePreflight with
        | mk participation text => cases participation <;> simp

theorem cleanupNodeResult_of_execute
    (h : (cleanupNodeResult node primarySanId sourceMembers mappings nodePreflight
      commandBuilder).participation = .execute) :
    (cleanupNodeResult node primarySanId sourceMembers mappings nodePreflight
      commandBuilder).members = membersForNode node primarySanId sourceMembers mappings := by
  unfold cleanupNodeResult membersForNode at *
  dsimp only at *
  split at h
  · cases h
  · rename_i hSsh
    rw [if_neg hSsh]
    split at h
    · cases h
    · rename_i hGap
      rw [if_neg hGap]
      split
      · rfl
      · split <;> rfl

theorem sanId_cleanupNodeResult :
    (cleanupNodeResult node primarySanId sourceMembers mappings nodePreflight
      commandBuilder).sanId = node.sanId := by
  unfold cleanupNodeResult
  dsimp only
  split
  · rfl
  · split
    · rfl
    · split
      · rfl
      · split <;> rfl

end

section

variable [CaseMapping] {cluster : Cluster} {req : ClusterStoragePreflightRequest}

theorem keys_checkPeer {source peer : ClusterStorageNodeInventory} {check : NodeCheck}
    (h : checkPeer req source peer = .ok check) :
    ∀ entry ∈ check.preflights, entry.1 = peer.sanId := by
  unfold checkPeer at h
  dsimp only at h
  split at h
  · cases h
    simp
  · split at h
    · obtain ⟨preflight, -, rfl⟩ := map_eq_ok.mp h
      simp [nodeCheck]
    · split at h
      · cases h
        simp
      · split at h
        · obtain ⟨preflight, -, rfl⟩ := map_eq_ok.mp h
          simp [nodeCheck]
        · cases h
          simp

theorem lookup_of_checks {source : ClusterStorageNodeInventory}
    {nodes : List ClusterStorageNodeInventory} {checks : List NodeCheck}
    (h : List.Forall₂ (fun node check => checkPeer req source node = .ok check) nodes checks)
    (hUnique : (nodes.map (·.sanId)).Nodup) {node : ClusterStorageNodeInventory}
    (hNode : node ∈ nodes) :
    ∃ check, checkPeer req source node = .ok check ∧
      (checks.flatMap (·.preflights)).lookup node.sanId = check.preflights.lookup node.sanId := by
  induction h with
  | nil => cases hNode
  | @cons first check nodes checks hHead hTail ih =>
    obtain ⟨hFirst, hUnique⟩ := List.nodup_cons.mp hUnique
    rw [List.flatMap_cons, List.lookup_append]
    rcases List.mem_cons.mp hNode with rfl | hNode
    · refine ⟨check, hHead, ?_⟩
      have hOthers : (checks.flatMap (·.preflights)).lookup node.sanId = none := by
        apply List.lookup_eq_none_iff.mpr
        intro entry hEntry
        obtain ⟨otherCheck, hOther, hEntry⟩ := List.mem_flatMap.mp hEntry
        obtain ⟨other, hMem, hChecked⟩ := exists_of_forall₂_right hTail hOther
        rw [keys_checkPeer hChecked entry hEntry, bne_iff_ne]
        exact fun hSame => hFirst (List.mem_map.mpr ⟨other, hMem, hSame.symm⟩)
      rw [hOthers, Option.or_none]
    · have hHere : check.preflights.lookup node.sanId = none := by
        apply List.lookup_eq_none_iff.mpr
        intro entry hEntry
        rw [keys_checkPeer hHead entry hEntry, bne_iff_ne]
        exact fun hSame => hFirst (List.mem_map.mpr ⟨node, hNode, hSame⟩)
      rw [hHere, Option.none_or]
      exact ih hUnique hNode

theorem lookup_checkPeer_iff (hCleanup : isCleanupClusterAction req.action)
    {source peer : ClusterStorageNodeInventory} {check : NodeCheck}
    {preflight : RaidPreflightResult} (h : checkPeer req source peer = .ok check) :
    check.preflights.lookup peer.sanId = some preflight ↔
      peer.ready = true ∧ req.selectedPaths ≠ [] ∧
        (mappedPaths (mappingsToPeer req source peer)).length = req.selectedPaths.length ∧
        runNodePreflight req.action
          (remapPayload req.action req.payload (mappedPaths (mappingsToPeer req source peer)))
          peer = .ok preflight := by
  have hPathless : (isPathlessClusterAction req.action ||
      (req.action == .assembleMd && req.selectedPaths.length == 0)) = false := by
    cases hAction : req.action <;> simp_all [isCleanupClusterAction, isPathlessClusterAction]
  unfold checkPeer at h
  simp only [hPathless, Bool.false_eq_true, if_false] at h
  split at h
  · rename_i hReady
    cases h
    simp [not_ready_iff.mp hReady]
  · rename_i hReady
    rw [Bool.not_eq_true, ← Bool.not_eq_true, not_ready_iff, Bool.not_eq_false] at hReady
    split at h
    · rename_i hNone
      cases h
      simp [List.length_eq_zero_iff.mp hNone]
    · rename_i hSome
      have hSome : req.selectedPaths ≠ [] := fun hNil => hSome (List.length_eq_zero_iff.mpr hNil)
      split at h
      · rename_i hMapped
        obtain ⟨found, hFound, rfl⟩ := map_eq_ok.mp h
        simp [nodeCheck, hReady, hSome, hMapped, hFound]
      · rename_i hMapped
        cases h
        simp [hMapped]

def ClusterStoragePreflightRequest.membersOn (req : ClusterStoragePreflightRequest)
    (source node : ClusterStorageNodeInventory) : List String :=
  if node.sanId = req.primarySanId then req.selectedPaths
  else req.selectedPaths.filterMap (targetOnPeer req source node)

structure Cleanable (req : ClusterStoragePreflightRequest)
    (source node : ClusterStorageNodeInventory) : Prop where
  source_ready : source.ready = true
  ready : node.ready = true
  mapped : (req.membersOn source node).length = req.selectedPaths.length
  nonempty : req.membersOn source node ≠ []
  named : "" ∉ req.membersOn source node
  free : node.free (req.membersOn source node)
  passes : ∃ preflight, runNodePreflight req.action
    (remapPayload req.action req.payload (req.membersOn source node)) node = .ok preflight ∧
      preflight.ok = true

variable (run : PreflightRun cluster req) {node : ClusterStorageNodeInventory}

theorem membersForNode_result (hNode : node ∈ cluster.nodes) :
    membersForNode node req.primarySanId req.selectedPaths run.result.mappings =
      req.membersOn run.source node := by
  unfold membersForNode resolveMembersForNode ClusterStoragePreflightRequest.membersOn
  by_cases hPrimary : node.sanId = req.primarySanId
  · rw [if_pos hPrimary, if_pos hPrimary]
  · rw [if_neg hPrimary, if_neg hPrimary]
    exact List.filterMap_congr fun sourcePath _ => run.mappedTarget_result hNode hPrimary sourcePath

theorem mappedPaths_mappingsToPeer (hSource : run.source.ready)
    (hReady : node.ready) (hOther : node.sanId ≠ req.primarySanId) :
    mappedPaths (mappingsToPeer req run.source node) = req.membersOn run.source node := by
  unfold mappedPaths mappingsToPeer ClusterStoragePreflightRequest.membersOn
  rw [List.filterMap_map, if_neg hOther]
  apply List.filterMap_congr
  intro sourcePath hSelected
  simp [targetOnPeer, hSource, hReady, hSelected]

theorem lookup_result_iff (hCleanup : isCleanupClusterAction req.action)
    (hNode : node ∈ cluster.nodes)
    (hMapped : (req.membersOn run.source node).length = req.selectedPaths.length)
    (hSome : req.membersOn run.source node ≠ []) {preflight : RaidPreflightResult} :
    run.result.perNodePreflights.lookup node.sanId = some preflight ↔
      run.source.ready = true ∧ node.ready = true ∧ runNodePreflight req.action
        (remapPayload req.action req.payload (req.membersOn run.source node)) node =
          .ok preflight := by
  have hPreflights : run.result.perNodePreflights = run.checks.flatMap (·.preflights) := rfl
  rw [hPreflights]
  rcases run.checked with ⟨hReady, -, hChecks⟩ | ⟨hReady, -, hChecks⟩
  · rw [hChecks, hReady]
    simp
  · obtain ⟨sourceCheck, hSource, hRest⟩ := bind_eq_ok.mp hChecks
    obtain ⟨peerChecks, hPeers, hAll⟩ := bind_eq_ok.mp hRest
    obtain ⟨found, hFound, rfl⟩ := map_eq_ok.mp hSource
    rw [← pure_eq_ok.mp hAll, List.flatMap_cons, nodeCheck, List.singleton_append, List.lookup_cons]
    by_cases hPrimary : node.sanId = req.primarySanId
    · obtain rfl := run.source_eq hNode hPrimary
      have hPayload : remapPayload req.action req.payload (req.membersOn run.source run.source) =
          req.payload := by
        rw [ClusterStoragePreflightRequest.membersOn, if_pos hPrimary]
        cases hAction : req.action <;>
          simp_all [isCleanupClusterAction, remapPayload,
            ClusterStoragePreflightRequest.selectedPaths, selectedStoragePaths]
      rw [hPayload, hFound, beq_self_eq_true]
      simp [hReady]
    · have hDiffers : (node.sanId == run.source.sanId) = false := by
        simpa [run.sanId] using hPrimary
      have hUnique : ((cluster.nodes.filter (·.sanId != run.source.sanId)).map (·.sanId)).Nodup :=
        cluster.unique.sublist (List.filter_sublist.map _)
      have hMem : node ∈ cluster.nodes.filter (·.sanId != run.source.sanId) :=
        List.mem_filter.mpr ⟨hNode, by simpa [run.sanId] using hPrimary⟩
      obtain ⟨check, hCheck, hLookup⟩ := lookup_of_checks (mapM_eq_ok.mp hPeers) hUnique hMem
      rw [hDiffers]
      dsimp only
      rw [hLookup, lookup_checkPeer_iff hCleanup hCheck]
      have hSelected : req.selectedPaths ≠ [] := by
        intro hNone
        rw [hNone] at hMapped
        exact hSome (List.length_eq_zero_iff.mp hMapped)
      constructor
      · rintro ⟨hNodeReady, -, -, hOk⟩
        rw [mappedPaths_mappingsToPeer run hReady hNodeReady hPrimary] at hOk
        exact ⟨hReady, hNodeReady, hOk⟩
      · rintro ⟨-, hNodeReady, hOk⟩
        rw [mappedPaths_mappingsToPeer run hReady hNodeReady hPrimary]
        exact ⟨hNodeReady, hSelected, hMapped, hOk⟩

theorem cleanupNodeResult_result_execute_iff (hCleanup : isCleanupClusterAction req.action)
    (hNode : node ∈ cluster.nodes) {commandBuilder : List String → String} :
    (cleanupNodeResult node req.primarySanId req.selectedPaths run.result.mappings
        (run.result.perNodePreflights.lookup node.sanId) commandBuilder).participation = .execute ↔
      Cleanable req run.source node := by
  rw [cleanupNodeResult_execute_iff]
  dsimp only
  rw [membersForNode_result run hNode]
  constructor
  · rintro ⟨hSsh, hMapped, hSome, hNamed, hFree, preflight, hFound, hOk⟩
    obtain ⟨hSource, hReady, hRun⟩ := (lookup_result_iff run hCleanup hNode hMapped hSome).mp hFound
    exact ⟨hSource, hReady, hMapped, hSome, hNamed, hFree, preflight, hRun, hOk⟩
  · rintro ⟨hSource, hReady, hMapped, hSome, hNamed, hFree, preflight, hRun, hOk⟩
    have hSsh : node.sshReady = true := (Bool.and_eq_true_iff.mp hReady).1
    exact ⟨hSsh, hMapped, hSome, hNamed, hFree, preflight,
      (lookup_result_iff run hCleanup hNode hMapped hSome).mpr ⟨hSource, hReady, hRun⟩, hOk⟩

theorem cleanupAssessment_eq (hCleanup : isCleanupClusterAction req.action)
    {assessment : ClusterMdRecoveryAssessment}
    (h : run.result.recoveryAssessment = some assessment) :
    assessment = buildCleanupRecoveryAssessment req.action req.primarySanId req.selectedPaths
      cluster.nodes run.result.mappings run.result.perNodePreflights := by
  have hDegraded : isDegradedRecoveryAction req.action = true := by
    cases hAction : req.action <;> simp_all [isCleanupClusterAction, isDegradedRecoveryAction]
  have hSome : recoveryAssessment req cluster.nodes run.result.mappings
      run.result.perNodePreflights = some assessment := h
  rw [recoveryAssessment, if_pos hDegraded, if_pos hCleanup] at hSome
  exact (Option.some.inj hSome).symm

theorem cleanable_of_okSymmetric (hCleanup : isCleanupClusterAction req.action)
    {assessment : ClusterMdRecoveryAssessment}
    (hAssessment : run.result.recoveryAssessment = some assessment)
    (hSymmetric : assessment.okSymmetric) (hNode : node ∈ cluster.nodes) :
    Cleanable req run.source node := by
  rw [cleanupAssessment_eq run hCleanup hAssessment] at hSymmetric
  simp only [buildCleanupRecoveryAssessment, Bool.and_eq_true, beq_iff_eq] at hSymmetric
  have hAll := List.length_filter_eq_length_iff.mp hSymmetric.1
  have hOrdered := (orderNodes_perm cluster.nodes req.primarySanId).symm.subset hNode
  have hExecute := hAll _ (List.mem_map_of_mem hOrdered)
  exact (cleanupNodeResult_result_execute_iff run hCleanup hNode).mp (beq_iff_eq.mp hExecute)

end

theorem okSymmetric_of_recoveryMode_none {assessment : ClusterMdRecoveryAssessment}
    {requested : Option ClusterMdRecoveryMode}
    (h : resolveCleanupRecoveryMode assessment requested = .ok none) :
    assessment.okSymmetric := by
  unfold resolveCleanupRecoveryMode at h
  split at h
  · assumption
  · dsimp only at h
    split at h
    · rename_i hMode
      rw [Except.ok.inj h] at hMode
      cases hMode.1
    · split at h
      · cases h
      · split at h <;> cases h

/-- What a plan for removing metadata promises. -/
structure SafeCleanup [CaseMapping] (cluster : Cluster) (action : ClusterStorageAction) (payload : Payload)
    (plan : ClusterMdPlan (Option ClusterMdRecoveryMode)) : Prop where
  planned : (plan.nodeResults.map (·.sanId)).Perm (cluster.nodes.map (·.sanId))
  mapped : ∀ result ∈ plan.nodeResults, result.participation = .execute →
    result.members.length = payload.members.length
  free : ∀ result ∈ plan.nodeResults, result.participation = .execute →
    ∀ node ∈ cluster.nodes, node.sanId = result.sanId → node.free result.members
  passed : ∀ result ∈ plan.nodeResults, result.participation = .execute →
    ∀ node ∈ cluster.nodes, node.sanId = result.sanId → ∃ preflight,
      plan.preflight.perNodePreflights.lookup node.sanId = some preflight ∧
      runNodePreflight action (remapPayload action payload result.members) node = .ok preflight ∧
      preflight.ok = true
  symmetric : plan.recoveryMode = none → AllNodesExecute cluster plan.nodeResults

section

variable [Host] {cluster : Cluster} {kind : CleanupKind}
  {clusterExecution : ClusterMdExecutionRequest} {payload : Payload}
  {plan : ClusterMdPlan (Option ClusterMdRecoveryMode)}

theorem buildCleanupClusterExecutionPlan_eq_ok {recoveryModeInput : Option ClusterMdRecoveryMode}
    (hCleanup : isCleanupClusterAction kind.action)
    (h : buildCleanupClusterExecutionPlan cluster kind clusterExecution payload.members payload
      recoveryModeInput = .ok plan) :
    ∃ run : PreflightRun cluster (cleanupPreflight kind clusterExecution payload),
      plan.preflight = run.result ∧
      plan.nodeResults = (orderNodes cluster.nodes clusterExecution.primarySanId).map (fun node =>
        cleanupNodeResult node clusterExecution.primarySanId payload.members run.result.mappings
          (run.result.perNodePreflights.lookup node.sanId) kind.commandBuilder) ∧
      (plan.recoveryMode = none → ∀ node ∈ cluster.nodes,
        Cleanable (cleanupPreflight kind clusterExecution payload) run.source node) := by
  obtain ⟨preflight, hPreflight, h⟩ := bind_eq_ok.mp h
  obtain ⟨assessment, hAssessment, h⟩ := bind_eq_ok.mp h
  obtain ⟨mode, hMode, h⟩ := bind_eq_ok.mp h
  obtain ⟨_, -, h⟩ := bind_eq_ok.mp h
  cases pure_eq_ok.mp h
  obtain ⟨run, rfl⟩ := exists_preflightRun hPreflight
  refine ⟨run, rfl, rfl, ?_⟩
  rintro rfl node hNode
  exact cleanable_of_okSymmetric run hCleanup (recoveryAssessment_of_requireRecovery hAssessment)
    (okSymmetric_of_recoveryMode_none hMode) hNode

theorem cleanup_executesWhere
    (run : PreflightRun cluster (cleanupPreflight kind clusterExecution payload))
    (hCleanup : isCleanupClusterAction kind.action)
    (hSelected : (cleanupPreflight kind clusterExecution payload).selectedPaths = payload.members)
    (hResults : plan.nodeResults = (orderNodes cluster.nodes clusterExecution.primarySanId).map
      fun node => cleanupNodeResult node clusterExecution.primarySanId payload.members
        run.result.mappings (run.result.perNodePreflights.lookup node.sanId) kind.commandBuilder) :
    ExecutesWhere (Cleanable (cleanupPreflight kind clusterExecution payload) run.source)
      (orderNodes cluster.nodes clusterExecution.primarySanId) plan.nodeResults := by
  rw [hResults]
  apply executesWhere_map fun node => sanId_cleanupNodeResult
  intro node hNode
  rw [← hSelected]
  exact cleanupNodeResult_result_execute_iff run hCleanup ((orderNodes_perm _ _).subset hNode)

theorem safeCleanup_of_plan {recoveryModeInput : Option ClusterMdRecoveryMode}
    (hCleanup : isCleanupClusterAction kind.action)
    (hSelected : (cleanupPreflight kind clusterExecution payload).selectedPaths = payload.members)
    (h : buildCleanupClusterExecutionPlan cluster kind clusterExecution payload.members payload
      recoveryModeInput = .ok plan) :
    SafeCleanup cluster kind.action payload plan := by
  obtain ⟨run, hPreflight, hResults, hSymmetric⟩ :=
    buildCleanupClusterExecutionPlan_eq_ok hCleanup h
  have hExecutes := cleanup_executesWhere run hCleanup hSelected hResults
  have hPerm := orderNodes_perm cluster.nodes clusterExecution.primarySanId
  -- A result that executes is the result of a node that is cleanable.
  have hExecuted : ∀ result ∈ plan.nodeResults, result.participation = .execute →
      ∃ node ∈ cluster.nodes, node.sanId = result.sanId ∧
        Cleanable (cleanupPreflight kind clusterExecution payload) run.source node ∧
        result.members =
          (cleanupPreflight kind clusterExecution payload).membersOn run.source node := by
    intro result hResult hExecute
    rw [hResults] at hResult
    obtain ⟨node, hNode, rfl⟩ := List.mem_map.mp hResult
    have hMem := hPerm.subset hNode
    have hMembers := membersForNode_result run hMem
    have hCleanable := @cleanupNodeResult_result_execute_iff _ _ _ run node hCleanup hMem
      kind.commandBuilder
    rw [hSelected] at hMembers hCleanable
    exact ⟨node, hMem, sanId_cleanupNodeResult.symm, hCleanable.mp hExecute,
      (cleanupNodeResult_of_execute hExecute).trans hMembers⟩
  refine ⟨hExecutes.perm, ?_, ?_, ?_, ?_⟩
  · intro result hResult hExecute
    obtain ⟨node, -, -, hCleanable, hMembers⟩ := hExecuted result hResult hExecute
    rw [hMembers, hCleanable.mapped, hSelected]
  · intro result hResult hExecute node hNode hId
    obtain ⟨other, hOther, hOtherId, hCleanable, hMembers⟩ := hExecuted result hResult hExecute
    obtain rfl := Cluster.eq_of_sanId hNode hOther (hId.trans hOtherId.symm)
    exact hMembers ▸ hCleanable.free
  · intro result hResult hExecute node hNode hId
    obtain ⟨other, hOther, hOtherId, hCleanable, hMembers⟩ := hExecuted result hResult hExecute
    obtain rfl := Cluster.eq_of_sanId hNode hOther (hId.trans hOtherId.symm)
    obtain ⟨preflight, hRun, hOk⟩ := hCleanable.passes
    refine ⟨preflight, ?_, hMembers ▸ hRun, hOk⟩
    rw [hPreflight]
    exact (lookup_result_iff run hCleanup hNode hCleanable.mapped hCleanable.nonempty).mpr
      ⟨hCleanable.source_ready, hCleanable.ready, hRun⟩
  · intro hNone
    refine ⟨fun node hNode => (hSymmetric hNone node hNode).ready, hExecutes.perm, ?_⟩
    intro result hResult
    obtain ⟨node, hNode, -, hExecute⟩ := exists_of_forall₂_right hExecutes hResult
    exact hExecute.mpr (hSymmetric hNone node (hPerm.subset hNode))

/-- Metadata is removed from as many devices of a node as were selected, of which none is in
use by an array there, and only where the node's own preflight is passed; a plan without a
recovery mode removes it on all nodes. -/
theorem cleanup_plans_safe (cluster : Cluster) :
    (∀ req plan, buildZeroMdClusterExecutionPlan cluster req = .ok plan →
      SafeCleanup cluster .zeroMdSuperblocks req.payload plan) ∧
    ∀ req plan, buildWipeMdClusterExecutionPlan cluster req = .ok plan →
      SafeCleanup cluster .wipeMdSignatures req.payload plan := by
  constructor
  · intro req plan h
    obtain ⟨_, -, hPlan⟩ := bind_eq_ok.mp h
    exact @safeCleanup_of_plan _ cluster zeroCleanup req.clusterExecution req.payload plan _ rfl rfl hPlan
  · intro req plan h
    exact @safeCleanup_of_plan _ cluster wipeCleanup req.clusterExecution req.payload plan _ rfl rfl h

end

/-- Two nodes with the metadata of an array on a partition that they share, and a third one
that cannot be reached. -/
def sharedMemberCluster : Cluster where
  nodes :=
    (["a", "b"].map fun sanId =>
      { sanId, label := sanId, tools := some { mdadm := true }
        blockDevices :=
          [{ name := "sda1", path := "/dev/sda1", type := .part, wwn := some "w"
             hasMdSuperblock := true }] }) ++
    [{ sanId := "c", label := "c", sshReady := false }]
  unique := by decide

theorem cleanup_plans_safe_sharedMember :
    (∃ plan, @buildZeroMdClusterExecutionPlan anyHost sharedMemberCluster
        { members := ["/dev/sda1"], clusterExecution := { primarySanId := "a" } } = .ok plan ∧
      (nodesToExecute plan.nodeResults).map (·.sanId) = ["a", "b"] ∧
      @SafeCleanup anyHost.toCaseMapping sharedMemberCluster .zeroMdSuperblocks
        { members := ["/dev/sda1"] } plan) ∧
    ∃ plan, @buildWipeMdClusterExecutionPlan anyHost sharedMemberCluster
        { members := ["/dev/sda1"], clusterExecution := { primarySanId := "b" } } = .ok plan ∧
      @SafeCleanup anyHost.toCaseMapping sharedMemberCluster .wipeMdSignatures
        { members := ["/dev/sda1"] } plan := by
  obtain ⟨hZero, hWipe⟩ := @cleanup_plans_safe anyHost sharedMemberCluster
  constructor
  · exact exists_ok_of_map (by decide +kernel) fun plan hPlan hExecuted =>
      ⟨hExecuted, hZero _ _ hPlan⟩
  · exact exists_ok_of_isOk (by decide +kernel) fun plan hPlan => hWipe _ _ hPlan

end EsosWebui.Raid
