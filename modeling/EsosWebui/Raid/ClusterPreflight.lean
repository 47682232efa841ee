import EsosWebui.Raid.Cleanup

/-! The preflight of a storage action on all nodes of a cluster. -/
namespace EsosWebui.Raid

open Js

def isPathlessClusterAction (action : ClusterStorageAction) : Bool := action == .stopMd

def isDegradedRecoveryAction (action : ClusterStorageAction) : Bool :=
  action == .stopMd || action == .assembleMd || action == .zeroMdSuperblocks ||
    action == .wipeMdSignatures

def isMissingArrayBlocker (message arrayName : String) : Bool :=
  includes message s!"Array {arrayName} introuvable" ||
    includes message s!"Tableau MD arrêté {arrayName} introuvable" ||
    includes message s!"Le tableau {arrayName} est déjà actif"

structure ClusterStoragePreflightRequest where
  primarySanId : String
  action : ClusterStorageAction
  payload : Payload
  diskMappings : List ClusterDiskMappingInput := []

namespace ClusterStoragePreflightRequest

variable (req : ClusterStoragePreflightRequest)

def selectedPaths : List String := selectedStoragePaths req.action req.payload

def arrayName : String := req.payload.name.getD ""

def ignores (blocker : String) : Bool :=
  isDegradedRecoveryAction req.action && isMissingArrayBlocker blocker req.arrayName

end ClusterStoragePreflightRequest

def ClusterStorageNodeInventory.ready (node : ClusterStorageNodeInventory) : Bool :=
  node.sshReady && node.tools.isSome

theorem not_ready_iff {node : ClusterStorageNodeInventory} :
    (!node.sshReady || node.tools.isNone) = true ↔ node.ready = false := by
  cases hSsh : node.sshReady <;> cases hTools : node.tools <;>
    simp [ClusterStorageNodeInventory.ready, hSsh, hTools]

/-- What the preflight finds out on one node. -/
structure NodeCheck where
  blockers : List String := []
  warnings : List String := []
  mappings : List ClusterDiskMapping := []
  preflights : List (String × RaidPreflightResult) := []

def labelled (node : ClusterStorageNodeInventory) (messages : List String) : List String :=
  let label := node.label
  messages.map fun message => s!"{label} : {message}"

def nodeCheck (node : ClusterStorageNodeInventory) (preflight : RaidPreflightResult)
    (ignores : String → Bool) : NodeCheck :=
  { blockers := labelled node (preflight.blockers.filter fun b => !ignores b)
    warnings := labelled node preflight.warnings
    preflights := [(node.sanId, preflight)] }

section

variable [CaseMapping] (req : ClusterStoragePreflightRequest)
  (source : ClusterStorageNodeInventory)

def checkSource : Except HttpError NodeCheck :=
  (runNodePreflight req.action req.payload source).map fun preflight =>
    nodeCheck source preflight req.ignores

def mappingsToPeer (peer : ClusterStorageNodeInventory) : List ClusterDiskMapping :=
  req.selectedPaths.map fun sourcePath =>
    mapDeviceToPeer sourcePath source peer req.action req.diskMappings

/-- The devices of a peer that mappings name. -/
def mappedPaths (mappings : List ClusterDiskMapping) : List String :=
  mappings.filterMap fun mapping => mapping.targetPath.filter (· != "")

def checkPeer (peer : ClusterStorageNodeInventory) : Except HttpError NodeCheck :=
  if !peer.sshReady || peer.tools.isNone then .ok {}
  else if isPathlessClusterAction req.action ||
      (req.action == .assembleMd && req.selectedPaths.length == 0) then
    (runNodePreflight req.action req.payload peer).map fun preflight =>
      nodeCheck peer preflight req.ignores
  else
    let mappings := mappingsToPeer req source peer
    let mapped : NodeCheck :=
      { blockers := mappings.flatMap fun mapping => labelled peer mapping.blockers
        warnings := mappings.flatMap fun mapping => labelled peer mapping.warnings
        mappings }
    let peerPaths := mappedPaths mappings
    let selected := req.selectedPaths.length
    if selected = 0 then
      let action := req.action.name
      .ok { mapped with
        blockers := mapped.blockers ++
          labelled peer [s!"aucun chemin membre à mapper pour {action}"] }
    else if peerPaths.length = selected then
      (runNodePreflight req.action (remapPayload req.action req.payload peerPaths) peer).map
        fun preflight =>
          let checked := nodeCheck peer preflight fun _ => false
          { mapped with
            blockers := mapped.blockers ++ checked.blockers
            warnings := mapped.warnings ++ checked.warnings
            preflights := checked.preflights }
    else
      let mappedCount := peerPaths.length
      .ok { mapped with
        blockers := mapped.blockers ++
          labelled peer [s!"mapping incomplet ({mappedCount}/{selected} chemins)"] }

def checkNodes (inventories : List ClusterStorageNodeInventory) :
    Except HttpError (List NodeCheck) := do
  let sourceCheck ← checkSource req source
  let peerChecks ← (inventories.filter (·.sanId != source.sanId)).mapM (checkPeer req source)
  return sourceCheck :: peerChecks

end

def reachabilityBlockers (node : ClusterStorageNodeInventory) : List String :=
  let error := node.error.getD ""
  (if node.sshReady then []
    else labelled node [if error = "" then "SSH non disponible"
      else s!"SSH non disponible ({error})"]) ++
  (if node.readOnly then labelled node ["SAN en lecture seule"] else [])

def mdadmBlockers (action : ClusterStorageAction)
    (inventories : List ClusterStorageNodeInventory) : List String :=
  if action == .createMd || action == .mdAddDevice then
    inventories.flatMap fun node =>
      if node.tools.any fun tools => !tools.mdadm then labelled node ["mdadm indisponible"] else []
  else []

def executionModes (blockers : List String) (mappings : List ClusterDiskMapping) :
    List ExecutionMode :=
  if blockers.length > 0 then []
  else if mappings.any (·.confidence == .none) then []
  else if mappings.any (·.confidence == .low) then [.staged]
  else [.allNodes, .staged]

def recoveryAssessment (req : ClusterStoragePreflightRequest)
    (inventories : List ClusterStorageNodeInventory) (mappings : List ClusterDiskMapping)
    (perNodePreflights : List (String × RaidPreflightResult)) :
    Option ClusterMdRecoveryAssessment :=
  if isDegradedRecoveryAction req.action then
    some <|
      if isCleanupClusterAction req.action then
        buildCleanupRecoveryAssessment req.action req.primarySanId req.selectedPaths inventories
          mappings perNodePreflights
      else
        buildClusterMdRecoveryAssessment req.action req.arrayName req.payload.uuid inventories none
  else none

/-- The result, from what was found out on the nodes. -/
def preflightResult (req : ClusterStoragePreflightRequest)
    (inventories : List ClusterStorageNodeInventory) (sourceBlockers : List String)
    (checks : List NodeCheck) : ClusterStoragePreflightResult :=
  let mappings := checks.flatMap (·.mappings)
  let perNodePreflights := checks.flatMap (·.preflights)
  let assessment := recoveryAssessment req inventories mappings perNodePreflights
  let blockers := unique <|
    duplicateManualMappingBlockers req.diskMappings ++
      inventories.flatMap reachabilityBlockers ++ sourceBlockers ++
      checks.flatMap (·.blockers) ++ (assessment.map (·.hardBlockers)).getD [] ++
      mdadmBlockers req.action inventories
  let okSymmetric := (assessment.map (·.okSymmetric)).getD (blockers.length == 0)
  let okDegraded := (assessment.map (·.okDegraded)).getD false
  { ok :=
      if isDegradedRecoveryAction req.action then
        okDegraded || (blockers.length == 0 && okSymmetric)
      else blockers.length == 0
    okSymmetric
    okDegraded
    action := req.action
    sourceSanId := req.primarySanId
    blockers
    warnings := unique (checks.flatMap (·.warnings) ++ (assessment.map (·.warnings)).getD [])
    nodes := inventories
    mappings
    perNodePreflights
    executionModesAllowed := executionModes blockers mappings
    recoveryAssessment := assessment }

variable [CaseMapping]

def runClusterStoragePreflight (cluster : Cluster) (req : ClusterStoragePreflightRequest) :
    Except HttpError ClusterStoragePreflightResult := do
  let inventories := cluster.nodes
  throwIf (req.primarySanId = "") ⟨400, "primarySanId requis"⟩
  throwIf (inventories.length < 2)
    ⟨400, "Au moins deux nœuds cluster sont requis pour le préflight stockage"⟩
  let source ← orThrow ⟨400, "primarySanId ne fait pas partie du cluster demandé"⟩
    (inventories.find? (·.sanId == req.primarySanId))
  if !source.sshReady || source.tools.isNone then
    return preflightResult req inventories ["Inventaire du nœud source indisponible"] []
  else
    let checks ← checkNodes req source inventories
    return preflightResult req inventories [] checks

structure PreflightRun (cluster : Cluster) (req : ClusterStoragePreflightRequest) where
  source : ClusterStorageNodeInventory
  mem : source ∈ cluster.nodes
  sanId : source.sanId = req.primarySanId
  sourceBlockers : List String
  checks : List NodeCheck
  checked : (source.ready = false ∧ sourceBlockers ≠ [] ∧ checks = []) ∨
    (source.ready = true ∧ sourceBlockers = [] ∧
      checkNodes req source cluster.nodes = .ok checks)

def PreflightRun.result {cluster : Cluster} {req : ClusterStoragePreflightRequest}
    (run : PreflightRun cluster req) : ClusterStoragePreflightResult :=
  preflightResult req cluster.nodes run.sourceBlockers run.checks

variable {cluster : Cluster} {req : ClusterStoragePreflightRequest}

theorem exists_preflightRun {r : ClusterStoragePreflightResult}
    (h : runClusterStoragePreflight cluster req = .ok r) :
    ∃ run : PreflightRun cluster req, r = run.result := by
  obtain ⟨-, -, h⟩ := bind_eq_ok.mp h
  obtain ⟨-, -, h⟩ := bind_eq_ok.mp h
  obtain ⟨source, hSource, h⟩ := bind_eq_ok.mp h
  have hFind := orThrow_eq_ok.mp hSource
  have hId : source.sanId = req.primarySanId := by simpa using List.find?_some hFind
  have hMem := List.mem_of_find?_eq_some hFind
  split at h
  · rename_i hReady
    exact ⟨⟨source, hMem, hId, _, [], Or.inl ⟨not_ready_iff.mp hReady, by simp, rfl⟩⟩,
      (pure_eq_ok.mp h).symm⟩
  · rename_i hReady
    have hReady : source.ready = true :=
      Bool.not_eq_false _ ▸ fun hNot => hReady (not_ready_iff.mpr hNot)
    obtain ⟨checks, hChecks, h⟩ := bind_eq_ok.mp h
    exact ⟨⟨source, hMem, hId, [], checks, Or.inr ⟨hReady, rfl, hChecks⟩⟩,
      (pure_eq_ok.mp h).symm⟩

namespace PreflightRun

variable (run : PreflightRun cluster req)

@[simp] theorem nodes_result : run.result.nodes = cluster.nodes := rfl

theorem primary_mem (run : PreflightRun cluster req) :
    req.primarySanId ∈ cluster.nodes.map (·.sanId) :=
  List.mem_map.mpr ⟨run.source, run.mem, run.sanId⟩

theorem source_eq {source : ClusterStorageNodeInventory} (hSource : source ∈ cluster.nodes)
    (hPrimary : source.sanId = req.primarySanId) : run.source = source :=
  Cluster.eq_of_sanId run.mem hSource (run.sanId.trans hPrimary.symm)

theorem hardBlockers_of_okDegraded {assessment : ClusterMdRecoveryAssessment}
    (hAssessment : run.result.recoveryAssessment = some assessment)
    (hOk : assessment.okDegraded) : assessment.hardBlockers = [] := by
  have hSome : recoveryAssessment req cluster.nodes run.result.mappings
      run.result.perNodePreflights = some assessment := hAssessment
  unfold recoveryAssessment at hSome
  split at hSome
  · have hSame := Option.some.inj hSome
    split at hSame
    · rw [← hSame] at hOk ⊢
      exact cleanup_hardBlockers_of_okDegraded hOk
    · rw [← hSame] at hOk ⊢
      exact Raid.hardBlockers_of_okDegraded hOk
  · cases hSome

theorem hardBlockers_of_ok {assessment : ClusterMdRecoveryAssessment}
    (hAssessment : run.result.recoveryAssessment = some assessment)
    (hOk : run.result.okDegraded = true ∨ run.result.ok = true) :
    assessment.hardBlockers = [] := by
  have hSome : recoveryAssessment req cluster.nodes run.result.mappings
      run.result.perNodePreflights = some assessment := hAssessment
  have hDegraded : run.result.okDegraded = assessment.okDegraded :=
    congrArg (fun a => (a.map ClusterMdRecoveryAssessment.okDegraded).getD false) hSome
  have hBlockers : run.result.blockers = [] → assessment.hardBlockers = [] := by
    intro hNone
    rw [List.eq_nil_iff_forall_not_mem]
    intro blocker hBlocker
    have hMem : blocker ∈ run.result.blockers := by
      rw [result, preflightResult, mem_unique]
      simp only [List.mem_append]
      refine Or.inl (Or.inr ?_)
      rw [show recoveryAssessment req cluster.nodes (run.checks.flatMap (·.mappings))
        (run.checks.flatMap (·.preflights)) = some assessment from hSome]
      exact hBlocker
    rw [hNone] at hMem
    cases hMem
  by_cases hOkDegraded : assessment.okDegraded = true
  · exact run.hardBlockers_of_okDegraded hAssessment hOkDegraded
  · cases hOk with
    | inl h => exact absurd (hDegraded ▸ h) hOkDegraded
    | inr h =>
      have hOkResult : (if isDegradedRecoveryAction req.action then
          run.result.okDegraded || (run.result.blockers.length == 0 && run.result.okSymmetric)
          else run.result.blockers.length == 0) = true := h
      rw [hDegraded, Bool.eq_false_iff.mpr hOkDegraded] at hOkResult
      split at hOkResult
      · exact hBlockers (by simpa using And.left (by simpa using hOkResult))
      · exact hBlockers (by simpa using hOkResult)

/-- Outside of recoveries, a preflight that is passed has found nothing on any node. -/
theorem checks_unblocked (hRecovery : isDegradedRecoveryAction req.action = false)
    (hOk : run.result.ok = true ∨ run.result.okDegraded = true) :
    run.checks.flatMap (·.blockers) = [] := by
  have hNone : recoveryAssessment req cluster.nodes run.result.mappings
      run.result.perNodePreflights = none := by
    rw [recoveryAssessment, hRecovery]
    rfl
  have hDegraded : run.result.okDegraded = false :=
    congrArg (fun a => (a.map ClusterMdRecoveryAssessment.okDegraded).getD false) hNone
  have hResult : (if isDegradedRecoveryAction req.action then
      run.result.okDegraded || (run.result.blockers.length == 0 && run.result.okSymmetric)
      else run.result.blockers.length == 0) = true :=
    hOk.resolve_right (by simp [hDegraded])
  rw [hRecovery] at hResult
  have hBlockers : run.result.blockers = [] := by simpa using hResult
  rw [result, preflightResult, unique_eq_nil_iff] at hBlockers
  simp only [List.append_eq_nil_iff] at hBlockers
  exact hBlockers.1.1.2

theorem exists_check (hSource : run.source.ready) {peer : ClusterStorageNodeInventory}
    (hPeer : peer ∈ cluster.nodes) (hOther : peer.sanId ≠ req.primarySanId) :
    ∃ check, checkPeer req run.source peer = .ok check ∧ check ∈ run.checks := by
  rcases run.checked with ⟨hReady, -, -⟩ | ⟨-, -, hChecks⟩
  · rw [hReady] at hSource
    cases hSource
  · obtain ⟨sourceCheck, -, hRest⟩ := bind_eq_ok.mp hChecks
    obtain ⟨peerChecks, hPeers, hAll⟩ := bind_eq_ok.mp hRest
    have hMem : peer ∈ cluster.nodes.filter (·.sanId != run.source.sanId) :=
      List.mem_filter.mpr ⟨hPeer, by simpa [run.sanId] using hOther⟩
    obtain ⟨check, hCheck, hChecked⟩ := exists_of_forall₂_left (mapM_eq_ok.mp hPeers) hMem
    exact ⟨check, hChecked, pure_eq_ok.mp hAll ▸ List.mem_cons_of_mem _ hCheck⟩

end PreflightRun

end EsosWebui.Raid
