import EsosWebui.Raid.ClusterPreflight
import EsosWebui.Raid.PlanToken

/-! Plans for stopping and assembling an array and for removing its metadata on
the nodes of a cluster. -/
namespace EsosWebui.Raid

open Js

structure ClusterMdExecutionRequest where
  primarySanId : String
  diskMappings : List ClusterDiskMappingInput := []
  recoveryMode : Option ClusterMdRecoveryMode := none
  degradedOk : Bool := false
  planToken : Option String := none

/-- A plan; `mode` is the type of its recovery mode. -/
structure ClusterMdPlan (mode : Type) where
  preflight : ClusterStoragePreflightResult
  nodeResults : List ClusterMdNodeResult
  recoveryAssessment : ClusterMdRecoveryAssessment
  recoveryMode : mode
  planToken : String
  confirmationPhrase : String

def resolveRecoveryMode (assessment : ClusterMdRecoveryAssessment)
    (requested : Option ClusterMdRecoveryMode) : Except HttpError ClusterMdRecoveryMode :=
  let allowed := assessment.allowedRecoveryModes
  let names := if allowed = [] then "aucun" else join ", " (allowed.map (·.name))
  orThrow ⟨400, s!"recoveryMode invalide (autorisés : {names})"⟩
    ((requested.or assessment.recommendedRecoveryMode).filter allowed.contains)

def requireRecovery (preflight : ClusterStoragePreflightResult) (missing : String) :
    Except HttpError ClusterMdRecoveryAssessment := do
  let assessment ← orThrow ⟨500, missing⟩ preflight.recoveryAssessment
  let message := join "; " assessment.hardBlockers
  throwIf (!preflight.okDegraded && !preflight.ok)
    ⟨409, if message = "" then join "; " preflight.blockers else message⟩
  return assessment

def withReports (nodes : List ClusterStorageNodeInventory)
    (nodeReports : List MdArrayNodeStateReport) :
    Except HttpError (List (ClusterStorageNodeInventory × MdArrayNodeStateReport)) :=
  nodes.mapM fun node =>
    (orThrow ⟨500, "Cannot read properties of undefined"⟩
      (nodeReports.find? (·.sanId == node.sanId))).map fun report => (node, report)

/-- The text shown for a node that is left out. -/
def skipText (reason : Option SkipReason) : String :=
  (reason.map humanSkipReason).getD "Ignoré pour ce nœud"

def stopsActive (mode : ClusterMdRecoveryMode) : Bool :=
  mode == .stopAllActive || mode == .stopActiveOnly || mode == .stopInconsistentActive

def stopNodeResult (primarySanId arrayName : String) (recoveryMode : ClusterMdRecoveryMode)
    (node : ClusterStorageNodeInventory) (report : MdArrayNodeStateReport) :
    ClusterMdNodeResult :=
  let result : ClusterMdNodeResult :=
    { sanId := node.sanId
      label := node.label
      role := node.role
      source := if node.sanId = primarySanId then .primary else .peer
      nodeState := some report.state
      members := report.members
      devices := report.members
      arrayPath := report.arrayPath
      participation := .skip
      status := .skipped
      skipReason := some (skipText (skipReasonForStopState report.state)) }
  if report.state = .active ∧ report.nodeBlockers.length > 0 then
    { result with
      participation := .blocked
      status := .pending
      skipReason := none
      error := some (join "; " report.nodeBlockers) }
  else if stopsActive recoveryMode && report.state == .active then
    let arrayPath := report.arrayPath.getD s!"/dev/{arrayName}"
    let members :=
      if report.members ≠ [] then report.members
      else
        match node.mdArrays.find? (·.name == arrayName) with
        | some arr => arr.members.map fun m => m.path.getD ""
        | none => []
    { result with
      participation := .execute
      status := .pending
      skipReason := none
      arrayPath := some arrayPath
      members
      devices := members
      command := some s!"mdadm --stop {arrayPath}" }
  else result

def buildStopNodeResultsFromAssessment (preflight : ClusterStoragePreflightResult)
    (primarySanId arrayName : String) (recoveryMode : ClusterMdRecoveryMode)
    (nodeReports : List MdArrayNodeStateReport) : Except HttpError (List ClusterMdNodeResult) :=
  (withReports (orderNodes preflight.nodes primarySanId) nodeReports).map fun reported =>
    reported.map fun node => stopNodeResult primarySanId arrayName recoveryMode node.1 node.2

structure StopMdPlanRequest where
  primarySanId : String
  arrayName : String
  diskMappings : List ClusterDiskMappingInput := []
  recoveryMode : Option ClusterMdRecoveryMode := none

def StopMdPlanRequest.preflight (req : StopMdPlanRequest) (name : String) :
    ClusterStoragePreflightRequest :=
  { primarySanId := req.primarySanId
    action := .stopMd
    payload := { name := some name }
    diskMappings := req.diskMappings }

section

variable [Host]

def buildStopMdClusterExecutionPlan (cluster : Cluster) (req : StopMdPlanRequest) :
    Except HttpError (ClusterMdPlan ClusterMdRecoveryMode) := do
  let name ← normalizeMdArrayName req.arrayName
  let preflight ← runClusterStoragePreflight cluster (req.preflight name)
  let assessment ← requireRecovery preflight "Évaluation recovery MD manquante"
  let recoveryMode ← resolveRecoveryMode assessment req.recoveryMode
  let nodeResults ← buildStopNodeResultsFromAssessment preflight req.primarySanId name
    recoveryMode assessment.nodeReports
  throwIf (nodesToExecute nodeResults = [])
    ⟨409, "Aucun nœud à exécuter pour ce mode recovery"⟩
  return {
    preflight
    nodeResults
    recoveryAssessment := assessment
    recoveryMode
    planToken := computeClusterMdPlanToken .stopMd name recoveryMode req.primarySanId
      assessment.nodeReports
    confirmationPhrase := expectedClusterStopConfirmation name recoveryMode }

def assembleSources (preflight : ClusterStoragePreflightResult) (primarySanId : String)
    (sourceMembers : List String) : List String :=
  if sourceMembers ≠ [] then sourceMembers
  else ((preflight.perNodePreflights.lookup primarySanId).map (·.impactedDevices)).getD []

def complete (members : List String) : Bool := members ≠ [] && members.all (· != "")

/-- The members to assemble on a node: the mapped selection or, where it has gaps,
what the node's own scan found. -/
def assemblyMembers (mappings : List ClusterDiskMapping) (primarySanId : String)
    (sources : List String) (node : ClusterStorageNodeInventory)
    (report : MdArrayNodeStateReport) : List String :=
  let mapped := if node.sanId = primarySanId then sources
    else sources.map fun sourcePath => (mappedTarget mappings sourcePath node.sanId).getD ""
  if !complete mapped && report.members ≠ [] then report.members else mapped

def assembleNodeResult (mappings : List ClusterDiskMapping) (primarySanId effectiveName : String)
    (recoveryMode : ClusterMdRecoveryMode) (sources : List String)
    (node : ClusterStorageNodeInventory) (report : MdArrayNodeStateReport) :
    Except HttpError ClusterMdNodeResult :=
  let canAssemble := report.state == .stopped || report.state == .metadataOnly
  let result : ClusterMdNodeResult :=
    { sanId := node.sanId
      label := node.label
      role := node.role
      source := if node.sanId = primarySanId then .primary else .peer
      nodeState := some report.state
      arrayPath := some s!"/dev/{effectiveName}"
      participation := .blocked }
  if report.nodeBlockers.length > 0 && canAssemble then
    .ok { result with error := some (join "; " report.nodeBlockers) }
  else if !(canAssemble &&
      (recoveryMode == .assembleStoppedNodes || recoveryMode == .assembleMissingOnly)) then
    .ok { result with
      members := report.members
      devices := report.members
      participation := .skip
      status := .skipped
      skipReason := some (skipText (skipReasonForAssembleState report.state)) }
  else
    let members := assemblyMembers mappings primarySanId sources node report
    if !complete members then
      .ok { result with error := some "Membres introuvables pour l'assemblage sur ce nœud" }
    else
      (buildMdAssembleCommand effectiveName members).map fun command =>
        { result with
          participation := .execute
          members
          devices := members
          command := some command }

def buildAssembleNodeResultsFromAssessment (preflight : ClusterStoragePreflightResult)
    (primarySanId effectiveName : String) (recoveryMode : ClusterMdRecoveryMode)
    (nodeReports : List MdArrayNodeStateReport) (sourceMembers : List String) :
    Except HttpError (List ClusterMdNodeResult) := do
  let sources := assembleSources preflight primarySanId sourceMembers
  let reported ← withReports (orderNodes preflight.nodes primarySanId) nodeReports
  reported.mapM fun node =>
    assembleNodeResult preflight.mappings primarySanId effectiveName recoveryMode sources
      node.1 node.2

structure AssembleMdArrayRequest where
  name : String
  uuid : Option String := none
  members : List String := []
  targetName : Option String := none
  clusterExecution : ClusterMdExecutionRequest

def AssembleMdArrayRequest.effectiveName (req : AssembleMdArrayRequest) : String :=
  req.targetName.getD req.name

def AssembleMdArrayRequest.preflight (req : AssembleMdArrayRequest) :
    ClusterStoragePreflightRequest :=
  { primarySanId := req.clusterExecution.primarySanId
    action := .assembleMd
    payload :=
      { name := some req.name
        uuid := req.uuid
        members := req.members
        targetName := req.targetName }
    diskMappings := req.clusterExecution.diskMappings }

def buildAssembleMdClusterExecutionPlan (cluster : Cluster) (req : AssembleMdArrayRequest)
    (recoveryModeInput : Option ClusterMdRecoveryMode) :
    Except HttpError (ClusterMdPlan ClusterMdRecoveryMode) := do
  let primarySanId := req.clusterExecution.primarySanId
  let preflight ← runClusterStoragePreflight cluster req.preflight
  let assessment ← requireRecovery preflight "Évaluation recovery MD manquante"
  let recoveryMode ← resolveRecoveryMode assessment
    (recoveryModeInput.or req.clusterExecution.recoveryMode)
  let nodeResults ← buildAssembleNodeResultsFromAssessment preflight primarySanId
    req.effectiveName recoveryMode assessment.nodeReports req.members
  throwIf (nodesToExecute nodeResults = [])
    ⟨409, "Aucun nœud à exécuter pour ce mode recovery"⟩
  return {
    preflight
    nodeResults
    recoveryAssessment := assessment
    recoveryMode
    planToken := computeClusterMdPlanToken .assembleMd req.name recoveryMode primarySanId
      assessment.nodeReports
    confirmationPhrase := expectedClusterAssembleConfirmation req.effectiveName recoveryMode }

/-- What the two ways of removing metadata differ in. -/
structure CleanupKind where
  action : ClusterStorageAction
  commandBuilder : List String → String
  confirmationForMode : Option ClusterMdRecoveryMode → String

def zeroCleanup : CleanupKind :=
  ⟨.zeroMdSuperblocks, zeroCommands, expectedClusterCleanupConfirmation⟩

def wipeCleanup : CleanupKind :=
  ⟨.wipeMdSignatures, wipeCommands, expectedClusterWipeCleanupConfirmation⟩

def cleanupPreflight (kind : CleanupKind) (clusterExecution : ClusterMdExecutionRequest)
    (payload : Payload) : ClusterStoragePreflightRequest :=
  { primarySanId := clusterExecution.primarySanId
    action := kind.action
    payload
    diskMappings := clusterExecution.diskMappings }

def buildCleanupClusterExecutionPlan (cluster : Cluster) (kind : CleanupKind)
    (clusterExecution : ClusterMdExecutionRequest) (sourceMembers : List String)
    (payload : Payload) (recoveryModeInput : Option ClusterMdRecoveryMode) :
    Except HttpError (ClusterMdPlan (Option ClusterMdRecoveryMode)) := do
  let primarySanId := clusterExecution.primarySanId
  let preflight ← runClusterStoragePreflight cluster
    (cleanupPreflight kind clusterExecution payload)
  let assessment ← requireRecovery preflight "Évaluation recovery nettoyage MD manquante"
  let recoveryMode ← resolveCleanupRecoveryMode assessment
    (recoveryModeInput.or clusterExecution.recoveryMode)
  let nodeResults := buildCleanupNodeResults preflight.nodes primarySanId sourceMembers
    preflight.mappings preflight.perNodePreflights kind.commandBuilder
  throwIf (nodesToExecute nodeResults = []) ⟨409, "Aucun nœud nettoyable pour ce cluster"⟩
  return {
    preflight
    nodeResults
    recoveryAssessment := assessment
    recoveryMode
    planToken := computeCleanupMdPlanToken kind.action recoveryMode primarySanId nodeResults
    confirmationPhrase := kind.confirmationForMode recoveryMode }

structure ZeroMdSuperblocksRequest where
  name : Option String := none
  uuid : Option String := none
  members : List String
  clusterExecution : ClusterMdExecutionRequest

def ZeroMdSuperblocksRequest.payload (req : ZeroMdSuperblocksRequest) : Payload :=
  { members := req.members, name := req.name, uuid := req.uuid }

def buildZeroMdClusterExecutionPlan (cluster : Cluster) (req : ZeroMdSuperblocksRequest) :
    Except HttpError (ClusterMdPlan (Option ClusterMdRecoveryMode)) := do
  throwIf (req.members = []) ⟨400, "members requis"⟩
  buildCleanupClusterExecutionPlan cluster zeroCleanup req.clusterExecution req.members
    req.payload req.clusterExecution.recoveryMode

structure WipeMdSignaturesRequest where
  members : List String
  remainingSignatureTypes : List (String × List String) := []
  clusterExecution : ClusterMdExecutionRequest

def WipeMdSignaturesRequest.payload (req : WipeMdSignaturesRequest) : Payload :=
  { members := req.members, remainingSignatureTypes := req.remainingSignatureTypes }

def buildWipeMdClusterExecutionPlan (cluster : Cluster) (req : WipeMdSignaturesRequest) :
    Except HttpError (ClusterMdPlan (Option ClusterMdRecoveryMode)) :=
  buildCleanupClusterExecutionPlan cluster wipeCleanup req.clusterExecution req.members
    req.payload req.clusterExecution.recoveryMode

end

def validateDegradedClusterExecution (clusterExecution : ClusterMdExecutionRequest)
    (recoveryMode : ClusterMdRecoveryMode) (assessment : ClusterMdRecoveryAssessment)
    (planToken : String) : Except HttpError Unit := do
  let name := recoveryMode.name
  validateClusterMdPlanToken clusterExecution.planToken planToken
  throwIf (!assessment.allowedRecoveryModes.contains recoveryMode)
    ⟨400, s!"recoveryMode {name} non autorisé"⟩
  throwIf (!isSymmetricRecoveryMode recoveryMode && !clusterExecution.degradedOk)
    ⟨400, "clusterExecution.degradedOk=true requis pour une exécution dégradée"⟩

/-- Every node can be reached and executes. -/
structure AllNodesExecute (cluster : Cluster) (results : List ClusterMdNodeResult) : Prop where
  ready : ∀ node ∈ cluster.nodes, node.ready = true
  planned : (results.map (·.sanId)).Perm (cluster.nodes.map (·.sanId))
  execute : ∀ result ∈ results, result.participation = .execute

theorem recoveryAssessment_of_requireRecovery {preflight : ClusterStoragePreflightResult}
    {missing : String} {assessment : ClusterMdRecoveryAssessment}
    (h : requireRecovery preflight missing = .ok assessment) :
    preflight.recoveryAssessment = some assessment := by
  obtain ⟨found, hFound, h⟩ := bind_eq_ok.mp h
  obtain ⟨_, -, h⟩ := bind_eq_ok.mp h
  exact orThrow_eq_ok.mp (pure_eq_ok.mp h ▸ hFound)

theorem requireRecovery_eq_ok [CaseMapping] {cluster : Cluster} {req : ClusterStoragePreflightRequest}
    {run : PreflightRun cluster req} {missing : String} {assessment : ClusterMdRecoveryAssessment}
    (h : requireRecovery run.result missing = .ok assessment) :
    run.result.recoveryAssessment = some assessment ∧ assessment.hardBlockers = [] := by
  have hSome := recoveryAssessment_of_requireRecovery h
  obtain ⟨found, -, h⟩ := bind_eq_ok.mp h
  obtain ⟨_, hOk, -⟩ := bind_eq_ok.mp h
  refine ⟨hSome, run.hardBlockers_of_ok hSome ?_⟩
  have hAllowed := throwIf_eq_ok.mp hOk
  cases hDegraded : run.result.okDegraded with
  | true => exact Or.inl rfl
  | false => exact Or.inr (by simpa [hDegraded] using hAllowed)

theorem resolveRecoveryMode_eq_ok {assessment : ClusterMdRecoveryAssessment}
    {requested : Option ClusterMdRecoveryMode} {mode : ClusterMdRecoveryMode}
    (h : resolveRecoveryMode assessment requested = .ok mode) :
    mode ∈ assessment.allowedRecoveryModes := by
  have hFilter := orThrow_eq_ok.mp h
  simpa using (Option.filter_eq_some_iff.mp hFilter).2

section

variable [Host] {cluster : Cluster} {plan : ClusterMdPlan ClusterMdRecoveryMode}

theorem parts_of_buildStopMdClusterExecutionPlan {req : StopMdPlanRequest}
    (h : buildStopMdClusterExecutionPlan cluster req = .ok plan) :
    ∃ name, normalizeMdArrayName req.arrayName = .ok name ∧
      runClusterStoragePreflight cluster (req.preflight name) = .ok plan.preflight ∧
      requireRecovery plan.preflight "Évaluation recovery MD manquante" =
        .ok plan.recoveryAssessment ∧
      plan.recoveryMode ∈ plan.recoveryAssessment.allowedRecoveryModes ∧
      buildStopNodeResultsFromAssessment plan.preflight req.primarySanId name plan.recoveryMode
        plan.recoveryAssessment.nodeReports = .ok plan.nodeResults ∧
      nodesToExecute plan.nodeResults ≠ [] ∧
      plan.planToken = computeClusterMdPlanToken .stopMd name plan.recoveryMode req.primarySanId
        plan.recoveryAssessment.nodeReports := by
  obtain ⟨name, hName, h⟩ := bind_eq_ok.mp h
  obtain ⟨preflight, hPreflight, h⟩ := bind_eq_ok.mp h
  obtain ⟨assessment, hAssessment, h⟩ := bind_eq_ok.mp h
  obtain ⟨mode, hMode, h⟩ := bind_eq_ok.mp h
  obtain ⟨nodeResults, hResults, h⟩ := bind_eq_ok.mp h
  obtain ⟨_, hExecute, h⟩ := bind_eq_ok.mp h
  cases pure_eq_ok.mp h
  exact ⟨name, hName, hPreflight, hAssessment, resolveRecoveryMode_eq_ok hMode, hResults,
    throwIf_eq_ok.mp hExecute, rfl⟩

theorem parts_of_buildAssembleMdClusterExecutionPlan {req : AssembleMdArrayRequest}
    {recoveryModeInput : Option ClusterMdRecoveryMode}
    (h : buildAssembleMdClusterExecutionPlan cluster req recoveryModeInput = .ok plan) :
    runClusterStoragePreflight cluster req.preflight = .ok plan.preflight ∧
      requireRecovery plan.preflight "Évaluation recovery MD manquante" =
        .ok plan.recoveryAssessment ∧
      plan.recoveryMode ∈ plan.recoveryAssessment.allowedRecoveryModes ∧
      buildAssembleNodeResultsFromAssessment plan.preflight req.clusterExecution.primarySanId
        req.effectiveName plan.recoveryMode plan.recoveryAssessment.nodeReports req.members =
          .ok plan.nodeResults ∧
      nodesToExecute plan.nodeResults ≠ [] ∧
      plan.planToken = computeClusterMdPlanToken .assembleMd req.name plan.recoveryMode
        req.clusterExecution.primarySanId plan.recoveryAssessment.nodeReports := by
  obtain ⟨preflight, hPreflight, h⟩ := bind_eq_ok.mp h
  obtain ⟨assessment, hAssessment, h⟩ := bind_eq_ok.mp h
  obtain ⟨mode, hMode, h⟩ := bind_eq_ok.mp h
  obtain ⟨nodeResults, hResults, h⟩ := bind_eq_ok.mp h
  obtain ⟨_, hExecute, h⟩ := bind_eq_ok.mp h
  cases pure_eq_ok.mp h
  exact ⟨hPreflight, hAssessment, resolveRecoveryMode_eq_ok hMode, hResults,
    throwIf_eq_ok.mp hExecute, rfl⟩

end

def ExecutesWhere (eligible : ClusterStorageNodeInventory → Prop)
    (nodes : List ClusterStorageNodeInventory) (results : List ClusterMdNodeResult) : Prop :=
  List.Forall₂ (fun node result =>
    result.sanId = node.sanId ∧ (result.participation = .execute ↔ eligible node)) nodes results

theorem executesWhere_map {eligible : ClusterStorageNodeInventory → Prop}
    {result : ClusterStorageNodeInventory → ClusterMdNodeResult}
    {nodes : List ClusterStorageNodeInventory} (hIds : ∀ node, (result node).sanId = node.sanId)
    (h : ∀ node ∈ nodes, (result node).participation = .execute ↔ eligible node) :
    ExecutesWhere eligible nodes (nodes.map result) := by
  apply List.forall₂_map_right_iff.mpr
  rw [List.forall₂_same]
  exact fun node hNode => ⟨hIds node, h node hNode⟩

section

variable {cluster : Cluster} {primarySanId : String} {results : List ClusterMdNodeResult}
  {eligible : ClusterStorageNodeInventory → Prop}
  (h : ExecutesWhere eligible (orderNodes cluster.nodes primarySanId) results)

include h

theorem ExecutesWhere.ids :
    results.map (·.sanId) = (orderNodes cluster.nodes primarySanId).map (·.sanId) :=
  map_eq_of_forall₂ h fun _ _ hOn => hOn.1

theorem ExecutesWhere.perm :
    (results.map (·.sanId)).Perm (cluster.nodes.map (·.sanId)) :=
  h.ids ▸ (orderNodes_perm _ _).map _

theorem ExecutesWhere.executes_iff {node : ClusterStorageNodeInventory}
    (hNode : node ∈ cluster.nodes) :
    node.sanId ∈ (nodesToExecute results).map (·.sanId) ↔ eligible node := by
  have hPerm := orderNodes_perm cluster.nodes primarySanId
  constructor
  · intro hExecuted
    obtain ⟨result, hResult, hId⟩ := List.mem_map.mp hExecuted
    obtain ⟨hResult, hParticipates⟩ := List.mem_filter.mp hResult
    obtain ⟨other, hOther, hOtherId, hExecute⟩ := exists_of_forall₂_right h hResult
    obtain rfl := Cluster.eq_of_sanId (hPerm.subset hOther) hNode (hOtherId.symm.trans hId)
    exact hExecute.mp (beq_iff_eq.mp hParticipates)
  · intro hEligible
    obtain ⟨result, hResult, hId, hExecute⟩ :=
      exists_of_forall₂_left h (hPerm.symm.subset hNode)
    exact List.mem_map.mpr
      ⟨result, List.mem_filter.mpr ⟨hResult, beq_iff_eq.mpr (hExecute.mpr hEligible)⟩, hId⟩

end

theorem withReports_classified {nodes some : List ClusterStorageNodeInventory}
    (hUnique : (nodes.map (·.sanId)).Nodup) (hSubset : some ⊆ nodes) (arrayName : String)
    (uuid : Option String) :
    withReports some (classifyClusterMdNodeStates nodes arrayName uuid) =
      .ok (some.map fun node => (node, classifyMdArrayNodeState node arrayName uuid)) := by
  apply mapM_ok
  intro node hNode
  rw [find_report hUnique (hSubset hNode)]
  rfl

end EsosWebui.Raid
