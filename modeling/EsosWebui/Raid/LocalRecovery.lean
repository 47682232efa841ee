import EsosWebui.Raid.CleanupRuns

/-! The guard of MD changes on a clustered SAN, and what a recovery on one of its nodes has to
say of itself. -/
namespace EsosWebui.Raid

open Js

/-- What is known of a SAN, as far as it is asked for. -/
structure SanSummary where
  label : String
  clusterId : Option String := none

inductive ExecutionScope where
  | allNodes
  | currentNodeOnly
  deriving DecidableEq

/-- `clusterExecution` of a request, with the fields that its guards look at. -/
structure ClusterExecutionBody extends ClusterMdExecutionRequest where
  clusterId : Option String := none
  requirePreflightOk : Bool := true
  executionScope : Option ExecutionScope := none

inductive MdLocalRecoveryReason where
  | mappingAmbiguous
  | peerUnreachable
  | operatorDeclaredDegraded
  | peerSuperblockBlocksCreate
  deriving DecidableEq

/-- `localRecovery` of a request; a text that is missing is empty. -/
structure MdLocalRecoveryRequest where
  scope : String := "local"
  sanId : String
  members : List String
  confirmation : String
  reason : Option MdLocalRecoveryReason := none

/-- What `localRecovery?.scope === 'local'` leaves of it. -/
def asLocal (localRecovery : Option MdLocalRecoveryRequest) : Option MdLocalRecoveryRequest :=
  localRecovery.filter (·.scope == "local")

def clusterMdBlockedMessage : String :=
  "Action MD bloquée pour SAN clusterisé : validez le stockage sur tous les nœuds et utilisez " ++
    "le flux multi-nœud. Une exécution sur un seul nœud créerait un état cluster incohérent. " ++
    "Sync config n'arrête ni ne démarre pas les tableaux MD sur les pairs."

def assertMutualExclusiveClusterAndLocal (clusterExecution : Option ClusterExecutionBody)
    (localRecovery : Option MdLocalRecoveryRequest) : Except HttpError Unit :=
  throwIf (clusterExecution.isSome && (asLocal localRecovery).isSome)
    ⟨400, "clusterExecution et localRecovery sont mutuellement exclusifs"⟩

/-- How a change of a clustered SAN is made. -/
inductive ClusteredMdMutation where
  | cluster (clusterExecution : ClusterExecutionBody)
  | local (localRecovery : MdLocalRecoveryRequest)

def clusterOf (san : Option SanSummary) : Option String :=
  (san.bind (·.clusterId)).filter (· != "")

def assertClusteredSanAllowsMutation (san : Option SanSummary) (sanId : String)
    (clusterExecution : Option ClusterExecutionBody)
    (localRecovery : Option MdLocalRecoveryRequest) :
    Except HttpError (Option ClusteredMdMutation) :=
  match clusterOf san with
  | none => .ok none
  | some clusterId => do
      assertMutualExclusiveClusterAndLocal clusterExecution localRecovery
      match asLocal localRecovery with
      | some localRecovery =>
        throwIf (localRecovery.sanId ≠ sanId)
          ⟨400, "localRecovery.sanId doit correspondre au SAN courant"⟩
        return some (.local localRecovery)
      | none =>
        let clusterExecution ← orThrow ⟨409, clusterMdBlockedMessage⟩ clusterExecution
        throwIf (clusterExecution.primarySanId ≠ sanId)
          ⟨400, "primarySanId doit correspondre au SAN courant"⟩
        throwIf (isSet clusterExecution.clusterId ∧ clusterExecution.clusterId ≠ some clusterId)
          ⟨400, "clusterId ne correspond pas au SAN courant"⟩
        throwIf (!clusterExecution.requirePreflightOk)
          ⟨400, "clusterExecution.requirePreflightOk=true requis"⟩
        return some (.cluster clusterExecution)

def expectedCurrentNodeOnlyStopConfirmation (name : String) : Except HttpError String :=
  (sanitizeArrayName name).map fun name => s!"STOP {name} ON CURRENT NODE ONLY"

def validateClusterExecutionScope (clusterExecution : ClusterExecutionBody)
    (confirmation : String) (arrayNameForOverride : Option String) : Except HttpError Unit :=
  if clusterExecution.executionScope ≠ some .currentNodeOnly then .ok ()
  else do
    let name ← orThrow ⟨400, "current_node_only n'est autorisé que pour l'arrêt MD"⟩
      (arrayNameForOverride.filter (· != ""))
    let expected ← expectedCurrentNodeOnlyStopConfirmation name
    throwIf (confirmation ≠ expected)
      ⟨400, s!"Confirmation current_node_only invalide (attendu : \"{expected}\")"⟩

def collapseBlanks : Text → Text
  | [] => []
  | c :: text =>
    if isSpace c then
      if text.head?.any isSpace then collapseBlanks text else ' ' :: collapseBlanks text
    else c :: collapseBlanks text

def sanitizeNodeLabel (label : String) : Except HttpError String :=
  let trimmed := String.ofList (collapseBlanks (trim label.toList))
  if trimmed = "" then .error ⟨400, "Libellé de nœud invalide pour la confirmation"⟩
  else .ok trimmed

/-- What the two removals of metadata ask for. -/
def expectedLocalCleanupConfirmation (nodeLabel : String) : Except HttpError String :=
  (sanitizeNodeLabel nodeLabel).map fun label => s!"CLEAN LOCAL NODE {label}"

def assertLocalRecoveryShape (localRecovery : MdLocalRecoveryRequest) : Except HttpError Unit := do
  throwIf (localRecovery.scope ≠ "local") ⟨400, "localRecovery.scope=\"local\" requis"⟩
  throwIf (trimString localRecovery.sanId = "") ⟨400, "localRecovery.sanId requis"⟩
  throwIf (localRecovery.members = []) ⟨400, "localRecovery.members requis"⟩
  throwIf (trimString localRecovery.confirmation = "")
    ⟨400, "localRecovery.confirmation requis"⟩

def assertMembersMatchLocalPayload [Host] (localMembers requestMembers : List String) :
    Except HttpError Unit :=
  throwIf (Host.sortByLocale localMembers ≠ Host.sortByLocale requestMembers)
    ⟨400, "localRecovery.members doit correspondre aux members de la requête"⟩

def assertPeerSuperblockCreateRecovery (san : Option SanSummary)
    (localRecovery : MdLocalRecoveryRequest) : Except HttpError Unit :=
  throwIf (localRecovery.reason = some .peerSuperblockBlocksCreate ∧ clusterOf san = none)
    ⟨400, "Recovery superblock pair réservée aux SAN clusterisés"⟩

/-- `MAPPING_BLOCKER_RE` -/
def isMappingBlocker (blocker : String) : Bool :=
  ["mapping ambigu", "mapping incomplet", "mapping manquant", "mapping invalide",
    "aucun équivalent"].any (includesLetters blocker.toList)

/-- `SYNC_LIMITATION_RE` -/
def isSyncLimitation (blocker : String) : Bool := includesLetters blocker.toList "sync config"

def isMappingAmbiguityClusterBlock (preflight : ClusterStoragePreflightResult) : Bool :=
  !preflight.ok &&
    preflight.blockers.all (fun b => isMappingBlocker b || isSyncLimitation b) &&
    (preflight.blockers.any isMappingBlocker ||
      preflight.mappings.any fun m => m.confidence == .none && m.candidates.length > 0)

/-- What the preflight of the cluster says of a recovery on one node; a recovery that is asked for
without one is not judged by it. -/
def judgeByPreflight (querySanId : String) :
    Option ClusterStoragePreflightResult → Except HttpError Unit
  | none => .ok ()
  | some preflight =>
    if isMappingAmbiguityClusterBlock preflight then .ok ()
    else if preflight.ok then
      .error ⟨400, "Recovery locale inutile : le préflight cluster est déjà validé"⟩
    else
      let blockers := join "; " preflight.blockers
      match (preflight.perNodePreflights.lookup querySanId).filter (!·.ok) with
      | some nodePreflight =>
        let nodeBlockers := join "; " nodePreflight.blockers
        .error ⟨409, s!"Préflight nœud local bloquant : {nodeBlockers}"⟩
      | none => .error ⟨409, s!"Recovery locale non autorisée : {blockers}"⟩

def getSanLabelForLocalRecovery (san : Option SanSummary) (sanId : String) : String :=
  (san.map (·.label)).getD sanId

structure LocalRecoveryInput where
  querySanId : String
  localRecovery : MdLocalRecoveryRequest
  requestMembers : List String
  clusterExecution : Option ClusterExecutionBody := none
  preflight : Option ClusterStoragePreflightResult := none

/-- A recovery for a peer's superblocks is not judged by the preflight at all. -/
def validateLocalRecoveryForCleanup [Host] (san : Option SanSummary) (input : LocalRecoveryInput) :
    Except HttpError String := do
  let localRecovery := input.localRecovery
  assertMutualExclusiveClusterAndLocal input.clusterExecution (some localRecovery)
  assertLocalRecoveryShape localRecovery
  throwIf (localRecovery.sanId ≠ input.querySanId)
    ⟨400, "localRecovery.sanId doit correspondre au SAN courant"⟩
  assertMembersMatchLocalPayload localRecovery.members input.requestMembers
  assertPeerSuperblockCreateRecovery san localRecovery
  if localRecovery.reason ≠ some .peerSuperblockBlocksCreate then
    judgeByPreflight input.querySanId input.preflight
  let expected ← expectedLocalCleanupConfirmation
    (getSanLabelForLocalRecovery san input.querySanId)
  throwIf (localRecovery.confirmation ≠ expected)
    ⟨400, s!"Confirmation recovery locale invalide (attendu : \"{expected}\")"⟩
  return expected

end EsosWebui.Raid
