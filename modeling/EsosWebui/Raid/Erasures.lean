import EsosWebui.Js.Session
import EsosWebui.Raid.LocalRecovery
import EsosWebui.Raid.MetadataCleanups

/-! The routes that remove MD metadata, with the commands that they run on the nodes. -/
namespace EsosWebui.Raid

open Js

abbrev MdInventory := List RaidBlockDevice × List MdArray

/-- A command that removes metadata from a device of a node, with the inventory that its request
was checked against, if it was. -/
structure Erasure where
  sanId : String
  device : String
  command : String
  checkedAgainst : Option MdInventory
  deriving DecidableEq

/-- How the nodes answer while a request is handled: the one it is sent to, and those of a plan by
their position in the run. -/
structure MdSite where
  san : Option SanSummary
  cluster : Cluster
  here : NodeCleaningAnswers
  onNode : Nat → NodeCleaningAnswers

/-- The two routes share their body. -/
structure CleaningBody where
  name : Option String := none
  uuid : Option String := none
  members : List String := []
  /-- `body.mode === 'advanced'` -/
  advanced : Bool := false
  confirmation : Option String := none
  remainingSignatureTypes : List (String × List String) := []
  mdadmExamine : List (String × Bool) := []
  clusterExecution : Option ClusterExecutionBody := none
  localRecovery : Option MdLocalRecoveryRequest := none

inductive CleaningResponse where
  | standalone (response : ZeroMdSuperblocksResponse)
  | localRecovery (response : ZeroMdSuperblocksResponse)
  | cluster (result : ClusterCleanupResult)

section

variable [CaseMapping]

def MetadataCleanup.cleaner : MetadataCleanup → Cleaner
  | zero => zeroCleaner
  | wipe selection => wipeCleaner selection

def MetadataCleanup.eraseMember (cleanup : MetadataCleanup) (sanId : String)
    (checkedAgainst : Option MdInventory) (answers : PartitionAnswers) (member : String) :
    Traced Erasure HttpError Unit := do
  let device ← Traced.quiet (sanitizeMemberPath member)
  let commands ← Traced.quiet (cleanup.sent answers member)
  Traced.send (commands.map fun command => { sanId, device, command, checkedAgainst })

def MetadataCleanup.eraseMembers (cleanup : MetadataCleanup) (sanId : String)
    (checkedAgainst : Option MdInventory) (answers : CleaningAnswers) (members : List String) :
    Traced Erasure HttpError Unit := do
  Traced.quiet (throwIf (!answers.writeEnabled) writeDisabled)
  forM members.zipIdx fun (member, i) =>
    cleanup.eraseMember sanId checkedAgainst (answers.partition i) member

/-- `zeroMdSuperblocks` and `wipeMdSignatures`, with what they send. -/
def MetadataCleanup.erase (cleanup : MetadataCleanup) (sanId : String)
    (checkedAgainst : Option MdInventory) (answers : CleaningAnswers) (members : List String) :
    Traced Erasure NodeError ZeroMdSuperblocksResponse :=
  { log := (cleanup.eraseMembers sanId checkedAgainst answers members).log
    result := (cleanup.run answers members).mapError HttpError.thrown }

def MetadataCleanup.eraseChecked (cleanup : MetadataCleanup) (sanId : String)
    (answers : NodeCleaningAnswers) (members : List String) :
    Traced Erasure NodeError ZeroMdSuperblocksResponse := do
  Traced.quiet (throwIf (!answers.ready) (HttpError.thrown ⟨503, "SSH non connecté"⟩))
  let inventory ← Traced.quiet answers.overview
  match cleanup.cleaner.validate members inventory.1 inventory.2 with
  | blocker :: _ => Traced.quiet (.error (HttpError.thrown ⟨400, blocker⟩))
  | [] => cleanup.erase sanId (some inventory) answers.cleaning members

end

/-- The routes that remove the metadata of members, whatever array they are from. -/
inductive CleaningRoute where
  | zeroSuperblocks
  | wipeSignatures

namespace CleaningRoute

def cleanup (body : CleaningBody) : CleaningRoute → MetadataCleanup
  | zeroSuperblocks => .zero
  | wipeSignatures =>
    .wipe
      { remainingSignatureTypes := body.remainingSignatureTypes
        mdadmExamine := body.mdadmExamine }

def checkMode (advanced : Bool) : CleaningRoute → Except HttpError Unit
  | zeroSuperblocks =>
    throwIf advanced ⟨400, "Utilisez POST /api/raid/software/arrays/wipe-signatures avec " ++
      "mode: \"advanced\" pour le nettoyage avancé"⟩
  | wipeSignatures =>
    throwIf (!advanced) ⟨400, "mode requis : \"advanced\" pour le nettoyage MD avancé"⟩

def expectedConfirm : CleaningRoute → String
  | zeroSuperblocks => mdZeroMetadataConfirmation
  | wipeSignatures => mdAdvancedCleanupConfirmation

variable [Host]

def buildPlan (cluster : Cluster) (body : CleaningBody) (clusterExecution : ClusterExecutionBody) :
    CleaningRoute → Except HttpError (ClusterMdPlan (Option ClusterMdRecoveryMode))
  | zeroSuperblocks => do
      throwIf (body.members = []) ⟨400, "members requis"⟩
      throwIf (!isSet clusterExecution.clusterId) ⟨400, "clusterId ou nodeIds requis"⟩
      buildZeroMdClusterExecutionPlan cluster
        { name := body.name, uuid := body.uuid, members := body.members
          clusterExecution := clusterExecution.toClusterMdExecutionRequest }
  | wipeSignatures => do
      throwIf (!isSet clusterExecution.clusterId) ⟨400, "clusterId ou nodeIds requis"⟩
      buildWipeMdClusterExecutionPlan cluster
        { members := body.members, remainingSignatureTypes := body.remainingSignatureTypes
          clusterExecution := clusterExecution.toClusterMdExecutionRequest }

/-- What is sent to the nodes of a plan that something was run on. -/
def ranErasures (cleanup : MetadataCleanup) (onNode : Nat → NodeCleaningAnswers)
    (nodes : List ClusterMdNodeResult) (ran : List Nat) : List Erasure :=
  ran.zipIdx.flatMap fun (ref, position) =>
    let node := nodeAt nodes ref
    (cleanup.eraseChecked node.sanId (onNode position) node.members).log

/-- `runClusterZeroMdSuperblocks` and `runClusterWipeMdSignatures` -/
def runCluster (route : CleaningRoute) (site : MdSite) (body : CleaningBody)
    (clusterExecution : ClusterExecutionBody) : Traced Erasure NodeError ClusterCleanupResult := do
  let cleanup := route.cleanup body
  let execution := clusterExecution.toClusterMdExecutionRequest
  let plan ← Traced.quiet (checked (route.buildPlan site.cluster body clusterExecution))
  Traced.quiet (checked (confirmCleanup execution body.confirmation plan))
  Traced.send (ranErasures cleanup site.onNode plan.nodeResults
    (executeCleanup cleanup.cleaner execution.primarySanId plan site.onNode).ran)
  Traced.quiet ((runClusterCleanup cleanup.cleaner execution body.confirmation plan
    site.onNode).mapError fun error => error.1.thrown)

/-- `runLocalZeroMdSuperblocks` and `runLocalWipeMdSignatures`; no preflight is given. -/
def runLocal (route : CleaningRoute) (site : MdSite) (sanId : String) (body : CleaningBody)
    (localRecovery : MdLocalRecoveryRequest) :
    Traced Erasure NodeError ZeroMdSuperblocksResponse := do
  Traced.quiet (checked (assertMutualExclusiveClusterAndLocal body.clusterExecution
    (some localRecovery)))
  let _ ← Traced.quiet (checked (validateLocalRecoveryForCleanup site.san
    { querySanId := sanId, localRecovery, requestMembers := body.members
      clusterExecution := body.clusterExecution }))
  (route.cleanup body).eraseChecked sanId site.here body.members

def runStandalone (route : CleaningRoute) (site : MdSite) (sanId : String) (body : CleaningBody) :
    Traced Erasure NodeError ZeroMdSuperblocksResponse := do
  let phrase := route.expectedConfirm
  Traced.quiet (checked (throwIf (body.confirmation ≠ some phrase)
    ⟨400, s!"Confirmation invalide (attendu : \"{phrase}\")"⟩))
  (route.cleanup body).eraseChecked sanId site.here body.members

def handler (route : CleaningRoute) (site : MdSite) (sanId : String) (body : CleaningBody) :
    Traced Erasure NodeError CleaningResponse := do
  Traced.quiet (checked (throwIf (body.members = []) ⟨400, "members requis"⟩))
  Traced.quiet (checked (route.checkMode body.advanced))
  Traced.quiet (checked (assertMutualExclusiveClusterAndLocal body.clusterExecution
    body.localRecovery))
  let clusterCtx ← Traced.quiet (checked (assertClusteredSanAllowsMutation site.san sanId
    body.clusterExecution body.localRecovery))
  match clusterCtx with
  | some (.local localRecovery) =>
    let response ← route.runLocal site sanId body localRecovery
    return .localRecovery response
  | some (.cluster clusterExecution) =>
    let result ← route.runCluster site body clusterExecution
    return .cluster result
  | none =>
    let response ← route.runStandalone site sanId body
    return .standalone response

end CleaningRoute

def handleStoppedMdZeroSuperblock [CaseMapping] (site : MdSite) (sanId : String)
    (body : CleaningBody) : Traced Erasure NodeError CleaningResponse := do
  let phrase := mdZeroMetadataConfirmation
  Traced.quiet (checked (throwIf (!isSet body.name) ⟨400, "name requis"⟩))
  Traced.quiet (checked (throwIf (body.members = []) ⟨400, "members requis"⟩))
  Traced.quiet (checked (throwIf (body.confirmation ≠ some phrase)
    ⟨400, s!"Confirmation invalide (attendu : \"{phrase}\")"⟩))
  Traced.quiet (throwIf (!site.here.ready) (HttpError.thrown ⟨503, "SSH non connecté"⟩))
  let response ← MetadataCleanup.zero.erase sanId none site.here.cleaning body.members
  return .standalone response

inductive CleaningRequest where
  | cleaning (route : CleaningRoute) (body : CleaningBody)
  | stoppedZeroSuperblock (body : CleaningBody)

def CleaningRequest.handle [Host] (site : MdSite) (sanId : String) :
    CleaningRequest → Traced Erasure NodeError CleaningResponse
  | cleaning route body => route.handler site sanId body
  | stoppedZeroSuperblock body => handleStoppedMdZeroSuperblock site sanId body

end EsosWebui.Raid
