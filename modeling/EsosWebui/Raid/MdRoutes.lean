import EsosWebui.Raid.Erasures
import EsosWebui.Raid.TokenBinding

/-! The routes that change the arrays of a SAN, with the commands that they send to its nodes. -/
namespace EsosWebui.Raid

open Js

structure NodeCommand where
  sanId : String
  command : String
  deriving DecidableEq

structure MdNodeAnswers extends NodeCleaningAnswers where
  tools : RaidToolsInfo := {}
  shell : Nat → RemoteShell

def MdNodeAnswers.writeEnabled (answers : MdNodeAnswers) : Bool := answers.cleaning.writeEnabled

/-- How the nodes answer while a request is handled: the one it is sent to, and those of a plan by
their position in the run. -/
structure MdNodes where
  san : Option SanSummary
  cluster : Cluster
  here : MdNodeAnswers
  onNode : Nat → MdNodeAnswers

def MdNodes.site (nodes : MdNodes) : MdSite where
  san := nodes.san
  cluster := nodes.cluster
  here := nodes.here.toNodeCleaningAnswers
  onNode position := (nodes.onNode position).toNodeCleaningAnswers

abbrev MdTraced (α : Type) := Traced NodeCommand NodeError α

namespace MdNodeAnswers

def requireReady (answers : MdNodeAnswers) : MdTraced Unit :=
  Traced.quiet (throwIf (!answers.ready) (HttpError.thrown ⟨503, "SSH non connecté"⟩))

def sent (answers : MdNodeAnswers) (sanId : String) (command : Except HttpError String) :
    List NodeCommand :=
  match command with
  | .ok command => if answers.writeEnabled then [{ sanId, command := wrapCommand command }] else []
  | .error _ => []

def stop (answers : MdNodeAnswers) (sanId arrayName : String) : MdTraced String where
  log := answers.sent sanId (stopCommand arrayName)
  result := stopMdArray answers.writeEnabled (answers.shell 0) arrayName

/-- `--add`, `--fail` or `--remove` -/
def changeMember (answers : MdNodeAnswers) (option sanId arrayName device : String) :
    MdTraced String where
  log := answers.sent sanId (memberCommand option arrayName device)
  result := Raid.changeMember option answers.writeEnabled (answers.shell 0) arrayName device

def assemble (answers : MdNodeAnswers) (sanId name : String) (targetName : Option String)
    (members : List String) : MdTraced MdCommandResult where
  log := answers.sent sanId (assembleCommand name targetName members)
  result := assembleMdArray answers.writeEnabled (answers.shell 0) name targetName members

def create (answers : MdNodeAnswers) (sanId : String) (req : MdCreatePayload)
    (planCommand : Option String) : MdTraced MdCommandResult where
  log := answers.sent sanId ((createCommand req planCommand).map (·.2))
  result := createMdArrayFromPlan answers.writeEnabled (answers.shell 0) req planCommand

/-- The commands of a preparation, up to the first that fails. -/
def sentToPrepare (answers : MdNodeAnswers) (sanId : String) :
    Nat → List String → List NodeCommand
  | _, [] => []
  | position, command :: commands =>
    { sanId, command := wrapCommand command } ::
      match answers.shell position (wrapCommand command) with
      | .ok output =>
        if isPrepareFailure output.stdout then []
        else answers.sentToPrepare sanId (position + 1) commands
      | .error _ => []

def prepare (answers : MdNodeAnswers) (sanId : String) (commands preparedPartitions : List String) :
    MdTraced PrepareMdPartitionsResponse where
  log := if answers.writeEnabled then answers.sentToPrepare sanId 0 commands else []
  result := prepareMdPartitions answers.writeEnabled answers.shell commands preparedPartitions

end MdNodeAnswers

def Erasure.nodeCommand (e : Erasure) : NodeCommand := { sanId := e.sanId, command := e.command }

/-- `executeClusterMdNodes`, for nodes that are not named by the caller. -/
def executeTraced (runOnNode : Nat → ClusterMdNodeResult → MdTraced NodeOutput)
    (action : ClusterStorageAction) (primarySanId : String) (nodes : List ClusterMdNodeResult) :
    MdTraced ClusterMdExecutionResult :=
  let execution := executeNodes (fun position node => (runOnNode position node).result) action
    primarySanId nodes false
  { log := execution.ran.zipIdx.flatMap fun (ref, position) =>
      (runOnNode position (running (nodeAt nodes ref))).log
    result := execution.outcome.mapError fun error => error.1.thrown }

/-- What is thrown when one of the nodes fails. -/
def labelledError (label missing : String) (err : NodeError) : NodeError :=
  let error := (err.statusMessage.or err.message).getD missing
  { statusCode := some (err.statusCode.getD 500), statusMessage := some s!"{label} : {error}" }

/-- The nodes of a plan one after the other, up to the first that fails. -/
def runPlanned {node α : Type} (label : node → String) (missing : String)
    (run : Nat → node → MdTraced α) (nodes : List node) : MdTraced (List α) :=
  nodes.zipIdx.mapM fun (planned, position) =>
    (run position planned).mapError (labelledError (label planned) missing)

structure CreateMdArrayBody where
  name : String := ""
  level : String := ""
  devices : List String := []
  chunkKb : Option Nat := none
  raidDevices : Option Nat := none
  confirmation : Option String := none
  clusterExecution : Option ClusterExecutionBody := none

def CreateMdArrayBody.payload (body : CreateMdArrayBody) : MdCreatePayload :=
  { name := body.name, level := body.level, devices := body.devices
    chunkKb := body.chunkKb.getD 64, raidDevices := body.raidDevices }

def requireClusterExecution (clusterId sanId blocked : String)
    (clusterExecution : Option ClusterExecutionBody) : Except HttpError ClusterExecutionBody := do
  let clusterExecution ← orThrow ⟨409, blocked⟩ clusterExecution
  throwIf (clusterExecution.primarySanId ≠ sanId)
    ⟨400, "primarySanId doit correspondre au SAN courant"⟩
  throwIf (isSet clusterExecution.clusterId ∧ clusterExecution.clusterId ≠ some clusterId)
    ⟨400, "clusterId ne correspond pas au SAN courant"⟩
  return clusterExecution

variable [Host]

/-- The preflight of a plan for all nodes, which has to be passed. -/
def requirePreflight (cluster : Cluster) (clusterExecution : ClusterExecutionBody)
    (action : ClusterStorageAction) (payload : Payload) :
    Except HttpError ClusterStoragePreflightResult := do
  throwIf (clusterExecution.primarySanId = "") ⟨400, "clusterExecution.primarySanId requis"⟩
  throwIf (!clusterExecution.requirePreflightOk)
    ⟨400, "clusterExecution.requirePreflightOk=true requis"⟩
  throwIf (!isSet clusterExecution.clusterId) ⟨400, "clusterId ou nodeIds requis"⟩
  let preflight ← runClusterStoragePreflight cluster
    { primarySanId := clusterExecution.primarySanId, action, payload
      diskMappings := clusterExecution.diskMappings }
  let blockers := join "; " preflight.blockers
  throwIf (!preflight.ok) ⟨409, s!"Préflight stockage cluster non validé : {blockers}"⟩
  return preflight

def buildCreateMdArrayClusterExecutionPlan (cluster : Cluster) (req : MdCreatePayload)
    (clusterExecution : ClusterExecutionBody) :
    Except HttpError (ClusterStoragePreflightResult × List CreateMdArrayNodeResult) := do
  let request : CreateMdArrayRequest :=
    { name := req.name, level := req.level, devices := req.devices, chunkKb := req.chunkKb
      clusterExecution := some ⟨clusterExecution.primarySanId⟩ }
  let preflight ← requirePreflight cluster clusterExecution .createMd (createMdPayload request)
  let nodeResults ← buildCreateMdArrayNodeResults preflight request
  return (preflight, nodeResults)

def normalizeAndAssertMdCreateRequest (req : MdCreatePayload) (blockDevices : List RaidBlockDevice)
    (mdArrays : List MdArray) : Except HttpError MdCreatePayload := do
  let validation ← validateMdCreateRequest
    { name := some req.name, level := some req.level, devices := req.devices
      chunkKb := some req.chunkKb, raidDevices := req.raidDevices } blockDevices mdArrays
  throwIf (validation.blockers.length > 0) ⟨400, join "; " validation.blockers⟩
  normalizeMdCreatePayload req

def createOnNode (req : MdCreatePayload) (answers : MdNodeAnswers)
    (node : CreateMdArrayNodeResult) : MdTraced MdCommandResult := do
  let planned := node.command
  Traced.quiet (checked (throwIf (planned = "") ⟨400, "Commande MD planifiée manquante"⟩))
  answers.requireReady
  let overview ← Traced.quiet answers.overview
  let normalized ← Traced.quiet (checked (normalizeAndAssertMdCreateRequest
    { req with devices := node.devices } overview.1 overview.2))
  let rebuilt ← Traced.quiet (checked (buildMdCreateCommand normalized.name normalized.level
    normalized.devices normalized.chunkKb))
  Traced.quiet (checked (throwIf (rebuilt ≠ planned) ⟨400,
    s!"Commande MD planifiée différente de la commande d'exécution : {planned} != {rebuilt}"⟩))
  answers.create node.sanId normalized (some planned)

/-- What is returned for the arrays of one node or of all nodes of a plan. -/
inductive MdResponse where
  | stdout (stdout : String)
  | command (result : MdCommandResult)
  | prepared (response : PrepareMdPartitionsResponse)
  | created (results : List MdCommandResult)
  | preparedNodes (responses : List PrepareMdPartitionsResponse)
  | added (stdouts : List String)
  | execution (result : ClusterMdExecutionResult)
  | cleaning (response : CleaningResponse)

def handleCreate (nodes : MdNodes) (sanId : String) (body : CreateMdArrayBody) :
    MdTraced MdResponse := do
  let level := body.level
  Traced.quiet (checked (throwIf (body.name = "" ∨ level = "") ⟨400, "name et level requis"⟩))
  Traced.quiet (checked (throwIf (level ∉ mdRaidLevels) ⟨400, s!"Niveau RAID invalide : {level}"⟩))
  Traced.quiet (checked (throwIf (!isSet body.confirmation) ⟨400, "confirmation requise"⟩))
  let expected ← Traced.quiet (checked (expectedMdCreateConfirmation body.name))
  Traced.quiet (checked (throwIf (body.confirmation ≠ some expected)
    ⟨400, s!"Confirmation invalide (attendu : \"{expected}\")"⟩))
  let request ← Traced.quiet (checked (normalizeMdCreatePayload body.payload))
  match clusterOf nodes.san with
  | some clusterId =>
    let clusterExecution ← Traced.quiet (checked (requireClusterExecution clusterId sanId
      ("Création MD bloquée pour SAN clusterisé : validez le stockage sur tous les nœuds et " ++
        "utilisez le flux multi-nœud. Sync config ne crée pas les superblocks MD sur les pairs.")
      body.clusterExecution))
    let plan ← Traced.quiet (checked (buildCreateMdArrayClusterExecutionPlan nodes.cluster
      request clusterExecution))
    let results ← runPlanned (·.label) "Erreur création MD array"
      (fun position node => createOnNode request (nodes.onNode position) node) plan.2
    return .created results
  | none =>
    nodes.here.requireReady
    let overview ← Traced.quiet nodes.here.overview
    let req ← Traced.quiet (checked (normalizeAndAssertMdCreateRequest request overview.1
      overview.2))
    let result ← nodes.here.create sanId req none
    return .command result

structure PrepareMdPartitionsBody where
  disks : List String := []
  partitionTable : Option String := none
  allowOverwriteSignatures : Bool := false
  confirmation : Option String := none
  clusterExecution : Option ClusterExecutionBody := none

def PrepareMdPartitionsBody.request (body : PrepareMdPartitionsBody) (disks : List String) :
    PrepareMdPartitionsRequest :=
  { disks, partitionTable := body.partitionTable
    allowOverwriteSignatures := body.allowOverwriteSignatures
    clusterExecution := body.clusterExecution.map fun clusterExecution =>
      ⟨clusterExecution.primarySanId⟩ }

omit [Host] in
def Validation.commands (validation : Validation) : List String :=
  ((validation.commandPreview.map fun text =>
    (text.toList.splitOn '\n').map String.ofList).getD []).filter (· != "")

def assertValidPrepareMdPartitionsRequest (req : PrepareMdPartitionsRequest)
    (blockDevices : List RaidBlockDevice) (tools : RaidToolsInfo) : Except HttpError Validation :=
  let validation := validatePrepareMdPartitionsRequest (prepareMdPartitionsPayload req) blockDevices
    tools
  (throwIf (validation.blockers.length > 0) ⟨400, join "; " validation.blockers⟩).map fun _ =>
    validation

def prepareOnNode (req : PrepareMdPartitionsRequest) (answers : MdNodeAnswers) (sanId : String) :
    MdTraced PrepareMdPartitionsResponse := do
  answers.requireReady
  let overview ← Traced.quiet answers.overview
  let validation ← Traced.quiet (checked (assertValidPrepareMdPartitionsRequest req overview.1
    answers.tools))
  answers.prepare sanId validation.commands (validation.preparedPartitionPreview.map (·.2))

def buildPrepareMdPartitionsClusterExecutionPlan (cluster : Cluster)
    (body : PrepareMdPartitionsBody) (clusterExecution : ClusterExecutionBody) :
    Except HttpError (ClusterStoragePreflightResult × List PrepareMdPartitionsNodePlan) := do
  let req := body.request body.disks
  let preflight ← requirePreflight cluster clusterExecution .prepareMdPartitions
    (prepareMdPartitionsPayload req)
  let nodePlans ← buildPrepareMdPartitionsNodePlans preflight req
  return (preflight, nodePlans)

def handlePrepare (nodes : MdNodes) (sanId : String) (body : PrepareMdPartitionsBody) :
    MdTraced MdResponse := do
  let phrase := prepareMdPartitionsConfirmation
  Traced.quiet (checked (throwIf (body.disks = []) ⟨400, "disks requis"⟩))
  Traced.quiet (checked (throwIf (body.confirmation ≠ some phrase)
    ⟨400, s!"Confirmation invalide (attendu : \"{phrase}\")"⟩))
  match clusterOf nodes.san with
  | some clusterId =>
    let clusterExecution ← Traced.quiet (checked (requireClusterExecution clusterId sanId
      ("Préparation de partitions RAID bloquée pour SAN clusterisé : validez le stockage sur " ++
        "tous les nœuds et utilisez le flux multi-nœud. Sync config ne crée pas les " ++
        "partitions sur les pairs.")
      body.clusterExecution))
    let plan ← Traced.quiet (checked (buildPrepareMdPartitionsClusterExecutionPlan nodes.cluster
      body clusterExecution))
    let responses ← runPlanned (·.label) "Erreur préparation partitions RAID"
      (fun position node =>
        prepareOnNode (body.request node.disks) (nodes.onNode position) node.sanId) plan.2
    return .preparedNodes responses
  | none =>
    let response ← prepareOnNode (body.request body.disks) nodes.here sanId
    return .prepared response

end EsosWebui.Raid
