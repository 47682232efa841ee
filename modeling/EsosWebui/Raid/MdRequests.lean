import EsosWebui.Raid.MdRoutes

/-! The requests that change the arrays of a SAN: those that pass the guard of clustered SANs, and
those that do not ask it. -/
namespace EsosWebui.Raid

open Js

variable [Host]

def guardClusterExecution (san : Option SanSummary) (sanId : String)
    (clusterExecution : Option ClusterExecutionBody) :
    Except HttpError (Option ClusterExecutionBody) :=
  (assertClusteredSanAllowsMutation san sanId clusterExecution none).map fun
    | some (.cluster clusterExecution) => some clusterExecution
    | _ => none

structure StopMdArrayBody where
  confirmation : Option String := none
  clusterExecution : Option ClusterExecutionBody := none

def stopPlanRequest (arrayName : String) (clusterExecution : ClusterExecutionBody) :
    StopMdPlanRequest :=
  { primarySanId := clusterExecution.primarySanId, arrayName
    diskMappings := clusterExecution.diskMappings, recoveryMode := clusterExecution.recoveryMode }

def stopOnNode (arrayName : String) (answers : MdNodeAnswers) (node : ClusterMdNodeResult) :
    MdTraced NodeOutput := do
  answers.requireReady
  let stdout ← answers.stop node.sanId arrayName
  return { stdout }

def runClusterStopMdArray (nodes : MdNodes) (sanId arrayName : String)
    (confirmation : Option String) (clusterExecution : ClusterExecutionBody) :
    MdTraced MdResponse := do
  let name ← Traced.quiet (checked (normalizeMdArrayName arrayName))
  Traced.quiet (checked (validateClusterExecutionScope clusterExecution (confirmation.getD "")
    (some name)))
  if clusterExecution.executionScope = some .currentNodeOnly then
    nodes.here.requireReady
    let stdout ← nodes.here.stop sanId name
    return .stdout stdout
  else
    Traced.quiet (checked (throwIf (!isSet clusterExecution.clusterId)
      ⟨400, "clusterId ou nodeIds requis"⟩))
    let plan ← Traced.quiet (checked (buildStopMdClusterExecutionPlan nodes.cluster
      (stopPlanRequest name clusterExecution)))
    Traced.quiet (checked (validateDegradedClusterExecution
      clusterExecution.toClusterMdExecutionRequest plan.recoveryMode plan.recoveryAssessment
      plan.planToken))
    let phrase := plan.confirmationPhrase
    Traced.quiet (checked (throwIf (confirmation ≠ some phrase)
      ⟨400, s!"Confirmation invalide (attendu : \"{phrase}\")"⟩))
    let result ← executeTraced (fun position node => stopOnNode name (nodes.onNode position) node)
      .stopMd clusterExecution.primarySanId plan.nodeResults
    return .execution result

def expectedMdStopConfirmation (arrayName : String) : Except HttpError String :=
  (sanitizeArrayName arrayName).map fun name => s!"STOP {name}"

def handleStop (nodes : MdNodes) (sanId arrayName : String) (body : StopMdArrayBody) :
    MdTraced MdResponse := do
  Traced.quiet (checked (throwIf (arrayName = "") ⟨400, "name requis"⟩))
  let clusterCtx ← Traced.quiet (checked (guardClusterExecution nodes.san sanId
    body.clusterExecution))
  match clusterCtx with
  | some clusterExecution =>
    runClusterStopMdArray nodes sanId arrayName body.confirmation clusterExecution
  | none =>
    let expected ← Traced.quiet (checked (expectedMdStopConfirmation arrayName))
    Traced.quiet (checked (throwIf (body.confirmation ≠ some expected)
      ⟨400, s!"Confirmation invalide (attendu : \"{expected}\")"⟩))
    nodes.here.requireReady
    let stdout ← nodes.here.stop sanId arrayName
    return .stdout stdout

structure AssembleMdArrayBody where
  name : String := ""
  uuid : Option String := none
  members : List String := []
  targetName : Option String := none
  confirmation : Option String := none
  clusterExecution : Option ClusterExecutionBody := none

def AssembleMdArrayBody.request (body : AssembleMdArrayBody)
    (clusterExecution : ClusterExecutionBody) : AssembleMdArrayRequest :=
  { name := body.name, uuid := body.uuid, members := body.members, targetName := body.targetName
    clusterExecution := clusterExecution.toClusterMdExecutionRequest }

def assembleOnNode (body : AssembleMdArrayBody) (answers : MdNodeAnswers)
    (node : ClusterMdNodeResult) : MdTraced NodeOutput := do
  answers.requireReady
  let result ← answers.assemble node.sanId body.name body.targetName node.members
  return { stdout := result.stdout, command := some result.command }

def runClusterAssembleMdArray (nodes : MdNodes) (body : AssembleMdArrayBody)
    (clusterExecution : ClusterExecutionBody) : MdTraced MdResponse := do
  Traced.quiet (checked (throwIf (!isSet clusterExecution.clusterId)
    ⟨400, "clusterId ou nodeIds requis"⟩))
  let plan ← Traced.quiet (checked (buildAssembleMdClusterExecutionPlan nodes.cluster
    (body.request clusterExecution) clusterExecution.recoveryMode))
  Traced.quiet (checked (validateDegradedClusterExecution
    clusterExecution.toClusterMdExecutionRequest plan.recoveryMode plan.recoveryAssessment
    plan.planToken))
  let phrase := plan.confirmationPhrase
  Traced.quiet (checked (throwIf (body.confirmation ≠ some phrase)
    ⟨400, s!"Confirmation invalide (attendu : \"{phrase}\")"⟩))
  let result ← executeTraced (fun position node => assembleOnNode body (nodes.onNode position) node)
    .assembleMd clusterExecution.primarySanId plan.nodeResults
  return .execution result

def assembleHere (nodes : MdNodes) (sanId : String) (body : AssembleMdArrayBody) :
    MdTraced MdResponse := do
  nodes.here.requireReady
  let result ← nodes.here.assemble sanId body.name body.targetName body.members
  return .command result

def handleAssemble (nodes : MdNodes) (sanId : String) (body : AssembleMdArrayBody) :
    MdTraced MdResponse := do
  let effectiveName := body.targetName.getD body.name
  Traced.quiet (checked (throwIf (body.name = "") ⟨400, "name requis"⟩))
  Traced.quiet (checked (throwIf (!isValidMdArrayName effectiveName)
    ⟨400, "Nom de tableau MD invalide — spécifiez un nom cible valide (ex: md0)"⟩))
  let clusterCtx ← Traced.quiet (checked (guardClusterExecution nodes.san sanId
    body.clusterExecution))
  match clusterCtx with
  | some clusterExecution => runClusterAssembleMdArray nodes body clusterExecution
  | none =>
    let expected ← Traced.quiet (checked (expectedMdAssembleConfirmation effectiveName))
    Traced.quiet (checked (throwIf (body.confirmation ≠ some expected)
      ⟨400, s!"Confirmation invalide (attendu : \"{expected}\")"⟩))
    assembleHere nodes sanId body

structure AddMdMemberBody where
  device : String := ""
  intent : Option MdAddMemberIntent := none
  confirmation : Option String := none
  clusterExecution : Option ClusterExecutionBody := none

def AddMdMemberBody.request (body : AddMdMemberBody) (intent : MdAddMemberIntent)
    (clusterExecution : ClusterExecutionBody) : AddMdMemberRequest :=
  { device := body.device, intent
    clusterExecution := clusterExecution.toClusterMdExecutionRequest }

def addOnNode (arrayName : String) (answers : MdNodeAnswers)
    (node : AddMdMemberClusterNodeResult) : MdTraced String := do
  answers.requireReady
  answers.changeMember "--add" node.sanId arrayName node.device

def checkAddition (answers : MdNodeAnswers) (name : String) (intent : MdAddMemberIntent)
    (body : AddMdMemberBody) : MdTraced Unit := do
  answers.requireReady
  let overview ← Traced.quiet answers.overview
  let validation ← Traced.quiet (checked (validateMdAddDeviceRequest
    { name := some name, device := some body.device, intent := some intent }
    overview.1 overview.2 (some answers.tools)))
  Traced.quiet (checked (throwIf (validation.blockers ≠ [])
    ⟨409, join "; " validation.blockers⟩))
  let expected ← Traced.quiet (checked (match intent with
    | .replacement => expectedMdAddReplacementConfirmation name body.device
    | .spare => expectedMdAddSpareConfirmation name body.device))
  Traced.quiet (checked (throwIf (body.confirmation ≠ some expected)
    ⟨400, s!"Confirmation invalide (attendu : \"{expected}\")"⟩))

def runAddMdMember (nodes : MdNodes) (sanId arrayName : String) (intent : MdAddMemberIntent)
    (body : AddMdMemberBody) : MdTraced MdResponse := do
  let name ← Traced.quiet (checked (normalizeMdArrayName arrayName))
  let clusterCtx ← Traced.quiet (checked (guardClusterExecution nodes.san sanId
    body.clusterExecution))
  match clusterCtx with
  | none =>
    checkAddition nodes.here name intent body
    nodes.here.requireReady
    let stdout ← nodes.here.changeMember "--add" sanId name body.device
    return .stdout stdout
  | some clusterExecution =>
    Traced.quiet (checked (throwIf (!isSet clusterExecution.clusterId)
      ⟨400, "clusterId ou nodeIds requis"⟩))
    let plan ← Traced.quiet (checked (buildAddMdMemberExecutionPlanForCluster nodes.cluster name
      (body.request intent clusterExecution)))
    Traced.quiet (checked (validateClusterMdPlanToken clusterExecution.planToken plan.planToken))
    let phrase := plan.confirmationPhrase
    Traced.quiet (checked (throwIf (body.confirmation ≠ some phrase)
      ⟨400, s!"Confirmation invalide (attendu : \"{phrase}\")"⟩))
    let stdouts ← runPlanned (·.label) "Erreur ajout membre MD"
      (fun position node => addOnNode name (nodes.onNode position) node) plan.nodeResults
    return .added stdouts

def handleAdd (nodes : MdNodes) (sanId arrayName : String) (body : AddMdMemberBody) :
    MdTraced MdResponse := do
  Traced.quiet (checked (throwIf (arrayName = "") ⟨400, "name requis"⟩))
  Traced.quiet (checked (throwIf (body.device = "") ⟨400, "device requis"⟩))
  let intent ← Traced.quiet (checked (orThrow ⟨400, "intent requis"⟩ body.intent))
  Traced.quiet (checked (throwIf (!isSet body.confirmation) ⟨400, "confirmation requise"⟩))
  runAddMdMember nodes sanId arrayName intent body

def requireMember (arrayName device : String) : Except HttpError Unit := do
  throwIf (arrayName = "") ⟨400, "name requis"⟩
  throwIf (device = "") ⟨400, "device requis"⟩

def handleRemove (nodes : MdNodes) (sanId arrayName device : String)
    (confirmation : Option String) : MdTraced MdResponse := do
  Traced.quiet (checked (requireMember arrayName device))
  let expected := s!"REMOVE {device}"
  Traced.quiet (checked (throwIf (confirmation ≠ some expected)
    ⟨400, s!"Confirmation invalide (attendu : \"{expected}\")"⟩))
  nodes.here.requireReady
  let stdout ← nodes.here.changeMember "--remove" sanId arrayName device
  return .stdout stdout

def handleFaulty (nodes : MdNodes) (sanId arrayName device : String) : MdTraced MdResponse := do
  Traced.quiet (checked (requireMember arrayName device))
  nodes.here.requireReady
  let stdout ← nodes.here.changeMember "--fail" sanId arrayName device
  return .stdout stdout

def handleStoppedMdAssemble (nodes : MdNodes) (sanId : String) (body : AssembleMdArrayBody) :
    MdTraced MdResponse := do
  Traced.quiet (checked (throwIf (body.name = "") ⟨400, "name requis"⟩))
  let expected ← Traced.quiet (checked (expectedMdAssembleConfirmation body.name))
  Traced.quiet (checked (throwIf (body.confirmation ≠ some expected)
    ⟨400, s!"Confirmation invalide (attendu : \"{expected}\")"⟩))
  assembleHere nodes sanId body

inductive MdRequest where
  | create (body : CreateMdArrayBody)
  | prepare (body : PrepareMdPartitionsBody)
  | assemble (body : AssembleMdArrayBody)
  | stop (arrayName : String) (body : StopMdArrayBody)
  | clean (route : CleaningRoute) (body : CleaningBody)
  | add (arrayName : String) (body : AddMdMemberBody)
  | remove (arrayName device : String) (confirmation : Option String)
  | faulty (arrayName device : String)
  | stoppedAssemble (body : AssembleMdArrayBody)
  | stoppedZeroSuperblock (body : CleaningBody)

def cleaningTraced (cleaning : Traced Erasure NodeError CleaningResponse) : MdTraced MdResponse :=
  (cleaning.mapLog Erasure.nodeCommand) >>= fun response => pure (.cleaning response)

def MdRequest.handle (nodes : MdNodes) (sanId : String) : MdRequest → MdTraced MdResponse
  | create body => handleCreate nodes sanId body
  | prepare body => handlePrepare nodes sanId body
  | assemble body => handleAssemble nodes sanId body
  | stop arrayName body => handleStop nodes sanId arrayName body
  | clean route body => cleaningTraced (route.handler nodes.site sanId body)
  | add arrayName body => handleAdd nodes sanId arrayName body
  | remove arrayName device confirmation => handleRemove nodes sanId arrayName device confirmation
  | faulty arrayName device => handleFaulty nodes sanId arrayName device
  | stoppedAssemble body => handleStoppedMdAssemble nodes sanId body
  | stoppedZeroSuperblock body =>
    cleaningTraced (handleStoppedMdZeroSuperblock nodes.site sanId body)

end EsosWebui.Raid
