import EsosWebui.Raid.MemberChecks

/-! The preflight of an action on one node. The texts that are only displayed
(usage, risk level, the commands of a wipe) are left out. -/
namespace EsosWebui.Raid

open Js

def matchesArray (name : String) (uuid : Option String) (arrName : String)
    (arrPath arrUuid : Option String) : Bool :=
  arrName == name || arrPath == some s!"/dev/{name}" || (isSet uuid && arrUuid == uuid)

def findStoppedMdArray (stoppedMdArrays : List StoppedMdArray) (name : String)
    (uuid : Option String) : Option StoppedMdArray :=
  stoppedMdArrays.find? fun arr => matchesArray name uuid arr.name arr.path arr.uuid

def findActiveArray (mdArrays : List MdArray) (name : String) (uuid : Option String) :
    Option MdArray :=
  mdArrays.find? fun arr => matchesArray name uuid arr.name (some arr.path) arr.uuid

def StoppedMdArray.presentPaths (arr : StoppedMdArray) : List String :=
  (arr.members.filter (·.present)).map (·.path)

def buildConfirmationPhrase (action : ClusterStorageAction) (payload : Payload) :
    Except HttpError String :=
  let name := payload.name.getD "md0"
  match action with
  | .createMd => .ok (((expectedMdCreateConfirmation name).toOption).getD s!"CREATE {name}")
  | .prepareMdPartitions => .ok prepareMdPartitionsConfirmation
  | .stopMd => .ok s!"STOP {name}"
  | .assembleMd =>
    let effectiveName := payload.targetName.getD name
    .ok (((expectedMdAssembleConfirmation effectiveName).toOption).getD
      s!"ASSEMBLE {effectiveName}")
  | .zeroMdSuperblocks => .ok mdZeroMetadataConfirmation
  | .wipeMdSignatures => .ok mdAdvancedCleanupConfirmation
  | .mdAddDevice =>
    let device := payload.device.getD ""
    match payload.intent with
    | some .replacement => expectedMdAddReplacementConfirmation name device
    | some .spare => expectedMdAddSpareConfirmation name device
    | none => expectedClusterAddMdMemberConfirmation name .spare

/-- `case .stop_md` of the preflight. -/
def stopMdPreflight (payload : Payload) (mdArrays : List MdArray) : Validation :=
  let arrName := payload.name.getD ""
  match mdArrays.find? fun a => a.name == arrName || a.path == arrName with
  | none => { blockers := [s!"Array {arrName} introuvable"] }
  | some arr =>
    let path := arr.path
    { blockers :=
        (if arr.usedBy.contains .mounted then [s!"{path} est monté, démontez-le d'abord"]
          else []) ++
        (if arr.usedBy.contains .lvm then [s!"{path} est utilisé par LVM"] else []) ++
        (if arr.usedBy.contains .scst then
          [s!"{path} est utilisé par SCST (retirez le device SCST d'abord)"] else [])
      warnings :=
        if arr.state == .recovering || arr.state == .resync then
          ["Array en cours de rebuild/resync — arrêter maintenant peut corrompre les données"]
        else []
      impactedDevices := [path] }

def assembleMembers (payload : Payload) (stopped : Option StoppedMdArray) : List String :=
  if payload.members ≠ [] then payload.members else (stopped.map (·.presentPaths)).getD []

def assembleMdPreflight (payload : Payload) (blockDevices : List RaidBlockDevice)
    (mdArrays : List MdArray) (stoppedMdArrays : List StoppedMdArray) :
    Except HttpError Validation := do
  let arrName := payload.name.getD ""
  let effectiveName := if isSet payload.targetName then payload.targetName.getD "" else arrName
  let stopped := findStoppedMdArray stoppedMdArrays arrName payload.uuid
  let members := assembleMembers payload stopped
  let usage (memberPath : String) : List String :=
    match blockDevices.find? (·.path == memberPath) with
    | none => []
    | some dev =>
      (if dev.usedBy.contains .mounted then [s!"{memberPath} est monté"] else []) ++
      (if dev.usedBy.contains .lvm then [s!"{memberPath} est utilisé par LVM"] else []) ++
      (if dev.usedBy.contains .scst then [s!"{memberPath} est utilisé par SCST"] else [])
  let blockers :=
    (if isValidMdArrayName effectiveName then []
      else ["Nom de tableau MD cible requis (ex: md0)"]) ++
    (if mdArrays.any fun a => a.name == effectiveName then
      [s!"Le tableau {effectiveName} est déjà actif"] else []) ++
    match stopped with
    | none => [s!"Tableau MD arrêté {arrName} introuvable sur ce nœud"]
    | some stopped =>
      (if stopped.stoppedState = .ambiguous then
        ["État du tableau ambigu — vérifiez les métadonnées avant assemblage"] else []) ++
      members.flatMap usage
  let commandPreview ←
    if isValidMdArrayName effectiveName then
      (buildMdAssembleCommand effectiveName members).map some
    else pure none
  return {
    blockers
    warnings :=
      if stopped.any fun stopped =>
          stopped.stoppedState == .incomplete && payload.members.length < stopped.raidDevices then
        ["Ensemble de membres incomplet — l'assemblage peut démarrer en mode dégradé"]
      else []
    impactedDevices := (stopped.map (·.presentPaths)).getD []
    commandPreview }

theorem impactedDevices_assembleMdPreflight {payload : Payload}
    {blockDevices : List RaidBlockDevice} {mdArrays : List MdArray}
    {stoppedMdArrays : List StoppedMdArray} {validation : Validation}
    (h : assembleMdPreflight payload blockDevices mdArrays stoppedMdArrays = .ok validation) :
    validation.impactedDevices =
      ((findStoppedMdArray stoppedMdArrays (payload.name.getD "") payload.uuid).map
        (·.presentPaths)).getD [] := by
  unfold assembleMdPreflight at h
  dsimp only at h
  generalize (if isSet payload.targetName = true then payload.targetName.getD ""
    else payload.name.getD "") = effectiveName at h
  split at h
  · obtain ⟨commandPreview, -, h⟩ := bind_eq_ok.mp h
    rw [← pure_eq_ok.mp h]
  · obtain ⟨commandPreview, -, h⟩ := bind_eq_ok.mp h
    rw [← pure_eq_ok.mp h]

def zeroMdSuperblocksPreflight (payload : Payload) (blockDevices : List RaidBlockDevice)
    (mdArrays : List MdArray) : Validation :=
  { blockers := validateZeroSuperblockMembers payload.members blockDevices mdArrays
    warnings :=
      ["Cette action supprime les métadonnées RAID sur les partitions sélectionnées (destructif)",
        "Le ré-assemblage du tableau ne sera plus possible après cette opération"]
    impactedDevices := payload.members
    commandPreview :=
      some (join "\n" (payload.members.map fun m => s!"mdadm --zero-superblock {m}")) }

def wipeMdSignaturesPreflight (payload : Payload) (blockDevices : List RaidBlockDevice)
    (mdArrays : List MdArray) : Validation :=
  { blockers := validateWipeSignatureMembers payload.members blockDevices mdArrays
    warnings :=
      ["Nettoyage avancé : wipefs ciblé puis mdadm --zero-superblock --force si examine " ++
        "détecte encore des métadonnées (destructif)"]
    impactedDevices := payload.members }

variable [CaseMapping]

/-- The part of the preflight that depends on the action. -/
def validateAction (action : ClusterStorageAction) (payload : Payload)
    (node : ClusterStorageNodeInventory) : Except HttpError Validation :=
  match action with
  | .createMd => validateMdCreateRequest payload node.blockDevices node.mdArrays
  | .prepareMdPartitions =>
    .ok (validatePrepareMdPartitionsRequest payload node.blockDevices
      (node.tools.getD emptyTools))
  | .stopMd => .ok (stopMdPreflight payload node.mdArrays)
  | .assembleMd =>
    assembleMdPreflight payload node.blockDevices node.mdArrays node.stoppedMdArrays
  | .zeroMdSuperblocks => .ok (zeroMdSuperblocksPreflight payload node.blockDevices node.mdArrays)
  | .wipeMdSignatures => .ok (wipeMdSignaturesPreflight payload node.blockDevices node.mdArrays)
  | .mdAddDevice => validateMdAddDeviceRequest payload node.blockDevices node.mdArrays node.tools

/-- `runPreflight`, on the inventory of a node. -/
def runNodePreflight (action : ClusterStorageAction) (payload : Payload)
    (node : ClusterStorageNodeInventory) : Except HttpError RaidPreflightResult := do
  let validation ← validateAction action payload node
  let requiredConfirmation ← buildConfirmationPhrase action payload
  return {
    ok := validation.blockers = []
    blockers := validation.blockers
    warnings := validation.warnings
    requiredConfirmation
    impactedDevices := validation.impactedDevices
    commandPreview := validation.commandPreview
    preparedPartitionPreview := validation.preparedPartitionPreview }

end EsosWebui.Raid

/-! Which device of a peer stands for a device of the node that a request comes
from: the operator's choice, a stable identifier, or the shape of the device. -/
namespace EsosWebui.Raid

open Js

/-- The part after the last `/`. -/
def lastSegment (path : String) : String :=
  String.ofList (path.toList.reverse.takeWhile (· != '/')).reverse

def stableIdentifiers (dev : RaidBlockDevice) : List String :=
  let labelled (label : String) (value : Option String) : List String :=
    if isSet value then [label ++ value.getD ""] else []
  labelled "wwn:" dev.wwn ++ labelled "serial:" dev.serial ++
    labelled "id_serial:" dev.idSerial ++
    dev.byIdPaths.map fun p => "by-id:" ++ lastSegment p

def sharedIdentifiers (source candidate : RaidBlockDevice) : List String :=
  (stableIdentifiers candidate).filter (stableIdentifiers source).contains

def findStableMatch (source : RaidBlockDevice) (candidates : List RaidBlockDevice) :
    Option RaidBlockDevice :=
  candidates.find? fun candidate => sharedIdentifiers source candidate ≠ []

def isOperatorConfirmedMapping (mapping : ClusterDiskMappingInput)
    (action : ClusterStorageAction) : Bool :=
  mapping.confirmedBy == some .operator ||
    (action == .createMd && mapping.confirmedBy == some .derivedFromOperatorDiskMapping &&
      mapping.sourceKind == some .partition)

/-- The key under which the operator's choices are grouped. -/
def ClusterDiskMappingInput.targetKey (mapping : ClusterDiskMappingInput) : String :=
  mapping.targetSanId ++ ":" ++ mapping.targetPath

def duplicateManualMappingBlockers (mappings : List ClusterDiskMappingInput) : List String :=
  let groups := (unique (mappings.map (·.targetKey))).map fun key =>
    mappings.filter fun mapping => mapping.targetKey == key
  groups.filterMap fun group =>
    match group with
    | first :: _ :: _ =>
      some ("Mapping manuel dupliqué sur " ++ first.targetKey ++ " pour " ++
        join ", " (group.map (·.sourcePath)))
    | _ => none

def findManualMapping (manualMappings : List ClusterDiskMappingInput) (sourcePath : String)
    (peer : ClusterStorageNodeInventory) : Option ClusterDiskMappingInput :=
  manualMappings.find? fun m => m.sourcePath == sourcePath && m.targetSanId == peer.sanId

section

variable [CaseMapping]

def normalize (value : Option String) : String :=
  CaseMapping.toLowerCase (trimString (value.getD ""))

def compatibleByShape (a b : RaidBlockDevice) : Bool :=
  a.sizeBytes == b.sizeBytes && normalize a.model == normalize b.model &&
    normalize a.vendor == normalize b.vendor && normalize a.transport == normalize b.transport &&
    a.rotational == b.rotational

def buildMappingCandidates (source : RaidBlockDevice) (candidates : List RaidBlockDevice) :
    List ClusterDiskMappingCandidate :=
  let compatible := candidates.filter (compatibleByShape source)
  if compatible ≠ [] then
    compatible.map fun d =>
      ⟨d.path, .medium, ["taille/modèle/vendor/transport compatibles"], []⟩
  else
    (candidates.filter (·.sizeBytes == source.sizeBytes)).map fun d =>
      ⟨d.path, .low, ["taille identique uniquement"],
        ["Correspondance faible confiance; vérification opérateur requise"]⟩

def manualDeviceMapping (sourcePath : String) (sourceDevice : RaidBlockDevice)
    (peer : ClusterStorageNodeInventory) (action : ClusterStorageAction)
    (manual : ClusterDiskMappingInput) : ClusterDiskMapping :=
  let candidates := peer.blockDevices.filter (·.type == sourceDevice.type)
  let mapping : ClusterDiskMapping :=
    { sourcePath, targetSanId := peer.sanId, confidence := .none
      candidates := buildMappingCandidates sourceDevice candidates }
  match peer.blockDevices.find? (·.path == manual.targetPath) with
  | none =>
    { mapping with
      blockers :=
        [if action = .createMd then
          "expected partition not found on peer node: " ++ manual.targetPath
        else s!"mapping manuel introuvable {sourcePath} -> " ++ manual.targetPath] }
  | some target =>
    let targetPath := target.path
    if target.type ≠ sourceDevice.type then
      let found := target.type.name
      let expected := sourceDevice.type.name
      { mapping with
        blockers :=
          [s!"mapping manuel {sourcePath} -> {targetPath} : type incompatible " ++
            s!"({found} au lieu de {expected})"] }
    else if isOperatorConfirmedMapping manual action then
      { mapping with
        targetPath := some targetPath
        confidence := .high
        evidence := ["mapping confirmé par l’opérateur lors de la préparation des disques"] }
    else
      { mapping with
        targetPath := some targetPath
        confidence := .low
        evidence := ["mapping manuel opérateur"]
        warnings :=
          [s!"Mapping manuel faible confiance : vérifier {sourcePath} -> {targetPath}"] }

/-- The mapping that is found without the operator: the first device with the same
identifier, else the only one of the same shape, else the only one of the same size. -/
def automaticDeviceMapping (sourcePath : String) (sourceDevice : RaidBlockDevice)
    (peer : ClusterStorageNodeInventory) : ClusterDiskMapping :=
  let candidates := peer.blockDevices.filter (·.type == sourceDevice.type)
  let mapping : ClusterDiskMapping :=
    { sourcePath, targetSanId := peer.sanId, confidence := .none }
  match findStableMatch sourceDevice candidates with
  | some stable =>
    { mapping with
      targetPath := some stable.path
      confidence := .high
      evidence := (sharedIdentifiers sourceDevice stable).map fun e =>
        s!"identifiant stable {e}" }
  | none =>
    let compatible := candidates.filter (compatibleByShape sourceDevice)
    let sizeOnly := candidates.filter (·.sizeBytes == sourceDevice.sizeBytes)
    match compatible, sizeOnly with
    | [device], _ =>
      { mapping with
        targetPath := some device.path
        confidence := .medium
        evidence := ["taille/modèle/vendor/transport compatibles"] }
    | _, [device] =>
      let path := device.path
      { mapping with
        targetPath := some path
        confidence := .low
        evidence := ["taille identique uniquement"]
        warnings :=
          [s!"Mapping faible confiance pour {sourcePath} vers {path}; " ++
            "cas VMware possible, validation manuelle recommandée"] }
    | _, _ =>
      let count := max compatible.length sizeOnly.length
      { mapping with
        blockers :=
          [if compatible.length > 1 || sizeOnly.length > 1 then
            s!"mapping ambigu pour {sourcePath} ({count} candidats)"
          else s!"aucun équivalent trouvé pour {sourcePath}"]
        candidates := buildMappingCandidates sourceDevice candidates }

def mapDeviceToPeer (sourcePath : String) (source peer : ClusterStorageNodeInventory)
    (action : ClusterStorageAction) (manualMappings : List ClusterDiskMappingInput) :
    ClusterDiskMapping :=
  match source.blockDevices.find? (·.path == sourcePath) with
  | none =>
    { sourcePath, targetSanId := peer.sanId, confidence := .none
      blockers := [s!"{sourcePath} introuvable sur le nœud source"] }
  | some sourceDevice =>
    match findManualMapping manualMappings sourcePath peer with
    | some manual => manualDeviceMapping sourcePath sourceDevice peer action manual
    | none => automaticDeviceMapping sourcePath sourceDevice peer

end

def selectedStoragePaths (action : ClusterStorageAction) (payload : Payload) : List String :=
  match action with
  | .prepareMdPartitions => payload.disks
  | .createMd => payload.devices
  | .mdAddDevice => if isSet payload.device then [payload.device.getD ""] else []
  | .stopMd => []
  | .assembleMd | .zeroMdSuperblocks | .wipeMdSignatures => payload.members

def remapPayload (action : ClusterStorageAction) (payload : Payload)
    (mappedPaths : List String) : Payload :=
  match action with
  | .prepareMdPartitions => { payload with disks := mappedPaths }
  | .createMd => { payload with devices := mappedPaths }
  | .mdAddDevice => { payload with device := mappedPaths.head? }
  | .stopMd => payload
  | .assembleMd | .zeroMdSuperblocks | .wipeMdSignatures =>
    { payload with members := mappedPaths }

end EsosWebui.Raid
