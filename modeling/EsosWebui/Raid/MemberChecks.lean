import EsosWebui.Raid.Commands

/-! What a device has to satisfy before it becomes a member of an array, is
partitioned for one, or has its metadata removed. -/
namespace EsosWebui.Raid

open Js

/-- What the validation of a request says. -/
structure Validation where
  blockers : List String
  warnings : List String := []
  impactedDevices : List String := []
  commandPreview : Option String := none
  preparedPartitionPreview : List (String × String) := []

section

variable [CaseMapping]

def isLinuxRaidPartition (partitionTypeCode partitionTypeName : Option String) : Bool :=
  let code := partitionTypeCode.map CaseMapping.toLowerCase
  let name := (partitionTypeName.map CaseMapping.toLowerCase).getD ""
  code == some "0xfd" || code == some "fd" ||
    code == some "a19d880f-05fc-4d3b-a006-743f0f84911e" ||
    includes name "linux raid" || includes name "raid autodetect"

def getMdEligibilityReasons (dev : RaidBlockDevice) : List String :=
  unique <|
    (if dev.type ≠ .part then ["Seules les partitions existantes sont éligibles"] else []) ++
    (if isLinuxRaidPartition dev.partitionTypeCode dev.partitionTypeName then []
      else ["Type de partition Linux RAID Autodetect requis"]) ++
    (match dev.mountpoint with
      | some mountpoint => if mountpoint = "" then [] else [s!"Monté sur {mountpoint}"]
      | none => []) ++
    (if dev.usedBy.contains .filesystem then ["Système de fichiers détecté"] else []) ++
    (if dev.usedBy.contains .lvm then ["PV LVM détecté"] else []) ++
    (if dev.usedBy.contains .scst then ["Utilisé par SCST"] else []) ++
    (if dev.usedBy.contains .md then
      [if dev.hasMdSuperblock then "Superblock MD existant détecté" else "Déjà membre MD"]
      else []) ++
    (if dev.usedBy.contains .unknownSignature then ["Signature existante non autorisée"]
      else []) ++
    (if dev.usedBy.contains .hardwareRaid then
      ["Volume déjà en RAID matériel — utilisez LVM, FILEIO ou SCST BLOCKIO"] else [])

def getMdEligibilityReasonsForDevice (dev : RaidBlockDevice) : List String :=
  if dev.mdEligibilityReasons ≠ [] then dev.mdEligibilityReasons else getMdEligibilityReasons dev

def findCreateDevice (blockDevices : List RaidBlockDevice) (dev : String) :
    Option RaidBlockDevice :=
  blockDevices.find? fun b => b.path == dev || s!"/dev/{b.name}" == dev

def createDeviceBlockers (blockDevices : List RaidBlockDevice) :
    List String → List String → List String
  | _, [] => []
  | seen, dev :: devices =>
    if !isSafeDevicePath dev then
      s!"Chemin device invalide : {dev}" :: createDeviceBlockers blockDevices seen devices
    else if seen.contains dev then
      s!"{dev} est sélectionné plusieurs fois" :: createDeviceBlockers blockDevices seen devices
    else
      let reasons := match findCreateDevice blockDevices dev with
        | some info => getMdEligibilityReasonsForDevice info
        | none => ["Device introuvable dans le scan actuel"]
      reasons.map (fun reason => s!"{dev} : {reason}") ++
        createDeviceBlockers blockDevices (dev :: seen) devices

def validateMdCreateRequest (req : Payload) (blockDevices : List RaidBlockDevice)
    (mdArrays : List MdArray) : Except HttpError Validation := do
  let name := req.name.getD ""
  let level := req.level.getD ""
  let devices := req.devices
  let arrayPath := s!"/dev/{name}"
  let blockers :=
    (if isNumericMdArrayName name then []
      else ["Le nom du tableau doit être numérique, par exemple md0 ou md1"]) ++
    (if level ∈ mdRaidLevels then []
      else [s!"Niveau RAID invalide : " ++ if level = "" then "(vide)" else level]) ++
    (match req.chunkKb with
      | some chunkKb =>
        if chunkKb ∈ mdChunkKbAllowlist then [] else [s!"Taille de chunk invalide : {chunkKb} KB"]
      | none => ["Taille de chunk invalide : (vide) KB"]) ++
    (match req.raidDevices with
      | some count =>
        if count = devices.length then []
        else
          let selected := devices.length
          [s!"raidDevices ({count}) ne correspond pas au nombre de membres ({selected})"]
      | none => []) ++
    (if req.createPartitions then
      ["La création automatique de partitions est hors périmètre pour ce flux"] else []) ++
    (if req.assumePartitionsReady then
      ["--assume-clean / assumePartitionsReady est hors périmètre pour ce flux"] else []) ++
    (if name = "" then []
      else
        (if mdArrays.any fun a => a.name == name || a.path == arrayPath then
          [s!"{arrayPath} existe déjà comme tableau MD"] else []) ++
        (if blockDevices.any fun d => d.path == arrayPath then
          [s!"{arrayPath} existe déjà comme block device"] else [])) ++
    createDeviceBlockers blockDevices [] devices ++
    (if devices = [] then [mdCreateEmptyMembersMessage] else []) ++
    (if level ∈ mdRaidLevels then
      let min := minDevices level
      (if devices.length < min then [s!"RAID{level} requiert au minimum {min} partitions"]
        else []) ++
      (if level = "10" ∧ devices.length % 2 ≠ 0 then
        ["RAID10 requiert un nombre pair de partitions"] else [])
      else [])
  let commandPreview ←
    if blockers = [] then
      (buildMdCreateCommand name level devices (req.chunkKb.getD 0)).map some
    else pure none
  let checked := devices.filter isSafeDevicePath
  return {
    blockers := unique blockers
    warnings :=
      if checked.any fun dev => (findCreateDevice blockDevices dev).any (·.hasMdSuperblock) then
        ["Un superblock MD existant nécessite une intervention manuelle hors WebUI; " ++
          "aucun zero-superblock automatique ne sera exécuté"]
      else []
    impactedDevices := devices
    commandPreview }

end

inductive PartitionStrategy where
  | gpt
  | dos

def emptyTools : RaidToolsInfo := {}

def prepareMdPartitionsConfirmation : String := "CREATE RAID PARTITIONS"

/-- `normalizePartitionTable`: what is neither `gpt` nor `dos` means automatic. -/
def normalizePartitionTable (value : Option String) : Option PartitionStrategy :=
  if value = some "gpt" then some .gpt else if value = some "dos" then some .dos else none

def resolvePartitionStrategy (requested : Option PartitionStrategy) (tools : RaidToolsInfo) :
    Option PartitionStrategy :=
  match requested with
  | some .gpt => if tools.parted then some .gpt else none
  | some .dos => if tools.sfdisk then some .dos else none
  | none => if tools.parted then some .gpt else if tools.sfdisk then some .dos else none

/-- A path that `\/dev\/(?:nvme\d+n\d+|mmcblk\d+)$` matches at its end. -/
def endsInPartitionedName (diskPath : String) : Bool :=
  let digitsThen (text : Text) : Option Text :=
    if (text.head?.any Char.isDigit) then some (text.dropWhile Char.isDigit) else none
  diskPath.toList.tails.any fun rest =>
    ((afterLiteral "/dev/nvme" (String.ofList rest)).bind digitsThen).any (fun tail =>
      match tail with
      | 'n' :: digits => isDigits digits
      | _ => false) ||
    (afterLiteral "/dev/mmcblk" (String.ofList rest)).any isDigits

def expectedFirstPartitionPath (diskPath : String) : String :=
  if endsInPartitionedName diskPath then s!"{diskPath}p1" else s!"{diskPath}1"

def buildPrepareMdPartitionCommands (disk : String) (strategy : PartitionStrategy)
    (tools : RaidToolsInfo) : List String :=
  (match strategy with
    | .gpt =>
      [s!"parted -s {disk} mklabel gpt",
        s!"parted -s -a optimal {disk} mkpart primary 1MiB 100%",
        s!"parted -s {disk} set 1 raid on"]
    | .dos => [s!"printf 'label: dos\\n, , fd\\n' | sfdisk {disk}"]) ++
  (if tools.partprobe then [s!"partprobe {disk}"] else []) ++
  (if tools.udevadm then ["udevadm settle"] else [])

def hasOverwriteableContent (disk : Option RaidBlockDevice) : Bool :=
  let signatures := match disk with
    | some disk => disk.diskSignatures.getD disk.wipefsSignatures
    | none => []
  signatures ≠ [] || (disk.map (·.childrenPaths)).getD [] ≠ []

def prepareDiskReasons (disk : Option RaidBlockDevice) (allowOverwriteSignatures : Bool) :
    List String :=
  (match disk with
    | none => ["Disque introuvable dans le scan actuel"]
    | some disk =>
      (if disk.type ≠ .disk then ["Seuls les disques entiers sont éligibles"] else []) ++
      disk.mdPartitionPrepReasons ++
      (if !disk.eligibleForMdPartitionPrep && disk.mdPartitionPrepReasons = [] then
        ["Disque non éligible pour la préparation MD"] else [])) ++
  (if hasOverwriteableContent disk && !allowOverwriteSignatures then
    ["Signatures ou partitions existantes détectées : confirmation destructive explicite requise"]
    else [])

def prepareDiskBlockers (blockDevices : List RaidBlockDevice) (allowOverwriteSignatures : Bool) :
    List String → List String → List String
  | _, [] => []
  | seen, diskPath :: disks =>
    if !isSafeDevicePath diskPath then
      s!"Chemin disque invalide : {diskPath}" ::
        prepareDiskBlockers blockDevices allowOverwriteSignatures seen disks
    else if seen.contains diskPath then
      s!"{diskPath} est sélectionné plusieurs fois" ::
        prepareDiskBlockers blockDevices allowOverwriteSignatures seen disks
    else
      let reasons := prepareDiskReasons (blockDevices.find? (·.path == diskPath))
        allowOverwriteSignatures
      reasons.map (fun reason => s!"{diskPath} : {reason}") ++
        prepareDiskBlockers blockDevices allowOverwriteSignatures (diskPath :: seen) disks

def validatePrepareMdPartitionsRequest (req : Payload) (blockDevices : List RaidBlockDevice)
    (tools : RaidToolsInfo) : Validation :=
  let rawPartitionTable := req.partitionTable.getD "auto"
  let strategy := resolvePartitionStrategy (normalizePartitionTable req.partitionTable) tools
  let blockers :=
    (if req.disks = [] then ["Au moins un disque est requis"] else []) ++
    (if ["auto", "gpt", "dos"].contains rawPartitionTable then []
      else [s!"Type de table de partitions invalide : {rawPartitionTable}"]) ++
    (match strategy with
      | none => ["Aucun outil de partitionnement scriptable disponible (parted ou sfdisk requis)"]
      | some .gpt =>
        if tools.parted then []
        else ["parted est requis pour créer une table GPT avec flag RAID"]
      | some .dos =>
        if tools.sfdisk then [] else ["sfdisk est requis pour créer une table MBR type fd"]) ++
    prepareDiskBlockers blockDevices req.allowOverwriteSignatures [] req.disks
  let checked := unique (req.disks.filter isSafeDevicePath)
  let found (path : String) : Option RaidBlockDevice := blockDevices.find? (·.path == path)
  let planned := checked.filter fun path => (found path).isSome
  { blockers := unique blockers
    warnings :=
      if checked.any fun path => hasOverwriteableContent (found path) then
        ["La table de partitions et les signatures existantes des disques sélectionnés " ++
          "seront remplacées"]
      else []
    impactedDevices := req.disks
    commandPreview :=
      if blockers = [] then
        strategy.map fun strategy =>
          join "\n" (planned.flatMap fun disk =>
            buildPrepareMdPartitionCommands disk strategy tools)
      else none
    preparedPartitionPreview :=
      if strategy.isSome then planned.map fun disk => (disk, expectedFirstPartitionPath disk)
      else [] }

def arrayNeedsReplacementMember (arr : MdArray) : Bool :=
  arr.state == .degraded || arr.state == .failed || arr.failedDevices > 0 ||
    arr.activeDevices < arr.raidDevices ||
    arr.members.any fun m =>
      !isSet m.path || m.state.contains .faulty || m.state.contains .removed

def arraySupportsSpareAdd (arr : MdArray) : Bool :=
  [RaidLevel.raid1, .raid4, .raid5, .raid6, .raid10].contains arr.raidLevel

def isHealthyFullArray (arr : MdArray) : Bool :=
  !arrayNeedsReplacementMember arr && (arr.state == .clean || arr.state == .active) &&
    arr.activeDevices ≥ arr.raidDevices

def collectActiveMdMemberPaths (mdArrays : List MdArray) : List String :=
  mdArrays.flatMap fun arr => arr.members.filterMap fun member =>
    (member.path.map trimString).filter fun path => path != "" && path != "—"

def addMemberToArray (arr : MdArray) (intent : MdAddMemberIntent) (devicePath : String)
    (blockDevices : List RaidBlockDevice) (mdArrays : List MdArray) :
    List String × List String :=
  let level := arr.raidLevel.name
  let forIntent : List String × List String := match intent with
    | .spare =>
      (if arrayNeedsReplacementMember arr then
        ["Le tableau nécessite un remplacement de membre, pas un spare"]
      else if !arraySupportsSpareAdd arr then
        [s!"RAID{level} ne prend pas en charge l'ajout de spare via cette action"]
      else if !isHealthyFullArray arr then
        ["Le tableau doit être sain et complet pour ajouter un spare"]
      else [],
      if arr.spareDevices > 0 then
        ["Un ou plusieurs spare(s) sont déjà présents sur ce tableau"] else [])
    | .replacement =>
      (if arrayNeedsReplacementMember arr then []
      else ["Aucun membre manquant ou défaillant détecté : " ++
        "utilisez l'ajout de spare si le tableau est sain"],
      if arr.state == .recovering || arr.state == .resync || arr.progress then
        ["Resynchronisation en cours — vérifiez l'état avant d'ajouter un membre"] else [])
  let forDevice : List String :=
    if devicePath = "" then []
    else
      (if (collectActiveMdMemberPaths mdArrays).contains devicePath then
        [s!"{devicePath} est déjà membre d'un tableau MD actif"] else []) ++
      match blockDevices.find? (·.path == devicePath) with
      | none => [s!"{devicePath} introuvable dans l'inventaire"]
      | some dev =>
        (if dev.type ≠ .part then
          ["Seules les partitions préparées sont acceptées (pas de disque entier)"] else []) ++
        (if dev.eligibleForMd then []
          else if dev.mdEligibilityReasons ≠ [] then dev.mdEligibilityReasons
          else ["Partition non éligible comme membre MD"])
  (forIntent.1 ++ forDevice, forIntent.2)

def validateMdAddDeviceRequest (req : Payload) (blockDevices : List RaidBlockDevice)
    (mdArrays : List MdArray) (tools : Option RaidToolsInfo) : Except HttpError Validation := do
  let message (checked : Except HttpError String) : List String := match checked with
    | .ok _ => []
    | .error e => [e.statusMessage]
  let checkedName := sanitizeMdArrayName (req.name.getD "")
  let checkedDevice := sanitizeDevicePath (req.device.getD "")
  let arrayName := checkedName.toOption.getD ""
  let devicePath := checkedDevice.toOption.getD ""
  let blockers :=
    message checkedName ++ message checkedDevice ++
    (if req.intent.isSome then [] else ["Intent invalide : spare ou replacement requis"]) ++
    (if tools.any fun tools => !tools.mdadm then ["mdadm indisponible sur ce nœud"] else [])
  let shown := if arrayName = "" then "(inconnu)" else arrayName
  let arr := if arrayName = "" then none
    else mdArrays.find? fun a => a.name == arrayName || a.path == s!"/dev/{arrayName}"
  match arr, req.intent with
  | none, _ =>
    return { blockers := blockers ++ [s!"Tableau MD {shown} introuvable sur ce nœud"] }
  | some _, none => return { blockers }
  | some arr, some intent => do
      let (added, warnings) := addMemberToArray arr intent devicePath blockDevices mdArrays
      let blockers := blockers ++ added
      let commandPreview ←
        if blockers = [] ∧ devicePath ≠ "" then
          (buildMdAddDeviceCommand arr.path devicePath).map some
        else pure none
      return {
        blockers
        warnings
        impactedDevices := unique (arr.path :: if devicePath = "" then [] else [devicePath])
        commandPreview }

def cleanupMemberBlockers (needsSuperblock : Bool) (blockDevices : List RaidBlockDevice)
    (mdArrays : List MdArray) (memberPath : String) : List String :=
  match blockDevices.find? (·.path == memberPath) with
  | none => [s!"Partition introuvable : {memberPath}"]
  | some dev =>
    let isMember (arr : MdArray) : Bool :=
      arr.members.any fun m => isSet m.path && m.path == some memberPath
    (if needsSuperblock && !dev.hasMdSuperblock && dev.mdExamine.isNone then
      [s!"{memberPath} : aucun superblock MD détecté"] else []) ++
    (if dev.usedBy.contains .mounted then [s!"{memberPath} est monté"] else []) ++
    (if dev.usedBy.contains .lvm then [s!"{memberPath} est utilisé par LVM"] else []) ++
    (if dev.usedBy.contains .scst then [s!"{memberPath} est utilisé par SCST"] else []) ++
    (match mdArrays.find? isMember with
      | some owner =>
        let ownerPath := owner.path
        [s!"{memberPath} est membre actif de {ownerPath}"]
      | none => []) ++
    (if dev.esosSystemProtected then
      let label := dev.protectedDevice.getD memberPath
      [s!"{memberPath} : volume système ESOS protégé ({label})"]
      else [])

def validateCleanupMembers (needsSuperblock : Bool) (members : List String)
    (blockDevices : List RaidBlockDevice) (mdArrays : List MdArray) : List String :=
  if members = [] then ["Au moins une partition membre est requise"]
  else members.flatMap (cleanupMemberBlockers needsSuperblock blockDevices mdArrays)

def validateZeroSuperblockMembers (members : List String) (blockDevices : List RaidBlockDevice)
    (mdArrays : List MdArray) : List String :=
  validateCleanupMembers true members blockDevices mdArrays

def validateWipeSignatureMembers (members : List String) (blockDevices : List RaidBlockDevice)
    (mdArrays : List MdArray) : List String :=
  validateCleanupMembers false members blockDevices mdArrays

end EsosWebui.Raid
