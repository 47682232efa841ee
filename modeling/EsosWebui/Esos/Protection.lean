import EsosWebui.Js.Strings
import EsosWebui.Raid.Types

/-! Which devices, mount points and files belong to the ESOS system, from the block devices, the
mounts and the logical drives of a node. -/
namespace EsosWebui.Esos

open Js
open Raid (DeviceType)

structure BlockDevice where
  path : Text
  type : DeviceType
  parent : Option Text := none
  label : Option Text := none
  mountpoint : Option Text := none
  fstype : Option Text := none

structure HardwareLogicalDrive where
  id : Text
  devicePath : Option Text := none
  scsiDevice : Option Text := none

/-- What is asked of the node about its mounts. -/
structure ProtectionProbe where
  findmntLines : List Text := []
  rootRealPath : Option Text := none

structure ProtectionInput where
  blockDevices : List BlockDevice
  /-- The logical drives of each controller. -/
  hardwareControllers : List (List HardwareLogicalDrive) := []
  probe : ProtectionProbe := {}

/-- `!!value`, of an optional text. -/
def isSetText (value : Option Text) : Bool := value.any (· ≠ [])

def esosSystemLabels : List Text :=
  ["ESOS_BOOT".toList, "esos_root".toList, "esos_conf".toList, "esos_logs".toList,
    "esos_boot".toList, "ESOS_ROOT".toList, "ESOS_CONF".toList, "ESOS_LOGS".toList]

def esosOverlayMountPoints : List Text := ["/mnt/root".toList, "/mnt/ram".toList]

def esosSystemMountPoints : List Text := ['/'] :: esosOverlayMountPoints

def squashRootBasenames : List Text :=
  ["PRIMARY-root.sqsh".toList, "SECONDARY-root.sqsh".toList]

def squashRootFilePaths : List Text :=
  ["/mnt/root/PRIMARY-root.sqsh".toList, "/mnt/root/SECONDARY-root.sqsh".toList]

def devPrefix : Text := "/dev/".toList

def normalizeBlockPath (path : Text) : Text :=
  let t := trim path
  if t = [] then t
  else if startsWith t devPrefix then t
  else devPrefix ++ t

def isLetterOf (letter c : Char) : Bool := c == letter || c == letter.toUpper

def isAsciiLetter (c : Char) : Bool := c.isLower || c.isUpper

def takeRun (charClass : Char → Bool) (text : Text) : Option (Text × Text) :=
  let run := text.takeWhile charClass
  if run = [] then none else some (run, text.dropWhile charClass)

/-- `^(\/dev\/nvme\d+n\d+)`, ignoring case, of a path that starts with `/dev/nvme`. -/
def nvmeDisk (norm : Text) : Option Text := do
  let start := "/dev/nvme".toList
  let (controller, rest) ← takeRun Char.isDigit (norm.drop start.length)
  match rest with
  | n :: rest =>
    if isLetterOf 'n' n then
      let (drive, _) ← takeRun Char.isDigit rest
      return start ++ controller ++ n :: drive
    else none
  | [] => none

/-- `^(\/dev\/mmcblk\d+)`, ignoring case, of a path that starts with `/dev/mmcblk`. -/
def mmcDisk (norm : Text) : Option Text := do
  let start := "/dev/mmcblk".toList
  let (drive, _) ← takeRun Char.isDigit (norm.drop start.length)
  return start ++ drive

/-- `^(\/dev\/sd[a-z]+)`, ignoring case, of a normalised path. -/
def sdDisk (norm : Text) : Option Text :=
  if startsWith norm devPrefix then
    match norm.drop devPrefix.length with
    | s :: d :: rest =>
      if isLetterOf 's' s && isLetterOf 'd' d then
        (takeRun isAsciiLetter rest).map fun (drive, _) => devPrefix ++ s :: d :: drive
      else none
    | _ => none
  else none

def resolveParentDiskPath (path : Text) (blockDevices : List BlockDevice) : Text :=
  let norm := normalizeBlockPath path
  let dev := blockDevices.find? (·.path = norm)
  if dev.any (·.type = .disk) then norm
  else
    match (dev.bind (·.parent)).filter (· ≠ []) with
    | some parent => if startsWith parent devPrefix then parent else devPrefix ++ parent
    | none =>
      if startsWith norm "/dev/nvme".toList then (nvmeDisk norm).getD norm
      else if startsWith norm "/dev/mmcblk".toList then (mmcDisk norm).getD norm
      else (sdDisk norm).getD norm

structure FindmntLine where
  source : Text
  target : Text

/-- The first and the last word of each line that has two. -/
def parseFindmnt (lines : List Text) : List FindmntLine :=
  lines.filterMap fun line =>
    let t := trim line
    if t = [] ∨ startsWith t "===".toList then none
    else
      match words t with
      | source :: next :: rest => some ⟨source, (next :: rest).getLast (List.cons_ne_nil _ _)⟩
      | _ => none

inductive ReasonCode where
  | esosLabel
  | rootMount
  | systemMount
  | squashRootImage
  | duplicateEsosLabel
  | parentDiskOfProtected
  | hardwareLdOsDevice
  deriving DecidableEq

structure ProtectionReason where
  code : ReasonCode
  message : Text
  deriving DecidableEq

/-- A call of `protectDisk`. -/
structure Protection where
  disk : Text
  block : Text
  reason : ProtectionReason
  label : Option Text := none
  mount : Option Text := none

def protectDisk (diskPath blockPath : Text) (reason : ProtectionReason)
    (label mount : Option Text := none) : Protection :=
  ⟨normalizeBlockPath diskPath, normalizeBlockPath blockPath, reason, label, mount⟩

def hasSquashRootSignal (dev : BlockDevice) (mountTargets : List Text) : Bool :=
  let blob := dev.label.getD [] ++ ' ' :: dev.mountpoint.getD [] ++ ' ' :: dev.fstype.getD [] ++
    ' ' :: [' '].intercalate mountTargets
  squashRootBasenames.any (contains blob)

namespace ProtectionInput

variable (input : ProtectionInput)

def findmnt : List FindmntLine := parseFindmnt input.probe.findmntLines

def diskOf (path : Text) : Text := resolveParentDiskPath path input.blockDevices

def hasEsosLabel (dev : BlockDevice) : Bool := dev.label.any esosSystemLabels.contains

def duplicateEsosLabels : Bool :=
  input.blockDevices.any fun dev => hasEsosLabel dev &&
    input.blockDevices.any fun other =>
      other.label == dev.label && input.diskOf other.path != input.diskOf dev.path

def labelReason (label : Text) : ProtectionReason :=
  if input.duplicateEsosLabels then
    ⟨.duplicateEsosLabel, "Label ESOS dupliqué : ".toList ++ label⟩
  else ⟨.esosLabel, "Partition avec label ESOS : ".toList ++ label⟩

def mountHits (dev : BlockDevice) : List FindmntLine :=
  input.findmnt.filter fun m =>
    normalizeBlockPath m.source = dev.path ∨ some m.target = dev.mountpoint

def deviceProtections (dev : BlockDevice) : List Protection :=
  let disk := input.diskOf dev.path
  (if hasEsosLabel dev then
    [protectDisk disk dev.path (input.labelReason (dev.label.getD [])) dev.label dev.mountpoint]
  else []) ++
  (if dev.mountpoint.any esosSystemMountPoints.contains then
    [protectDisk disk dev.path ⟨.systemMount, "Monté sur ".toList ++ dev.mountpoint.getD []⟩
      dev.label dev.mountpoint]
  else []) ++
  ((input.mountHits dev).filter fun m => esosSystemMountPoints.contains m.target).map (fun m =>
    protectDisk disk dev.path
      ⟨.systemMount, "findmnt : ".toList ++ m.source ++ " → ".toList ++ m.target⟩
      dev.label (some m.target)) ++
  (if hasSquashRootSignal dev (input.findmnt.map (·.target)) then
    [protectDisk disk dev.path
      ⟨.squashRootImage, "Image PRIMARY-root.sqsh ou SECONDARY-root.sqsh détectée".toList⟩
      dev.label dev.mountpoint]
  else [])

def rootProtections : List Protection :=
  let rootPath := (input.probe.rootRealPath.map trim).filter (· ≠ [])
  (rootPath.toList.map fun rootPath =>
    let norm := normalizeBlockPath rootPath
    protectDisk (input.diskOf norm) norm
      ⟨.rootMount, "Périphérique racine courant : ".toList ++ norm⟩) ++
  (input.findmnt.filter (·.target = ['/'])).map fun m =>
    let src := normalizeBlockPath m.source
    protectDisk (input.diskOf src) src ⟨.rootMount, "Montage racine / ← ".toList ++ src⟩
      ((input.blockDevices.find? (·.path = src)).bind (·.label)) (some ['/'])

def protections : List Protection :=
  input.blockDevices.flatMap input.deviceProtections ++ input.rootProtections

def protectedDiskPaths : List Text := unique (input.protections.map (·.disk))

def protectedBlockPaths : List Text :=
  unique (input.protections.flatMap fun p => [p.block, p.disk])

end ProtectionInput

structure ProtectedDevice where
  protectedDevice : Text
  reasons : List ProtectionReason := []
  labelsFound : List Text := []
  mountedPaths : List Text := []
  relatedBlockPaths : List Text := []
  hardwareLogicalDriveIds : List Text := []

/-- `set.add(value)` -/
def addTo (values : List Text) (value : Text) : List Text :=
  if value ∈ values then values else values ++ [value]

def addIfSet (values : List Text) (value : Option Text) : List Text :=
  if isSetText value then addTo values (value.getD []) else values

def ProtectedDevice.addReason (entry : ProtectedDevice) (reason : ProtectionReason)
    (blockPath : Text) (label mount : Option Text) : ProtectedDevice :=
  { entry with
    reasons := if reason ∈ entry.reasons then entry.reasons else entry.reasons ++ [reason]
    relatedBlockPaths := addTo entry.relatedBlockPaths (normalizeBlockPath blockPath)
    labelsFound := addIfSet entry.labelsFound label
    mountedPaths := addIfSet entry.mountedPaths mount }

def changeEntry (entries : List ProtectedDevice) (disk : Text)
    (change : ProtectedDevice → ProtectedDevice) : List ProtectedDevice :=
  if entries.any (·.protectedDevice = disk) then
    entries.map fun e => if e.protectedDevice = disk then change e else e
  else entries ++ [change { protectedDevice := disk }]

def HardwareLogicalDrive.osPath (ld : HardwareLogicalDrive) : Option Text :=
  ((ld.devicePath.map trim).filter (· ≠ [])).or ((ld.scsiDevice.map trim).filter (· ≠ []))

namespace ProtectionInput

variable (input : ProtectionInput)

def protectedLogicalDrives : List (HardwareLogicalDrive × Text) :=
  input.hardwareControllers.flatten.filterMap fun ld =>
    (ld.osPath.map normalizeBlockPath).bind fun norm =>
      if input.diskOf norm ∈ input.protectedDiskPaths ∨ norm ∈ input.protectedBlockPaths then
        some (ld, norm)
      else none

def protectedDevices : List ProtectedDevice :=
  let entries := input.protections.foldl
    (fun entries p => changeEntry entries p.disk fun e =>
      e.addReason p.reason p.block p.label p.mount) []
  input.protectedLogicalDrives.foldl
    (fun entries (ld, norm) => changeEntry entries (input.diskOf norm) fun e =>
      ({ e with hardwareLogicalDriveIds := addTo e.hardwareLogicalDriveIds ld.id }).addReason
        ⟨.hardwareLdOsDevice,
          "Volume logique matériel ".toList ++ ld.id ++ " mappé sur ".toList ++ norm⟩
        norm none ld.devicePath)
    entries

def protectedMountPoints : List Text :=
  unique (esosSystemMountPoints ++
    (input.blockDevices.filter fun dev =>
      dev.path ∈ input.protectedBlockPaths ∨
        input.diskOf dev.path ∈ input.protectedDiskPaths).filterMap (fun dev =>
          dev.mountpoint.filter (· ≠ [])) ++
    (input.findmnt.map (·.target)).filter esosSystemMountPoints.contains)

/-- `text.replace('//', '/')` -/
def replaceDoubleSlash : Text → Text
  | '/' :: '/' :: rest => '/' :: rest
  | c :: rest => c :: replaceDoubleSlash rest
  | [] => []

def namedImages (dev : BlockDevice) : List Text :=
  let blob := dev.path ++ ' ' :: dev.mountpoint.getD [] ++ ' ' :: dev.label.getD []
  (squashRootBasenames.filter (contains blob)).flatMap fun name =>
    (if isSetText dev.mountpoint then [dev.mountpoint.getD [] ++ '/' :: name] else []) ++
      ["/mnt/root/".toList ++ name]

def protectedFilePaths : List Text :=
  unique (squashRootFilePaths ++
    (input.protectedMountPoints.flatMap fun base =>
      squashRootBasenames.map fun name => replaceDoubleSlash (base ++ '/' :: name)) ++
    input.blockDevices.flatMap namedImages)

end ProtectionInput

structure ProtectionSnapshot where
  protectedDevices : List ProtectedDevice := []
  errors : List Text := []
  protectedBlockPaths : List Text := []
  protectedDiskPaths : List Text := []
  protectedHardwareLdIds : List Text := []
  protectedMountPoints : List Text := []
  protectedFilePaths : List Text := []
  duplicateEsosLabels : Bool := false
  detectionFailed : Bool := false

def buildEsosSystemProtection (input : ProtectionInput) : ProtectionSnapshot :=
  { protectedDevices := input.protectedDevices
    protectedBlockPaths := input.protectedBlockPaths
    protectedDiskPaths := input.protectedDiskPaths
    protectedHardwareLdIds := unique (input.protectedLogicalDrives.map (·.1.id))
    protectedMountPoints := input.protectedMountPoints
    protectedFilePaths := input.protectedFilePaths
    duplicateEsosLabels := input.duplicateEsosLabels }

end EsosWebui.Esos
