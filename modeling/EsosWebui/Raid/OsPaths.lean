import EsosWebui.Js.ParseInt
import EsosWebui.Raid.Cleanup
import EsosWebui.Raid.Inventory

/-! The paths under which the system shows the logical drives of a controller: what the tool of
the controller says, then identifiers, sizes and mounts, then the order of the drives. -/
namespace EsosWebui.Raid.OsPaths

open Js
open Inventory (BlockDevice LogicalDrive HardwareController normalizeOsPath)

/-- `KernelExposedLogicalDrive` -/
structure KernelDrive where
  id : Text
  scsiAddress : Text
  vendor : Text
  model : Text
  devicePath : Option Text := none

structure FileSystemMount where
  backingDevice : Text
  linkedBackendPath : Option Text := none
  mounted : Bool := true

/-- What the language adds: case mapping, the order of texts, and
`Math.min(a, b) / Math.max(a, b) >= 1 - SIZE_TOLERANCE` with its rounding. -/
structure Language where
  toLowerCase : Text → Text
  localeCompare : Text → Text → Ordering
  withinTolerance : Nat → Nat → Bool

inductive MatchMethod where
  | osDriveName
  | lsscsi
  | sizeVendor
  | sizeWwn
  | sizeSerial
  | mountBacking
  | order
  deriving DecidableEq

inductive Confidence where
  | high
  | medium
  | low

/-- A path that a drive is mapped to. -/
structure Hit where
  path : Text
  method : MatchMethod
  confidence : Confidence
  scsiAddress : Option Text := none

/-- `HwLdOsMappingCandidate` -/
structure MappingCandidate where
  path : Text
  score : Nat
  reasons : List Text

structure EnrichedDrive where
  drive : LogicalDrive
  mapping : Option Hit := none
  candidateOsPaths : List MappingCandidate := []
  failureReason : Option Text := none

/-- `vd` or `ld`, in small or capital letters, and the digits that follow. -/
def labelledIndex (text : Text) : Option Text :=
  text.tails.findSome? fun rest =>
    (((afterLetters "vd".toList rest).or (afterLetters "ld".toList rest)).map
      (·.takeWhile Char.isDigit)).filter (· ≠ [])

def lastSegment (text : Text) : Text := (text.splitOn '/').getLastD []

def parseVdIndex (ldId : Text) : Number :=
  match labelledIndex ldId with
  | some digits => Number.parseInt digits
  | none => if isDigits (lastSegment ldId) then Number.parseInt (lastSegment ldId) else .int 0

/-- `a - b <= 0`, of two indices. -/
def indexLe : Number → Number → Bool
  | .int a, .int b => a ≤ b
  | .infinity, .int _ => false
  | _, _ => true

structure ScsiTuple where
  host : Number
  target : Number

/-- `^(\d+):(\d+):(\d+):(\d+)$` -/
def parseScsiTuple (scsiAddress : Option Text) : Option ScsiTuple :=
  match (trim (scsiAddress.getD [])).splitOn ':' with
  | [host, channel, target, lun] =>
    if isDigits host && isDigits channel && isDigits target && isDigits lun then
      some ⟨Number.parseInt host, Number.parseInt target⟩
    else none
  | _ => none

def cliOsPath (ld : LogicalDrive) : Option Text :=
  (normalizeOsPath ld.devicePath).or (normalizeOsPath ld.scsiDevice)

section

variable (lang : Language)

/-- `withoutHex.replace(/\s/g, '').toLowerCase()` -/
def wwnNorm (wwn : Option Text) : Text :=
  let text := wwn.getD []
  let withoutHex := match text with
    | '0' :: x :: rest => if x = 'x' ∨ x = 'X' then rest else text
    | _ => text
  lang.toLowerCase (withoutHex.filter fun c => !isSpace c)

def serialNorm (serial : Option Text) : Text := lang.toLowerCase (trim (serial.getD []))

def sizeMatch (a b : Option Nat) : Bool :=
  let a := a.getD 0
  let b := b.getD 0
  a ≠ 0 && b ≠ 0 && lang.withinTolerance a b

def isRaidExposedDisk (dev : BlockDevice) : Bool :=
  let blob := lang.toLowerCase
    (dev.vendor.getD [] ++ ' ' :: (dev.model.getD [] ++ ' ' :: dev.idModel.getD []))
  dev.type = .disk &&
    (contains blob "perc".toList || contains blob "megaraid".toList ||
      contains blob "dell".toList || contains blob "lsi".toList ||
      contains blob "avago".toList || contains blob "broadcom".toList ||
      dev.usedBy.contains .hardwareRaid)

def vendorModel (k : KernelDrive) : Text := lang.toLowerCase (k.vendor ++ ' ' :: k.model)

def kernelDrivesForController (ctrl : HardwareController) (allKernel : List KernelDrive)
    (singleController : Bool) : List KernelDrive :=
  let filtered := allKernel.filter fun ld =>
    startsWith ld.scsiAddress (ctrl.id ++ [':']) || contains ld.id ctrl.id
  if singleController then allKernel
  else if filtered ≠ [] then filtered
  else allKernel.filter fun ld =>
    let blob := vendorModel lang ld
    contains blob "perc".toList || contains blob "megaraid".toList ||
      contains blob "dell".toList || contains blob "lsi".toList

/-- The inventory that a controller's drives are looked up in. -/
structure Context where
  ctrl : HardwareController
  kernelPool : List KernelDrive
  blockDevices : List BlockDevice
  mounts : List FileSystemMount

structure KernelCandidate where
  path : Text
  scsiAddress : Text
  score : Nat

variable (ctx : Context)

def deviceAt (path : Text) : Option BlockDevice := ctx.blockDevices.find? (·.path = path)

def kernelScore (ld : LogicalDrive) (k : KernelDrive) (path : Text) : Option Nat :=
  let dev := deviceAt ctx path
  let sizeOk := ld.sizeBytes.getD 0 = 0 || sizeMatch lang ld.sizeBytes (dev.map (·.sizeBytes))
  let kTuple := parseScsiTuple (some k.scsiAddress)
  let targetMatchesVd := kTuple.any fun tuple => tuple.target = parseVdIndex ld.id
  let hostMatchesControllerId := kTuple.any fun tuple =>
    tuple.host = Number.parseIntText ctx.ctrl.id
  let blob := vendorModel lang k
  let isPercLike := contains blob "dell".toList || contains blob "perc".toList ||
    contains blob "megaraid".toList
  let sameAddress := ld.scsiAddress.any fun address => address ≠ [] && k.scsiAddress = address
  if sameAddress && sizeOk then some 100
  else if sizeOk && targetMatchesVd && (isPercLike || dev.isSome) then
    some (if hostMatchesControllerId then 96 else 92)
  else if sizeOk && dev.any (isRaidExposedDisk lang) then some 80
  else none

def kernelCandidates (ld : LogicalDrive) (used : List Text) : List KernelCandidate :=
  ctx.kernelPool.filterMap fun k =>
    match normalizeOsPath k.devicePath with
    | some path =>
      if used.contains path then none
      else (kernelScore lang ctx ld k path).map fun score => ⟨path, k.scsiAddress, score⟩
    | none => none

/-- `candidates.sort((a, b) => b.score - a.score)[0]` -/
def best : List KernelCandidate → Option KernelCandidate
  | [] => none
  | c :: candidates =>
    match best candidates with
    | some b => if c.score < b.score then some b else some c
    | none => some c

def matchFromKernel (ld : LogicalDrive) (used : List Text) : Option Hit :=
  (best (kernelCandidates lang ctx ld used)).map fun b =>
    let sizeBytes := (deviceAt ctx b.path).map (·.sizeBytes)
    let sizeKnown := ld.sizeBytes.getD 0 ≠ 0 && sizeBytes.getD 0 ≠ 0
    let confidence : Confidence :=
      if (parseScsiTuple (some b.scsiAddress)).any
          fun tuple => tuple.target = parseVdIndex ld.id then
        if sizeKnown then if sizeMatch lang ld.sizeBytes sizeBytes then .high else .low
        else .medium
      else if ld.sizeBytes.getD 0 ≠ 0 then .medium else .low
    ⟨b.path, .lsscsi, confidence, some b.scsiAddress⟩

def idMatch (ld : LogicalDrive) (dev : BlockDevice) : Option MatchMethod :=
  let ldWwn := wwnNorm lang ld.wwn
  let ldSer := serialNorm lang ld.serial
  if ldWwn ≠ [] && ldWwn = wwnNorm lang dev.wwn then some .sizeWwn
  else if ldSer ≠ [] && ldSer = serialNorm lang (dev.serial.or dev.idSerial) then some .sizeSerial
  else none

/-- The devices one after the other, up to the first with the drive's identifier; with the
candidates that are noted on the way. -/
def scanPool (ld : LogicalDrive) : List BlockDevice → List MappingCandidate × Option Hit
  | [] => ([], none)
  | dev :: pool =>
    if !sizeMatch lang ld.sizeBytes (some dev.sizeBytes) then scanPool ld pool
    else
      match idMatch lang ld dev with
      | some .sizeWwn =>
        ([⟨dev.path, 95, ["WWN match".toList]⟩], some ⟨dev.path, .sizeWwn, .high, none⟩)
      | some method =>
        ([⟨dev.path, 90, ["serial match".toList]⟩], some ⟨dev.path, method, .high, none⟩)
      | none =>
        let rest := scanPool ld pool
        let reasons := ["size ".toList ++ Nat.toDigits 10 dev.sizeBytes, dev.model.getD []]
        (⟨dev.path, 70, reasons.filter (· ≠ [])⟩ :: rest.1, rest.2)

def blockPool (used : List Text) : List BlockDevice :=
  ctx.blockDevices.filter fun dev => isRaidExposedDisk lang dev && !used.contains dev.path

def matchFromBlockDevices (ld : LogicalDrive) (used : List Text) : Option Hit :=
  let pool := blockPool lang ctx used
  (scanPool lang ld pool).2.or
    (match pool.filter fun dev => sizeMatch lang ld.sizeBytes (some dev.sizeBytes) with
      | [dev] => some ⟨dev.path, .sizeVendor, .medium, none⟩
      | _ => none)

def deviceNamed (path : Text) : Option BlockDevice :=
  ctx.blockDevices.find? fun d => d.path = path || "/dev/".toList ++ d.name = path

def mountHit (ld : LogicalDrive) (used : List Text) (m : FileSystemMount) : Option Hit :=
  if !m.mounted then none
  else
    match normalizeOsPath (some (m.linkedBackendPath.getD m.backingDevice)) with
    | some path =>
      if used.contains path then none
      else
        match deviceNamed ctx path with
        | some dev =>
          if isRaidExposedDisk lang dev && sizeMatch lang ld.sizeBytes (some dev.sizeBytes) then
            some ⟨dev.path, .mountBacking, .medium, none⟩
          else none
        | none => none
    | none => none

def matchFromMounts (ld : LogicalDrive) (used : List Text) : Option Hit :=
  ctx.mounts.findSome? (mountHit lang ctx ld used)

def kernelPaths : List Text := ctx.kernelPool.filterMap fun k => normalizeOsPath k.devicePath

def availablePaths (used : List Text) : List Text :=
  (kernelPaths ctx).filter fun path => path ∉ used

/-- `[...drives].sort((a, b) => parseVdIndex(a.id) - parseVdIndex(b.id))` -/
def sortDrives (drives : List LogicalDrive) : List LogicalDrive :=
  drives.mergeSort fun a b => indexLe (parseVdIndex a.id) (parseVdIndex b.id)

/-- `[...paths].sort(compareByLocale)` -/
def sortPaths (paths : List Text) : List Text :=
  paths.mergeSort fun a b => (lang.localeCompare a b).isLE

def orderedFallback (unmappedLds : List LogicalDrive) (used : List Text) (ld : LogicalDrive) :
    Option Hit :=
  let available := availablePaths ctx used
  if unmappedLds.length ≠ available.length ∨ available.length = 0 then none
  else
    ((sortDrives unmappedLds).findIdx? fun l => l.id = ld.id).bind fun idx =>
      (sortPaths lang available)[idx]?.map fun path => ⟨path, .order, .low, none⟩

def cliHit (ld : LogicalDrive) (used : List Text) : Option Hit :=
  ((cliOsPath ld).filter fun path => !used.contains path).map fun path =>
    ⟨path, .osDriveName, .high, none⟩

/-- What the identifiers, sizes and mounts give. -/
def strategies (used : List Text) (ld : LogicalDrive) : Option Hit :=
  (cliHit ld used).or ((matchFromKernel lang ctx ld used).or
    ((matchFromBlockDevices lang ctx ld used).or (matchFromMounts lang ctx ld used)))

def notedCandidates (used : List Text) (ld : LogicalDrive) : List MappingCandidate :=
  if (cliHit ld used).isSome || (matchFromKernel lang ctx ld used).isSome then []
  else (scanPool lang ld (blockPool lang ctx used)).1

def orderWarning : Text := "Mapped by VD order vs SCSI disk order (low confidence)".toList

def enrichLogicalDrive (unmappedInCtrl : List LogicalDrive) (usedPaths : List Text)
    (ld : LogicalDrive) : EnrichedDrive × List Text :=
  let noted := notedCandidates lang ctx usedPaths ld
  match (strategies lang ctx usedPaths ld).or
      (orderedFallback lang ctx unmappedInCtrl usedPaths ld) with
  | some hit =>
    ({ drive := { ld with
        devicePath := some hit.path
        osDevicePath := some hit.path
        scsiDevice := some hit.path
        scsiAddress := hit.scsiAddress.or ld.scsiAddress }
       mapping := some hit
       candidateOsPaths := noted
       failureReason := if hit.method = .order then some orderWarning else none },
      hit.path :: usedPaths)
  | none =>
    let candidates := noted ++
      ((ctx.blockDevices.filter fun dev => isRaidExposedDisk lang dev &&
        sizeMatch lang ld.sizeBytes (some dev.sizeBytes)).map fun dev =>
          ⟨dev.path, 40, ["size match only (already assigned or ambiguous)".toList]⟩)
    ({ drive := ld
       candidateOsPaths := candidates
       failureReason := some (if candidates = [] then
          "No PERC/MegaRAID block device in lsblk/lsscsi".toList
        else "No unique match among candidates".toList) },
      usedPaths)

/-- The first pass over the drives of a controller. -/
def enrichDrives (unmappedInCtrl : List LogicalDrive) :
    List Text → List LogicalDrive → List EnrichedDrive × List Text
  | usedPaths, [] => ([], usedPaths)
  | usedPaths, ld :: lds =>
    let first := enrichLogicalDrive lang ctx unmappedInCtrl usedPaths ld
    let rest := enrichDrives unmappedInCtrl first.2 lds
    (first.1 :: rest.1, rest.2)

/-- The second pass, over the drives that are not mapped. -/
def enrichUnmapped (unmapped : List LogicalDrive) :
    List Text → List EnrichedDrive → List EnrichedDrive
  | _, [] => []
  | usedPaths, ld :: lds =>
    if ld.mapping.isSome then ld :: enrichUnmapped unmapped usedPaths lds
    else
      let again := enrichLogicalDrive lang ctx unmapped usedPaths ld.drive
      again.1 :: enrichUnmapped unmapped again.2 lds

/-- The drives that are counted in the first pass: the tool names no path for them. -/
def Context.withoutCli (ctx : Context) : List LogicalDrive :=
  ctx.ctrl.logicalDrives.filter fun l => (cliOsPath l).isNone

def enrichController : List EnrichedDrive :=
  let pass1 := enrichDrives lang ctx ctx.withoutCli [] ctx.ctrl.logicalDrives
  let unmapped := pass1.1.filter (·.mapping.isNone)
  if unmapped.length ≤ 1 then pass1.1
  else enrichUnmapped lang ctx (unmapped.map (·.drive)) pass1.2 pass1.1

end

structure MappingInput where
  controllers : List HardwareController
  blockDevices : List BlockDevice
  kernelLogicalDrives : List KernelDrive
  mounts : Option (List FileSystemMount) := none

def MappingInput.context (lang : Language) (input : MappingInput) (ctrl : HardwareController) :
    Context :=
  { ctrl
    kernelPool := kernelDrivesForController lang ctrl input.kernelLogicalDrives
      (input.controllers.length = 1)
    blockDevices := input.blockDevices
    mounts := input.mounts.getD [] }

def enrichHardwareLdOsPaths (lang : Language) (input : MappingInput) :
    List (HardwareController × List EnrichedDrive) :=
  input.controllers.map fun ctrl => (ctrl, enrichController lang (input.context lang ctrl))

end EsosWebui.Raid.OsPaths
