import EsosWebui.Js.Arrays
import EsosWebui.Lvm.Types
import EsosWebui.Raid.Inventory

/-! The devices that are offered for a physical volume, from the inventories of a node. -/
namespace EsosWebui.Lvm.Candidates

open Js
open Esos (isSetText)
open Raid (Usage)
open Raid.Inventory

inductive LvmCandidateKind where
  | disk
  | part
  | md
  | hwRaidLd
  | unknown
  deriving DecidableEq

def LvmCandidateKind.rank : LvmCandidateKind → Nat
  | md => 0
  | hwRaidLd => 1
  | disk => 2
  | part => 3
  | unknown => 4

structure Candidate where
  path : Text
  stableId : Option Text := none
  kind : LvmCandidateKind
  sizeBytes : Nat
  eligible : Bool
  reasons : List Text
  usedBy : List LvmUsedBy
  signatures : List Text := []
  model : Option Text := none
  serial : Option Text := none
  hwLdId : Option Text := none
  controllerId : Option Text := none

structure LvmCandidateInventoryInput where
  blockDevices : List BlockDevice := []
  mdArrays : List MdArray := []
  hardwareControllers : List HardwareController := []
  /-- The paths of the physical volumes. -/
  pvPaths : List Text := []
  lvPaths : List Text := []
  /-- A command line tool of the controllers is there. -/
  hasRaidCliTool : Bool := false

def alreadyPv : Text := "Déjà volume physique LVM".toList

def usedByScst : Text := "Utilisé par SCST".toList

def mdSignal : Text := "Membre ou signal MD".toList

def deviceMounted : Text := "Périphérique monté".toList

def mountedOn (mountPoint : Text) : Text := "Monté sur ".toList ++ mountPoint

def protectedVolume (dev : BlockDevice) : Text :=
  let text := "Volume système ESOS protégé".toList
  if isSetText dev.protectedDevice then text ++ " (".toList ++ dev.protectedDevice.getD [] ++ [')']
  else text

/-- `/^\/dev\/md[a-z0-9_-]{0,15}$/i` -/
def isMdPath (path : Text) : Bool :=
  let start := "/dev/md".toList
  let rest := path.drop start.length
  (path.take start.length).map Char.toLower = start && rest.length ≤ 15 &&
    rest.all fun c => Esos.isAsciiLetter c || c.isDigit || c = '_' || c = '-'

def isActiveMdArray (arr : MdArray) : Bool :=
  (arr.state = .clean || arr.state = .active) && arr.failedDevices = 0 &&
    arr.raidDevices ≤ arr.activeDevices

/-- `ld.osDevicePath?.trim() || hwLdOsPath(ld)` -/
def hwLdPath (ld : LogicalDrive) : Option Text :=
  ((ld.osDevicePath.map trim).filter (· ≠ [])).or (hwLdOsPath ld)

def collectMappedHwOsPaths (controllers : List HardwareController) : List Text :=
  controllers.flatMap fun ctrl => ctrl.logicalDrives.filterMap hwLdPath

def Candidate.judged (c : Candidate) : Candidate := { c with eligible := c.reasons = [] }

def candidateKind (dev : BlockDevice) : LvmCandidateKind :=
  if dev.type = .raid || isMdPath dev.path then .md
  else if dev.type = .disk then .disk
  else if dev.type = .part then .part
  else .unknown

def lvmUsage : Usage → Option LvmUsedBy
  | .filesystem => some .filesystem
  | .md => some .md
  | .lvm => some .lvm
  | .scst => some .scst
  | .hardwareRaid => none
  | .mounted => some .mounted
  | .unknownSignature => some .unknownSignature

def mapUsedBy (dev : BlockDevice) : List LvmUsedBy :=
  unique (dev.usedBy.filterMap lvmUsage ++ if dev.type = .lvm then [.lvm] else [])

/-- `idSerial ?? wwn ?? byIdPaths?.[0]` -/
def stableId (dev : BlockDevice) : Option Text :=
  dev.idSerial.or (dev.wwn.or ((dev.byIdPaths.getD []).head?))

/-- What an inventory row says against a volume on it. -/
def collectBlockDevReasons (dev : BlockDevice) : List Text :=
  (if isSetText dev.mountpoint then [mountedOn (dev.mountpoint.getD [])] else []) ++
    (if dev.usedBy.contains .mounted then [deviceMounted] else []) ++
    (if dev.usedBy.contains .lvm then [alreadyPv] else []) ++
    (if dev.usedBy.contains .scst then [usedByScst] else []) ++
    (if dev.usedBy.contains .md then [mdSignal] else []) ++
    (if dev.usedBy.contains .filesystem || dev.signatures ≠ [] then
      ["Signature ou système de fichiers détecté".toList] else []) ++
    (if dev.esosSystemProtected then [protectedVolume dev] else [])

def hwRaidMdUnmappedReason : Text := "Volume RAID matériel (chemin OS non résolu)".toList

structure HwBackendEligibility where
  lvmEligible : Bool
  reasons : List Text

def evaluateHwBackendEligibility (dev : Option BlockDevice) (ld : LogicalDrive) :
    HwBackendEligibility :=
  if ld.isUsable = false then
    ⟨false, ["État du volume matériel : ".toList ++ ld.state.name]⟩
  else
    match dev with
    | none => ⟨false, [hwRaidMdUnmappedReason]⟩
    | some dev => ⟨collectBlockDevReasons dev = [], collectBlockDevReasons dev⟩

def findBlockDeviceByPath (blockDevices : List BlockDevice) (path : Text) : Option BlockDevice :=
  match normalizeOsPath (some path) with
  | none => none
  | some target =>
    let name := if startsWith target "/dev/".toList then target.drop 5 else target
    blockDevices.find? fun d =>
      d.path = target || d.name = name || normalizeOsPath (some d.path) = some target

namespace LvmCandidateInventoryInput

variable (input : LvmCandidateInventoryInput)

def evaluateHwRaidLdFromBlockDevice (dev : BlockDevice) (ld : LogicalDrive) : Option Candidate :=
  if dev.path ∈ input.lvPaths ∨ dev.path ∈ input.pvPaths then none
  else
    let backend := evaluateHwBackendEligibility (some dev) ld
    some <| Candidate.judged
      { path := dev.path
        kind := .hwRaidLd
        sizeBytes := dev.sizeBytes
        eligible := false
        usedBy := mapUsedBy dev
        reasons := if backend.lvmEligible then [] else backend.reasons
        stableId := stableId dev
        model := dev.model.or ld.scsiModel
        serial := dev.serial
        signatures := dev.signatures
        hwLdId := some ld.id
        controllerId := some ld.controllerId }

def blockDeviceReasons (dev : BlockDevice) : List Text :=
  let kind := candidateKind dev
  let usedBy := mapUsedBy dev
  (if dev.type = .part then
    ["Les partitions ne sont pas proposées pour pvcreate".toList] else []) ++
  (if kind = .disk then
    [("Disque brut non proposé pour pvcreate — utilisez un tableau MD " ++
      "ou un volume RAID matériel").toList] else []) ++
  (if isSetText dev.mountpoint || usedBy.contains .mounted then
    [if isSetText dev.mountpoint then mountedOn (dev.mountpoint.getD []) else deviceMounted]
    else []) ++
  (if usedBy.contains .lvm then [alreadyPv] else []) ++
  (if usedBy.contains .scst then [usedByScst] else []) ++
  (if usedBy.contains .md && kind ≠ .md then [mdSignal] else []) ++
  (if usedBy.contains .filesystem || usedBy.contains .unknownSignature then
    ["Signature ou système de fichiers détecté — wipefs requis avant pvcreate".toList]
    else []) ++
  (if kind = .unknown then ["Type de périphérique non pris en charge".toList] else []) ++
  (if dev.esosSystemProtected then [protectedVolume dev] else [])

def evaluateBlockDevice (dev : BlockDevice) : Option Candidate :=
  if dev.type = .lvm ∨ dev.type = .rom then none
  else if dev.path ∈ input.lvPaths ∨ dev.path ∈ input.pvPaths then none
  else
    some <| Candidate.judged
      { path := dev.path
        kind := candidateKind dev
        sizeBytes := dev.sizeBytes
        eligible := false
        usedBy := mapUsedBy dev
        reasons := blockDeviceReasons dev
        stableId := stableId dev
        model := dev.model
        serial := dev.serial
        signatures := dev.signatures }

def arrayCandidate (arr : MdArray) : Option Candidate :=
  if isActiveMdArray arr = false ∨ arr.path ∈ input.pvPaths then none
  else
    let usedBy : List LvmUsedBy :=
      (if arr.usedBy.contains .lvm then [.lvm] else []) ++
        if arr.usedBy.contains .scst then [.scst] else []
    some <| Candidate.judged
      { path := arr.path
        kind := .md
        sizeBytes := arr.sizeBytes.getD 0
        eligible := false
        usedBy
        reasons := (if usedBy.contains .lvm then [alreadyPv] else []) ++
          if usedBy.contains .scst then [usedByScst] else []
        stableId := arr.uuid }

def driveCandidate (ctrl : HardwareController) (ld : LogicalDrive) : Option Candidate :=
  if ld.isUsable = false then none
  else
    match hwLdPath ld with
    | none =>
      some <| Candidate.judged
        { path := "hw:".toList ++ ctrl.id ++ '/' :: ld.id
          kind := .hwRaidLd
          sizeBytes := ld.sizeBytes.getD 0
          eligible := false
          usedBy := []
          reasons := [hwLdUnmappedReasonKey input.hasRaidCliTool]
          model := ld.scsiModel
          hwLdId := some ld.id
          controllerId := some ctrl.id }
    | some path =>
      if path ∈ input.pvPaths then none
      else
        match findBlockDeviceByPath input.blockDevices path with
        | some dev => input.evaluateHwRaidLdFromBlockDevice dev ld
        | none =>
          let backend := evaluateHwBackendEligibility none ld
          some <| Candidate.judged
            { path
              kind := .hwRaidLd
              sizeBytes := ld.sizeBytes.getD 0
              eligible := false
              usedBy := []
              reasons := if backend.reasons ≠ [] then backend.reasons
                else ["lvm.candidate.reason.no_os_path".toList]
              model := ld.scsiModel
              hwLdId := some ld.id
              controllerId := some ctrl.id }

def push (candidates : List Candidate) : Option Candidate → List Candidate
  | none => candidates
  | some c => if c.path ∈ candidates.map (·.path) then candidates else candidates ++ [c]

def pushBlockDevice (candidates : List Candidate) (dev : BlockDevice) : List Candidate :=
  if dev.path ∈ collectMappedHwOsPaths input.hardwareControllers then candidates
  else if isMdPath dev.path && candidates.any (·.path = dev.path) then candidates
  else push candidates (input.evaluateBlockDevice dev)

def candidates : List Candidate :=
  let arrays := (input.mdArrays.map input.arrayCandidate).foldl push []
  let drives := (input.hardwareControllers.flatMap fun ctrl =>
    ctrl.logicalDrives.map (input.driveCandidate ctrl)).foldl push arrays
  input.blockDevices.foldl input.pushBlockDevice drives

end LvmCandidateInventoryInput

def candidateLe (localeCompare : Text → Text → Ordering) (a b : Candidate) : Bool :=
  ((compare a.kind.rank b.kind.rank).then (localeCompare a.path b.path)).isLE

def buildLvmCandidatesFromInventory (localeCompare : Text → Text → Ordering)
    (input : LvmCandidateInventoryInput) : List Candidate :=
  input.candidates.mergeSort (candidateLe localeCompare)

end EsosWebui.Lvm.Candidates
