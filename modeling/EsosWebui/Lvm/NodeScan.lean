import EsosWebui.Esos.Guards
import EsosWebui.Lvm.Validation
import EsosWebui.Lvm.SafeCandidates

/-! A scan of the storage of a node, with the overview of its volumes that is made from it, and what
the scan says against a device. -/
namespace EsosWebui.Lvm

open Js
open Raid (RaidBlockDevice)
open Candidates

structure ScannedDevice extends RaidBlockDevice where
  parent : Option String := none

def ScannedDevice.toEsos (row : ScannedDevice) : Esos.BlockDevice :=
  { path := row.path.toList, type := row.type, parent := row.parent.map (·.toList)
    mountpoint := row.mountpoint.map (·.toList) }

def ScannedDevice.toInventory (row : ScannedDevice) : Raid.Inventory.BlockDevice :=
  { name := row.name.toList
    path := row.path.toList
    sizeBytes := row.sizeBytes
    type := row.type
    model := row.model.map (·.toList)
    serial := row.serial.map (·.toList)
    wwn := row.wwn.map (·.toList)
    byIdPaths := some (row.byIdPaths.map (·.toList))
    idSerial := row.idSerial.map (·.toList)
    vendor := row.vendor.map (·.toList)
    mountpoint := row.mountpoint.map (·.toList)
    parent := row.parent.map (·.toList)
    diskSignatures := row.diskSignatures.map fun signatures => signatures.map (·.toList)
    wipefsSignatures := some (row.wipefsSignatures.map (·.toList))
    usedBy := row.usedBy
    esosSystemProtected := row.esosSystemProtected
    protectedDevice := row.protectedDevice.map (·.toList) }

def arrayToInventory (arr : Raid.MdArray) : Raid.Inventory.MdArray :=
  { name := arr.name.toList
    path := arr.path.toList
    uuid := arr.uuid.map (·.toList)
    state := arr.state
    sizeBytes := arr.sizeBytes
    raidDevices := arr.raidDevices
    activeDevices := arr.activeDevices
    failedDevices := arr.failedDevices
    members := arr.members.filterMap fun m => m.path.map (·.toList)
    usedBy := arr.usedBy }

/-- What is found on a node: its rows of block devices before the marks of the ESOS system, and
what is known of that system. -/
structure NodeScan where
  sanId : String
  label : String
  role : Option String := none
  readOnly : Bool := false
  sshReady : Bool := true
  error : Option String := none
  tools : LvmToolsInfo := {}
  pvs : List PhysicalVolume := []
  vgs : List VolumeGroup := []
  lvs : List LogicalVolume := []
  /-- The paths that the logical volumes may be found at. -/
  lvPaths : List String := []
  rows : List ScannedDevice := []
  mdArrays : List Raid.MdArray := []
  hardwareControllers : List Raid.Inventory.HardwareController := []
  hasRaidCliTool : Bool := false
  systemProtection : Esos.ProtectionSnapshot := {}

def toCandidateDevice (c : Candidate) : LvmCandidateDevice :=
  { path := String.ofList c.path, sizeBytes := c.sizeBytes, eligible := c.eligible
    reasons := c.reasons.map String.ofList, usedBy := c.usedBy }

namespace NodeScan

variable (scan : NodeScan)

def protection (path : String) : Option Esos.ProtectedDevice :=
  Esos.findProtectionForBlockPath path.toList scan.systemProtection
    (scan.rows.map ScannedDevice.toEsos)

def marked (row : ScannedDevice) : ScannedDevice :=
  match scan.protection row.path with
  | none => row
  | some info =>
    { row with
      esosSystemProtected := true
      protectedDevice := some (String.ofList info.protectedDevice)
      eligibleForMd := false
      mdEligibilityReasons :=
        if "Volume système ESOS protégé" ∈ row.mdEligibilityReasons then row.mdEligibilityReasons
        else row.mdEligibilityReasons ++ ["Volume système ESOS protégé"] }

def blockDevices : List ScannedDevice := scan.rows.map scan.marked

def candidateInput : LvmCandidateInventoryInput :=
  { blockDevices := scan.blockDevices.map ScannedDevice.toInventory
    mdArrays := scan.mdArrays.map arrayToInventory
    hardwareControllers := scan.hardwareControllers
    pvPaths := scan.pvs.map (·.path.toList)
    lvPaths := scan.lvPaths.map (·.toList)
    hasRaidCliTool := scan.hasRaidCliTool }

variable (localeCompare : Text → Text → Ordering)

def overview : LvmOverviewResponse :=
  { tools := scan.tools
    pvs := scan.pvs
    vgs := scan.vgs
    lvs := scan.lvs
    candidates :=
      (buildLvmCandidatesFromInventory localeCompare scan.candidateInput).map toCandidateDevice }

def inventory : ClusterLvmNodeInventory :=
  { sanId := scan.sanId
    label := scan.label
    role := scan.role
    readOnly := scan.readOnly
    sshReady := scan.sshReady
    error := scan.error
    overview := scan.overview localeCompare
    mdArrays := scan.mdArrays
    blockDevices := scan.blockDevices.map (·.toRaidBlockDevice) }

end NodeScan

inductive DeviceUse where
  | mounted
  | volume
  | exported
  | member

def ShowsUse (dev : Raid.Inventory.BlockDevice) : DeviceUse → Prop
  | .mounted => dev.IsMounted
  | .volume => Raid.Usage.lvm ∈ dev.usedBy
  | .exported => Raid.Usage.scst ∈ dev.usedBy
  | .member => Raid.Usage.md ∈ dev.usedBy ∧ dev.type ≠ .raid

def ArrayShowsUse (arr : Raid.Inventory.MdArray) : DeviceUse → Prop
  | .mounted => Raid.Usage.mounted ∈ arr.usedBy
  | .volume => Raid.Usage.lvm ∈ arr.usedBy
  | .exported => Raid.Usage.scst ∈ arr.usedBy
  | .member => False

/-- A fact of a scan that speaks against a volume on a path. -/
inductive Evidence where
  | unlisted
  | row (dev : Raid.Inventory.BlockDevice) (use : DeviceUse)
  | array (arr : Raid.Inventory.MdArray) (use : DeviceUse)
  | physicalVolume
  | memberOf (arr : Raid.Inventory.MdArray)
  | system

def Evidence.Against (scan : NodeScan) (path : String) : Evidence → Prop
  | unlisted => (∀ dev ∈ scan.candidateInput.blockDevices, dev.path ≠ path.toList) ∧
      ∀ arr ∈ scan.candidateInput.mdArrays, arr.path ≠ path.toList
  | row dev use => dev ∈ scan.candidateInput.blockDevices ∧ dev.path = path.toList ∧
      ShowsUse dev use
  | array arr use => arr ∈ scan.candidateInput.mdArrays ∧ arr.path = path.toList ∧
      ArrayShowsUse arr use
  | physicalVolume => path.toList ∈ scan.candidateInput.pvPaths
  | memberOf arr => arr ∈ scan.candidateInput.mdArrays ∧ path.toList ∈ arr.members
  | system => scan.protection path ≠ none

/-- The scan lists the device of a path, and it is neither mounted nor a physical volume, exported,
a member of an array or a device of the ESOS system. -/
structure NodeScan.IsFree (scan : NodeScan) (path : String) : Prop where
  listed : (∃ dev ∈ scan.candidateInput.blockDevices, dev.path = path.toList) ∨
    ∃ arr ∈ scan.candidateInput.mdArrays, arr.path = path.toList
  notPv : path.toList ∉ scan.candidateInput.pvPaths
  row : ∀ dev ∈ scan.candidateInput.blockDevices, dev.path = path.toList →
    ¬dev.IsMounted ∧ Raid.Usage.lvm ∉ dev.usedBy ∧ Raid.Usage.scst ∉ dev.usedBy ∧
      (Raid.Usage.md ∈ dev.usedBy → dev.type = .raid)
  array : ∀ arr ∈ scan.candidateInput.mdArrays, arr.path = path.toList →
    Raid.Usage.mounted ∉ arr.usedBy ∧ Raid.Usage.lvm ∉ arr.usedBy ∧ Raid.Usage.scst ∉ arr.usedBy
  notMember : ∀ arr ∈ scan.candidateInput.mdArrays, path.toList ∉ arr.members
  notSystem : scan.protection path = none

theorem NodeScan.isFree_iff {scan : NodeScan} {path : String} :
    scan.IsFree path ↔ ∀ e : Evidence, ¬e.Against scan path := by
  constructor
  · intro hFree e hAgainst
    cases e with
    | unlisted =>
      obtain ⟨dev, hDev, hPath⟩ | ⟨arr, hArr, hPath⟩ := hFree.listed
      · exact hAgainst.1 dev hDev hPath
      · exact hAgainst.2 arr hArr hPath
    | row dev use =>
      obtain ⟨hDev, hPath, hUse⟩ := hAgainst
      obtain ⟨hMounted, hLvm, hScst, hMd⟩ := hFree.row dev hDev hPath
      cases use with
      | mounted => exact hMounted hUse
      | volume => exact hLvm hUse
      | exported => exact hScst hUse
      | member => exact hUse.2 (hMd hUse.1)
    | array arr use =>
      obtain ⟨hArr, hPath, hUse⟩ := hAgainst
      obtain ⟨hMounted, hLvm, hScst⟩ := hFree.array arr hArr hPath
      cases use with
      | mounted => exact hMounted hUse
      | volume => exact hLvm hUse
      | exported => exact hScst hUse
      | member => exact hUse
    | physicalVolume => exact hFree.notPv hAgainst
    | memberOf arr => exact hFree.notMember arr hAgainst.1 hAgainst.2
    | system => exact hAgainst hFree.notSystem
  · intro hNone
    refine ⟨?_, hNone .physicalVolume, ?_, ?_, ?_, ?_⟩
    · by_contra hNot
      rw [not_or] at hNot
      apply hNone .unlisted
      exact ⟨fun dev hDev hPath => hNot.1 ⟨dev, hDev, hPath⟩,
        fun arr hArr hPath => hNot.2 ⟨arr, hArr, hPath⟩⟩
    · intro dev hDev hPath
      have hRow (use : DeviceUse) : ¬ShowsUse dev use := fun hUse =>
        hNone (.row dev use) ⟨hDev, hPath, hUse⟩
      refine ⟨hRow .mounted, hRow .volume, hRow .exported, ?_⟩
      intro hMd
      by_contra hType
      exact hRow .member ⟨hMd, hType⟩
    · intro arr hArr hPath
      have hArray (use : DeviceUse) : ¬ArrayShowsUse arr use := fun hUse =>
        hNone (.array arr use) ⟨hArr, hPath, hUse⟩
      exact ⟨hArray .mounted, hArray .volume, hArray .exported⟩
    · exact fun arr hArr hMember => hNone (.memberOf arr) ⟨hArr, hMember⟩
    · exact Classical.not_not.mp (hNone .system)

end EsosWebui.Lvm
