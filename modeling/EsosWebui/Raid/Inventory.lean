import EsosWebui.Esos.Protection

/-! The block devices, MD arrays and controllers of a node as they are looked up for new uses. -/
namespace EsosWebui.Raid.Inventory

open Js
open Esos (isSetText)

structure BlockDevice where
  name : Text
  path : Text
  sizeBytes : Nat := 0
  type : DeviceType
  model : Option Text := none
  serial : Option Text := none
  wwn : Option Text := none
  byIdPaths : Option (List Text) := none
  idSerial : Option Text := none
  idModel : Option Text := none
  vendor : Option Text := none
  mountpoint : Option Text := none
  parent : Option Text := none
  diskSignatures : Option (List Text) := none
  wipefsSignatures : Option (List Text) := none
  usedBy : List Usage := []
  esosSystemProtected : Bool := false
  /-- `esosProtection?.protectedDevice` -/
  protectedDevice : Option Text := none

namespace BlockDevice

/-- `diskSignatures ?? wipefsSignatures ?? []` -/
def signatures (dev : BlockDevice) : List Text :=
  (dev.diskSignatures.or dev.wipefsSignatures).getD []

def aliases (dev : BlockDevice) : List Text :=
  dev.path :: (if dev.name = [] then [] else ["/dev/".toList ++ dev.name]) ++
    dev.byIdPaths.getD [] ++
    ((dev.wwn.filter (· ≠ [])).map ("/dev/disk/by-id/wwn-".toList ++ ·)).toList

def IsMounted (dev : BlockDevice) : Prop :=
  Usage.mounted ∈ dev.usedBy ∨ isSetText dev.mountpoint = true

/-- The inventory names the other device as the parent. -/
def IsChildOf (dev parent : BlockDevice) : Prop :=
  dev.parent = some parent.name ∨ dev.parent = some parent.path

end BlockDevice

structure MdArray where
  name : Text
  path : Text
  uuid : Option Text := none
  state : MdState
  sizeBytes : Option Nat := none
  raidDevices : Nat := 0
  activeDevices : Nat := 0
  failedDevices : Nat := 0
  /-- The paths of the members that have one. -/
  members : List Text := []
  usedBy : List Usage := []

inductive LogicalDriveState where
  | optimal
  | degraded
  | rebuilding
  | failed
  | offline
  | unknown
  deriving DecidableEq

def LogicalDriveState.name : LogicalDriveState → Text
  | optimal => "optimal".toList
  | degraded => "degraded".toList
  | rebuilding => "rebuilding".toList
  | failed => "failed".toList
  | offline => "offline".toList
  | unknown => "unknown".toList

structure LogicalDrive where
  controllerId : Text := []
  id : Text
  name : Option Text := none
  state : LogicalDriveState
  sizeBytes : Option Nat := none
  osDevicePath : Option Text := none
  devicePath : Option Text := none
  scsiDevice : Option Text := none
  scsiAddress : Option Text := none
  scsiModel : Option Text := none
  wwn : Option Text := none
  serial : Option Text := none

structure HardwareController where
  id : Text
  logicalDrives : List LogicalDrive

def LogicalDrive.isUsable (ld : LogicalDrive) : Bool := ld.state = .optimal || ld.state = .degraded

/-- `/^sd[a-z]+$/` -/
def isSdName (text : Text) : Bool :=
  startsWith text "sd".toList && text.length ≠ 2 && (text.drop 2).all Char.isLower

def normalizeOsPath (path : Option Text) : Option Text :=
  let t := trim (path.getD [])
  if t = [] then none
  else if startsWith t "/dev/".toList then some t
  else if isSdName t then some ("/dev/".toList ++ t)
  else if startsWith t "disk/by-id".toList then some ('/' :: t)
  else some ("/dev/".toList ++ t)

def hwLdOsPath (ld : LogicalDrive) : Option Text :=
  (normalizeOsPath ld.osDevicePath).or
    ((normalizeOsPath ld.devicePath).or (normalizeOsPath ld.scsiDevice))

def hwLdUnmappedReasonKey (hasRaidCliTool : Bool) : Text :=
  if hasRaidCliTool then "storage.fs.hw_ld.mapping_not_found".toList
  else "storage.fs.hw_ld.tool_missing".toList

end EsosWebui.Raid.Inventory
