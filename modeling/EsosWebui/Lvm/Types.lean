import EsosWebui.Raid.Types

/-! What is known of the LVM of the nodes of a cluster, the requests on it, and
their plans and results. Sizes and counts are exact. -/
namespace EsosWebui.Lvm

open Raid (RaidBlockDevice MdArray)

inductive LvmAction where
  | pvcreate
  | vgcreate
  | lvcreate
  | pvremove
  | vgremove
  | lvremove
  | bindScst
  deriving DecidableEq

/-- What a candidate or a logical volume is in use for. -/
inductive LvmUsedBy where
  | filesystem
  | md
  | lvm
  | scst
  | mounted
  | unknownSignature
  deriving DecidableEq

structure LvmToolsInfo where
  pvcreate : Bool := false
  vgcreate : Bool := false
  lvcreate : Bool := false
  clvmd : Bool := false

structure PhysicalVolume where
  path : String
  vgName : String := ""

structure VolumeGroup where
  name : String
  freeBytes : Nat := 0
  pvCount : Nat := 0
  clustered : Bool := false

structure LogicalVolume where
  name : String
  vgName : String
  sizeBytes : Nat := 0
  usedBy : List LvmUsedBy := []

structure LvmCandidateDevice where
  path : String
  sizeBytes : Nat := 0
  eligible : Bool := true
  reasons : List String := []
  usedBy : List LvmUsedBy := []

structure LvmOverviewResponse where
  tools : LvmToolsInfo := {}
  pvs : List PhysicalVolume := []
  vgs : List VolumeGroup := []
  lvs : List LogicalVolume := []
  candidates : List LvmCandidateDevice := []

structure ClusterLvmNodeInventory where
  sanId : String
  label : String
  role : Option String := none
  readOnly : Bool := false
  sshReady : Bool := true
  error : Option String := none
  overview : LvmOverviewResponse := {}
  mdArrays : List MdArray := []
  blockDevices : List RaidBlockDevice := []

/-- The fields of the payloads of all actions. -/
structure LvmPayload where
  path : String := ""
  force : Bool := false
  name : String := ""
  pvPaths : List String := []
  vgName : String := ""
  sizeBytes : Nat := 0
  confirmation : String := ""

structure ClusterLvmDiskMapping where
  sourceSanId : String
  peerSanId : String
  sourcePath : String
  peerPath : String

structure ClusterLvmExecutionRequest where
  primarySanId : String
  clusterId : Option String := none
  diskMappings : Option (List ClusterLvmDiskMapping) := none

inductive Participation where
  | execute
  | skip
  | failed
  deriving DecidableEq

structure ClusterLvmNodeResult where
  sanId : String
  label : String
  participation : Participation
  command : Option String := none
  exitCode : Option Nat := none
  stdout : Option String := none
  stderr : Option String := none
  error : Option String := none
  deriving DecidableEq

structure ClusterLvmExecutionPlan where
  action : LvmAction
  clusterId : Option String := none
  primarySanId : String
  confirmationPhrase : String
  nodeResults : List ClusterLvmNodeResult
  okSymmetric : Bool
  warnings : List String := []
  blockers : List String := []

structure ClusterLvmExecutionResult where
  success : Bool
  action : LvmAction
  clusterId : String
  primarySanId : String
  nodeResults : List ClusterLvmNodeResult
  refreshedSanIds : List String
  errors : List String
  deriving DecidableEq

end EsosWebui.Lvm
