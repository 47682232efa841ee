import Mathlib.Data.List.Nodup

/-! Inventories of the nodes of a cluster, requests on their MD arrays, and what
preflights, recovery assessments and plans say. Sizes and counts are exact. -/
namespace EsosWebui.Raid

/-- `createError({ statusCode, statusMessage })` -/
structure HttpError where
  statusCode : Nat
  statusMessage : String
  deriving DecidableEq

inductive DeviceType where
  | disk
  | part
  | raid
  | lvm
  | rom
  | unknown
  deriving DecidableEq

def DeviceType.name : DeviceType → String
  | disk => "disk"
  | part => "part"
  | raid => "raid"
  | lvm => "lvm"
  | rom => "rom"
  | unknown => "unknown"

inductive Usage where
  | filesystem
  | md
  | lvm
  | scst
  | hardwareRaid
  | mounted
  | unknownSignature
  deriving DecidableEq

/-- What `mdadm --examine` found on a device. -/
structure MdExamineInfo where
  uuid : Option String := none
  name : Option String := none
  deriving DecidableEq

structure RaidBlockDevice where
  name : String
  path : String
  sizeBytes : Nat := 0
  type : DeviceType
  model : Option String := none
  serial : Option String := none
  wwn : Option String := none
  byIdPaths : List String := []
  idSerial : Option String := none
  vendor : Option String := none
  transport : Option String := none
  rotational : Option Bool := none
  mountpoint : Option String := none
  partitionTypeCode : Option String := none
  partitionTypeName : Option String := none
  hasMdSuperblock : Bool := false
  mdExamine : Option MdExamineInfo := none
  wipefsSignatures : List String := []
  diskSignatures : Option (List String) := none
  childrenPaths : List String := []
  mdEligibilityReasons : List String := []
  eligibleForMd : Bool := false
  eligibleForMdPartitionPrep : Bool := false
  mdPartitionPrepReasons : List String := []
  usedBy : List Usage := []
  esosSystemProtected : Bool := false
  /-- `esosProtection?.protectedDevice` -/
  protectedDevice : Option String := none
  deriving DecidableEq

inductive RaidLevel where
  | raid0
  | raid1
  | raid4
  | raid5
  | raid6
  | raid10
  | linear
  | unknown
  deriving DecidableEq

def RaidLevel.name : RaidLevel → String
  | raid0 => "0"
  | raid1 => "1"
  | raid4 => "4"
  | raid5 => "5"
  | raid6 => "6"
  | raid10 => "10"
  | linear => "linear"
  | unknown => "unknown"

inductive MdState where
  | active
  | inactive
  | clean
  | degraded
  | recovering
  | resync
  | failed
  | unknown
  deriving DecidableEq

def MdState.name : MdState → String
  | active => "active"
  | inactive => "inactive"
  | clean => "clean"
  | degraded => "degraded"
  | recovering => "recovering"
  | resync => "resync"
  | failed => "failed"
  | unknown => "unknown"

inductive MemberState where
  | active
  | sync
  | faulty
  | spare
  | removed
  | rebuilding
  deriving DecidableEq

structure MdMemberDevice where
  path : Option String
  state : List MemberState := []
  deriving DecidableEq

structure MdArray where
  name : String
  path : String
  uuid : Option String := none
  raidLevel : RaidLevel := .unknown
  state : MdState := .active
  sizeBytes : Option Nat := none
  raidDevices : Nat := 0
  activeDevices : Nat := 0
  workingDevices : Nat := 0
  failedDevices : Nat := 0
  spareDevices : Nat := 0
  members : List MdMemberDevice := []
  /-- Whether a resynchronisation is reported to be in progress. -/
  progress : Bool := false
  usedBy : List Usage := []
  deriving DecidableEq

inductive StoppedState where
  | stopped
  | assemblable
  | incomplete
  | ambiguous
  deriving DecidableEq

def StoppedState.name : StoppedState → String
  | stopped => "stopped"
  | assemblable => "assemblable"
  | incomplete => "incomplete"
  | ambiguous => "ambiguous"

structure StoppedMdArrayMember where
  path : String
  present : Bool

structure StoppedMdArray where
  name : String
  path : Option String := none
  uuid : Option String := none
  raidDevices : Nat := 0
  members : List StoppedMdArrayMember := []
  stoppedState : StoppedState := .stopped

structure RaidToolsInfo where
  mdadm : Bool := false
  parted : Bool := false
  sfdisk : Bool := false
  partprobe : Bool := false
  udevadm : Bool := false

structure ClusterStorageNodeInventory where
  sanId : String
  label : String
  role : Option String := none
  readOnly : Bool := false
  sshReady : Bool := true
  error : Option String := none
  tools : Option RaidToolsInfo := none
  blockDevices : List RaidBlockDevice := []
  mdArrays : List MdArray := []
  stoppedMdArrays : List StoppedMdArray := []

/-- The nodes that a request is about: rows of a table with their identifier as key. -/
structure Cluster where
  nodes : List ClusterStorageNodeInventory
  unique : (nodes.map (·.sanId)).Nodup

theorem Cluster.eq_of_sanId {cluster : Cluster} {node other : ClusterStorageNodeInventory}
    (hNode : node ∈ cluster.nodes) (hOther : other ∈ cluster.nodes)
    (hId : node.sanId = other.sanId) : node = other :=
  List.inj_on_of_nodup_map cluster.unique hNode hOther hId

inductive ClusterStorageAction where
  | prepareMdPartitions
  | createMd
  | mdAddDevice
  | stopMd
  | assembleMd
  | zeroMdSuperblocks
  | wipeMdSignatures
  deriving DecidableEq

def ClusterStorageAction.name : ClusterStorageAction → String
  | prepareMdPartitions => "prepare_md_partitions"
  | createMd => "create_md"
  | mdAddDevice => "md_add_device"
  | stopMd => "stop_md"
  | assembleMd => "assemble_md"
  | zeroMdSuperblocks => "zero_md_superblocks"
  | wipeMdSignatures => "wipe_md_signatures"

inductive MdAddMemberIntent where
  | spare
  | replacement
  deriving DecidableEq

def MdAddMemberIntent.name : MdAddMemberIntent → String
  | spare => "spare"
  | replacement => "replacement"

/-- The fields of the payloads of all actions. -/
structure Payload where
  name : Option String := none
  uuid : Option String := none
  targetName : Option String := none
  members : List String := []
  disks : List String := []
  partitionTable : Option String := none
  allowOverwriteSignatures : Bool := false
  level : Option String := none
  chunkKb : Option Nat := none
  devices : List String := []
  raidDevices : Option Nat := none
  createPartitions : Bool := false
  assumePartitionsReady : Bool := false
  device : Option String := none
  intent : Option MdAddMemberIntent := none
  remainingSignatureTypes : List (String × List String) := []

inductive ConfirmedBy where
  | operator
  | derivedFromOperatorDiskMapping
  deriving DecidableEq

inductive SourceKind where
  | disk
  | partition
  deriving DecidableEq

structure ClusterDiskMappingInput where
  sourcePath : String
  targetSanId : String
  targetPath : String
  confirmedBy : Option ConfirmedBy := none
  sourceKind : Option SourceKind := none

inductive Confidence where
  | high
  | medium
  | low
  | none
  deriving DecidableEq

structure ClusterDiskMappingCandidate where
  path : String
  confidence : Confidence
  evidence : List String
  warnings : List String

structure ClusterDiskMapping where
  sourcePath : String
  targetSanId : String
  targetPath : Option String := none
  confidence : Confidence
  evidence : List String := []
  warnings : List String := []
  blockers : List String := []
  candidates : List ClusterDiskMappingCandidate := []

/-- What the preflight of one node says. -/
structure RaidPreflightResult where
  ok : Bool
  blockers : List String
  warnings : List String := []
  requiredConfirmation : String := ""
  impactedDevices : List String := []
  commandPreview : Option String := none
  /-- `preparedPartitionPreview`, as disks and the partitions expected on them. -/
  preparedPartitionPreview : List (String × String) := []

inductive MdArrayNodeState where
  | unreachable
  | error
  | active
  | stopped
  | metadataOnly
  | inactiveDevice
  | missing
  deriving DecidableEq

def MdArrayNodeState.name : MdArrayNodeState → String
  | unreachable => "unreachable"
  | error => "error"
  | active => "active"
  | stopped => "stopped"
  | metadataOnly => "metadata_only"
  | inactiveDevice => "inactive_device"
  | missing => "missing"

structure MdArrayNodeStateReport where
  sanId : String
  label : String
  role : Option String
  sshReady : Bool
  state : MdArrayNodeState
  arrayPath : Option String := none
  members : List String := []
  uuid : Option String := none
  reasons : List String := []
  nodeBlockers : List String := []
  nodeWarnings : List String := []

inductive ClusterMdRecoveryMode where
  | stopAllActive
  | stopActiveOnly
  | stopInconsistentActive
  | assembleMissingOnly
  | assembleStoppedNodes
  | cleanupMappedOnly
  deriving DecidableEq

def ClusterMdRecoveryMode.name : ClusterMdRecoveryMode → String
  | stopAllActive => "stop_all_active"
  | stopActiveOnly => "stop_active_only"
  | stopInconsistentActive => "stop_inconsistent_active"
  | assembleMissingOnly => "assemble_missing_only"
  | assembleStoppedNodes => "assemble_stopped_nodes"
  | cleanupMappedOnly => "cleanup_mapped_only"

structure ClusterMdUuidConflictNode where
  sanId : String
  label : String
  uuid : String
  arrayPath : String

structure ClusterMdRecoveryAssessment where
  nodeReports : List MdArrayNodeStateReport := []
  hardBlockers : List String := []
  warnings : List String := []
  allowedRecoveryModes : List ClusterMdRecoveryMode := []
  recommendedRecoveryMode : Option ClusterMdRecoveryMode := none
  okSymmetric : Bool := false
  structurallySymmetric : Bool := false
  okDegraded : Bool := false
  uuidConflict : Option (List ClusterMdUuidConflictNode) := none

inductive ExecutionMode where
  | allNodes
  | staged

structure ClusterStoragePreflightResult where
  ok : Bool
  okSymmetric : Bool
  okDegraded : Bool
  action : ClusterStorageAction
  sourceSanId : String
  blockers : List String
  warnings : List String
  nodes : List ClusterStorageNodeInventory
  mappings : List ClusterDiskMapping
  /-- `perNodePreflights`, by identifier of the node. -/
  perNodePreflights : List (String × RaidPreflightResult)
  executionModesAllowed : List ExecutionMode
  recoveryAssessment : Option ClusterMdRecoveryAssessment

inductive Source where
  | primary
  | peer

inductive NodeStatus where
  | pending
  | running
  | success
  | failed
  | skipped
  deriving DecidableEq

inductive Participation where
  | execute
  | skip
  | blocked
  deriving DecidableEq

structure ClusterMdNodeResult where
  sanId : String
  label : String
  role : Option String := none
  source : Source
  arrayPath : Option String := none
  members : List String := []
  devices : List String := []
  command : Option String := none
  status : NodeStatus := .pending
  participation : Participation
  skipReason : Option String := none
  nodeState : Option MdArrayNodeState := none
  stdout : Option String := none
  stderr : Option String := none
  error : Option String := none

end EsosWebui.Raid
