import EsosWebui.Js.Json
import EsosWebui.Js.Strings
import EsosWebui.Raid.Types

/-! Whether the active arrays of the nodes of a cluster have the same structure
or, when arrays are shared, the same identity. -/
namespace EsosWebui.Raid

open Js

inductive ClusterMdStorageMode where
  | localSymmetric
  | sharedIdentity
  deriving DecidableEq

def defaultClusterMdStorageMode : ClusterMdStorageMode := .localSymmetric

def resolveClusterMdStorageMode (explicit : Option ClusterMdStorageMode) : ClusterMdStorageMode :=
  explicit.getD defaultClusterMdStorageMode

structure ActiveMdArraySnapshot where
  name : String
  path : String
  uuid : Option String := none
  state : MdState
  raidLevel : Option String := none
  raidDevices : Option Nat := none
  activeDevices : Option Nat := none
  failedDevices : Option Nat := none
  sizeBytes : Option Nat := none
  memberCount : Option Nat := none
  deriving DecidableEq

def mdArrayToActiveSnapshot (arr : MdArray) : ActiveMdArraySnapshot :=
  { name := arr.name
    path := arr.path
    uuid := arr.uuid
    state := arr.state
    raidLevel := some arr.raidLevel.name
    raidDevices := some arr.raidDevices
    activeDevices := some arr.activeDevices
    failedDevices := some arr.failedDevices
    sizeBytes := arr.sizeBytes
    memberCount := some arr.members.length }

structure NodeSnapshot where
  nodeSanId : String
  nodeLabel : String
  activeMdArrays : List ActiveMdArraySnapshot
  deriving DecidableEq

inductive LocalSymmetricIssueKind where
  | missingOnPeer
  | raidLevel
  | raidDevices
  | activeDevices
  | memberCount
  | state
  | size
  | failedDevices

inductive Severity where
  | warning
  | critical
  deriving DecidableEq

inductive IssueParam where
  | text (value : String)
  | count (value : Nat)

def IssueParam.render : IssueParam → String
  | text value => value
  | count value => toString value

def IssueParam.json : IssueParam → Text
  | text value => jsonString value
  | count value => Nat.toDigits 10 value

structure LocalSymmetricStructuralIssue where
  arrayName : String
  kind : LocalSymmetricIssueKind
  severity : Severity
  code : String
  params : List (String × IssueParam)

def symmetryIssueDedupKey (issue : LocalSymmetricStructuralIssue) : String :=
  issue.code ++ "::" ++
    String.ofList (jsonObject (issue.params.map fun param => (param.1, param.2.json)))

def LocalSymmetricStructuralIssue.param (issue : LocalSymmetricStructuralIssue) (key : String) :
    String :=
  ((issue.params.lookup key).map IssueParam.render).getD "undefined"

/-- `symmetryIssueEnglishFallback`, used where no other translation is given. -/
def translateSymmetryIssue (issue : LocalSymmetricStructuralIssue) : String :=
  let p (key : String) : String := issue.param key
  let array := p "arrayName"
  let peer := p "peerLabel"
  let differs (what ours theirs : String) : String :=
    s!"{array}: different {what} ({ours} vs {theirs} on {peer})"
  match issue.code with
  | "raid.symmetry.missing_on_peer" =>
    s!"{array}: active on this node, absent or inactive on {peer}"
  | "raid.symmetry.raid_level" => differs "RAID level" (p "localLevel") (p "peerLevel")
  | "raid.symmetry.raid_devices" => differs "RAID device count" (p "localCount") (p "peerCount")
  | "raid.symmetry.active_devices" =>
    differs "active devices" (p "localActive" ++ "/" ++ p "localTotal")
      (p "peerActive" ++ "/" ++ p "peerTotal")
  | "raid.symmetry.member_count" => differs "member count" (p "localCount") (p "peerCount")
  | "raid.symmetry.state" => differs "state" (p "localState") (p "peerState")
  | "raid.symmetry.size" => s!"{array}: different size across nodes on {peer}"
  | "raid.symmetry.failed_devices" => differs "failed devices" (p "localFailed") (p "peerFailed")
  | "raid.symmetry.uuid_mismatch_shared_identity" =>
    let uuids := p "uuids"
    s!"Different MD UUIDs on active nodes for {array}: {uuids} — not the same array"
  | code => code

structure ActiveMdNodeReport where
  sanId : String
  label : String
  active : Bool
  uuid : Option String
  arrayPath : Option String

structure ActiveUuidConflict where
  conflict : Bool
  nodes : List ClusterMdUuidConflictNode
  uniqueUuids : List String

def getActiveUuidConflict (nodeReports : List ActiveMdNodeReport) (arrayName : String) :
    ActiveUuidConflict :=
  let activeWithUuid := nodeReports.filter fun r => r.active && isSet r.uuid
  let uniqueUuids := unique (activeWithUuid.map fun r => r.uuid.getD "")
  { conflict := uniqueUuids.length > 1
    nodes := activeWithUuid.map fun r =>
      ⟨r.sanId, r.label, r.uuid.getD "", r.arrayPath.getD s!"/dev/{arrayName}"⟩
    uniqueUuids }

def buildActiveMdNodeReports (arrayName : String) (current : NodeSnapshot)
    (peerSnapshots : List NodeSnapshot) : List ActiveMdNodeReport :=
  let peers := peerSnapshots.filter fun peer => peer.nodeSanId != current.nodeSanId
  (current :: peers).filterMap fun node =>
    (node.activeMdArrays.find? (·.name == arrayName)).map fun arr =>
      { sanId := node.nodeSanId
        label := node.nodeLabel
        active := arr.state == .clean || arr.state == .active
        uuid := arr.uuid
        arrayPath := some arr.path }

structure ClusterUuidMismatch where
  arrayName : String
  nodes : List ClusterMdUuidConflictNode
  uniqueUuids : List String

/-- The mismatch on one array, when at least two nodes take part in it. -/
def uuidMismatch (arrayName : String) (current : NodeSnapshot)
    (peerSnapshots : List NodeSnapshot) : Option ClusterUuidMismatch :=
  let info := getActiveUuidConflict (buildActiveMdNodeReports arrayName current peerSnapshots)
    arrayName
  if info.conflict && info.nodes.length ≥ 2 then some ⟨arrayName, info.nodes, info.uniqueUuids⟩
  else none

structure ArraySymmetryResult where
  arrayName : String
  structurallySymmetric : Bool
  structuralIssues : List LocalSymmetricStructuralIssue
  uuidMismatch : Option ClusterUuidMismatch

def sizeToleranceMinBytes : Nat := 4 * 1024 * 1024

/-- Sizes agree up to a hundredth of the larger one, or four mebibytes. -/
def sizeWithinTolerance : Option Nat → Option Nat → Bool
  | some a, some b =>
    let diff := max a b - min a b
    diff * 100 ≤ max (sizeToleranceMinBytes * 100) (max (max a b) 1)
  | _, _ => true

inductive HealthBucket where
  | healthy
  | degraded
  | failed
  deriving DecidableEq

def healthBucket (state : MdState) : HealthBucket :=
  match state with
  | .clean | .active => .healthy
  | .failed => .failed
  | _ => .degraded

def isActiveSnapshot (s : ActiveMdArraySnapshot) : Bool :=
  [MdState.clean, .active, .degraded, .recovering, .resync, .failed].contains s.state

def bothDiffer {α : Type} [BEq α] : Option α → Option α → Option (α × α)
  | some a, some b => if a != b then some (a, b) else none
  | _, _ => none

/-- The differences of one node from the node of reference. -/
def compareSnapshots (arrayName : String) (reference : ActiveMdArraySnapshot)
    (label : String) (s : ActiveMdArraySnapshot) : List LocalSymmetricStructuralIssue :=
  let issue (kind : LocalSymmetricIssueKind) (code : String)
      (params : List (String × IssueParam)) : LocalSymmetricStructuralIssue :=
    { arrayName, kind, severity := .warning, code := "raid.symmetry." ++ code
      params := ("arrayName", .text arrayName) :: params ++ [("peerLabel", .text label)] }
  let refFailed := reference.failedDevices.getD 0
  let nodeFailed := s.failedDevices.getD 0
  ((bothDiffer reference.raidLevel s.raidLevel).toList.map fun levels =>
    issue .raidLevel "raid_level"
      [("localLevel", .text levels.1), ("peerLevel", .text levels.2)]) ++
  ((bothDiffer reference.raidDevices s.raidDevices).toList.map fun counts =>
    issue .raidDevices "raid_devices"
      [("localCount", .count counts.1), ("peerCount", .count counts.2)]) ++
  ((bothDiffer reference.activeDevices s.activeDevices).toList.map fun counts =>
    issue .activeDevices "active_devices"
      [("localActive", .count counts.1),
        ("localTotal", .count (reference.raidDevices.getD counts.1)),
        ("peerActive", .count counts.2), ("peerTotal", .count (s.raidDevices.getD counts.2))]) ++
  ((bothDiffer reference.memberCount s.memberCount).toList.map fun counts =>
    issue .memberCount "member_count"
      [("localCount", .count counts.1), ("peerCount", .count counts.2)]) ++
  (if healthBucket reference.state ≠ healthBucket s.state then
    [issue .state "state"
      [("localState", .text reference.state.name), ("peerState", .text s.state.name)]] else []) ++
  (if sizeWithinTolerance reference.sizeBytes s.sizeBytes then [] else [issue .size "size" []]) ++
  (if refFailed ≠ nodeFailed then
    [issue .failedDevices "failed_devices"
      [("localFailed", .count refFailed), ("peerFailed", .count nodeFailed)]] else [])

def compareSnapshotsForArray (arrayName : String)
    (nodes : List (String × ActiveMdArraySnapshot)) : List LocalSymmetricStructuralIssue :=
  match nodes.filter fun node => isActiveSnapshot node.2 with
  | [] => []
  | reference :: others =>
    others.flatMap fun node => compareSnapshots arrayName reference.2 node.1 node.2

/-- The symmetry of one array, with the current node first. The source looks for
peers without the array once more, but each of them has been reported by then. -/
def localArraySymmetry (current : NodeSnapshot) (peerSnapshots : List NodeSnapshot)
    (arrayName : String) : ArraySymmetryResult :=
  let peers := peerSnapshots.filter fun peer => peer.nodeSanId != current.nodeSanId
  let localArr := current.activeMdArrays.find? fun a =>
    a.name == arrayName && isActiveSnapshot a
  let found (peer : NodeSnapshot) : Option ActiveMdArraySnapshot :=
    (peer.activeMdArrays.find? (·.name == arrayName)).filter isActiveSnapshot
  let missing := peers.filter fun peer => localArr.isSome && (found peer).isNone
  let nodeSnapshots :=
    (localArr.toList.map fun arr => (current.nodeLabel, arr)) ++
      peers.filterMap fun peer => (found peer).map fun arr => (peer.nodeLabel, arr)
  let structuralIssues :=
    (missing.map fun peer =>
      { arrayName, kind := .missingOnPeer, severity := .critical
        code := "raid.symmetry.missing_on_peer"
        params := [("arrayName", .text arrayName), ("peerLabel", .text peer.nodeLabel)] }) ++
    compareSnapshotsForArray arrayName nodeSnapshots
  let deduped := uniqueBy symmetryIssueDedupKey structuralIssues
  { arrayName
    structurallySymmetric := deduped.length = 0
    structuralIssues := deduped
    uuidMismatch := uuidMismatch arrayName current peerSnapshots }

def findLocalSymmetricStructuralIssues (current : NodeSnapshot)
    (peerSnapshots : List NodeSnapshot) : List ArraySymmetryResult :=
  let activeNames (node : NodeSnapshot) : List String :=
    (node.activeMdArrays.filter isActiveSnapshot).map (·.name)
  (unique ((current :: peerSnapshots).flatMap activeNames)).map
    (localArraySymmetry current peerSnapshots)

def findClusterUuidMismatches (current : NodeSnapshot) (peerSnapshots : List NodeSnapshot)
    (mode : Option ClusterMdStorageMode) : List ClusterUuidMismatch :=
  if resolveClusterMdStorageMode mode ≠ .sharedIdentity then []
  else
    let names := unique ((current :: peerSnapshots).flatMap fun node =>
      node.activeMdArrays.map (·.name))
    names.filterMap fun arrayName => uuidMismatch arrayName current peerSnapshots

def assessClusterArraySymmetry (current : NodeSnapshot) (peerSnapshots : List NodeSnapshot)
    (mode : Option ClusterMdStorageMode) : List ArraySymmetryResult :=
  match resolveClusterMdStorageMode mode with
  | .sharedIdentity =>
    (findClusterUuidMismatches current peerSnapshots (some .sharedIdentity)).map fun m =>
      { arrayName := m.arrayName
        structurallySymmetric := false
        structuralIssues :=
          [{ arrayName := m.arrayName
             kind := .raidLevel
             severity := .warning
             code := "raid.symmetry.uuid_mismatch_shared_identity"
             params :=
               [("arrayName", .text m.arrayName), ("uuids", .text (join ", " m.uniqueUuids))] }]
        uuidMismatch := some m }
  | .localSymmetric => findLocalSymmetricStructuralIssues current peerSnapshots

end EsosWebui.Raid
