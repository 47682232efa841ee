import EsosWebui.Lvm.Types
import EsosWebui.Raid.NodePreflight
import EsosWebui.Raid.Symmetry

/-! The commands that LVM requests are carried out with, and their previews. -/
namespace EsosWebui.Lvm

open Js

/-- A character of an argument that needs no quotes. -/
def isPlainShellChar (c : Char) : Bool :=
  ('a' ≤ c && c ≤ 'z') || ('A' ≤ c && c ≤ 'Z') || ('0' ≤ c && c ≤ '9') ||
    "_./:@+-".toList.contains c

def shellQuote (arg : String) : String :=
  if consistsOf isPlainShellChar arg.toList then arg
  else "'" ++ String.ofList (arg.toList.flatMap fun c => if c = '\'' then "'\\''".toList else [c]) ++
    "'"

/-- `args.map(shellQuote).join(' ')` -/
def shellCommand (args : List String) : String := join " " (args.map shellQuote)

def gib : Nat := 1024 ^ 3

def mib : Nat := 1024 ^ 2

def kib : Nat := 1024

def formatLvCreateSizeArg (sizeBytes : Nat) : String :=
  if sizeBytes = 0 then "0"
  else if sizeBytes % gib = 0 then toString (sizeBytes / gib) ++ "G"
  else if sizeBytes % mib = 0 then toString (sizeBytes / mib) ++ "M"
  else if sizeBytes % kib = 0 then toString (sizeBytes / kib) ++ "K"
  else toString sizeBytes ++ "b"

def pvCreateArgs (path : String) (force : Bool) : List String :=
  ["pvcreate", "-y", "-v"] ++ (if force then ["--force"] else []) ++ [path]

def vgCreateArgs (name : String) (pvPaths : List String) : List String :=
  ["vgcreate", "-v", name] ++ pvPaths

def lvCreateArgs (vgName lvName : String) (sizeBytes : Nat) : List String :=
  ["lvcreate", "-y", "-v", "-L", formatLvCreateSizeArg sizeBytes, "-n", lvName, vgName]

def pvRemoveArgs (path : String) : List String := ["pvremove", "-y", "-f", path]

def vgRemoveArgs (name : String) : List String := ["vgremove", "-y", "-f", name]

def lvRemoveArgs (vgName lvName : String) : List String :=
  ["lvremove", "-y", "-f", s!"{vgName}/{lvName}"]

def buildPvCreatePreview (path : String) (force : Bool) : String :=
  if force then s!"pvcreate -y -v --force {path}" else s!"pvcreate -y -v {path}"

def buildVgCreatePreview (name : String) (pvPaths : List String) : String :=
  s!"vgcreate -v {name} " ++ join " " pvPaths

def buildPvRemovePreview (path : String) : String := s!"pvremove -y -f {path}"

open Js Raid

/-- `/^\/dev\/md[a-z0-9_-]{0,15}$/i` -/
def isMdPath (path : String) : Bool :=
  let text := path.toList
  let rest := text.drop 7
  (text.take 7).map Char.toLower == "/dev/md".toList && rest.length ≤ 15 &&
    rest.all fun c => c.isAlphanum || c == '_' || c == '-'

/-- `sourcePath.replace(/^\/dev\//, '')` -/
def withoutDev (path : String) : String :=
  ((afterLiteral "/dev/" path).map String.ofList).getD path

def mdStructurallyMatches (a b : MdArray) : Bool :=
  a.raidLevel == b.raidLevel && a.raidDevices == b.raidDevices &&
    a.activeDevices == b.activeDevices && a.failedDevices == 0 && b.failedDevices == 0 &&
    sizeWithinTolerance a.sizeBytes b.sizeBytes

def toStorageInventory (node : ClusterLvmNodeInventory) : ClusterStorageNodeInventory :=
  { sanId := node.sanId, label := node.label, role := node.role, readOnly := node.readOnly
    sshReady := node.sshReady, error := node.error, blockDevices := node.blockDevices
    mdArrays := node.mdArrays }

structure PeerPath where
  peerPath : Option String := none
  confidence : Confidence := .none
  blockers : List String := []
  warnings : List String := []

def mapMdPathToPeer (sourcePath : String) (source peer : ClusterLvmNodeInventory) : PeerPath :=
  let arrayName := withoutDev sourcePath
  let label := peer.label
  let isArray (a : MdArray) : Bool := a.name == arrayName || a.path == sourcePath
  match source.mdArrays.find? isArray, peer.mdArrays.find? isArray with
  | some srcArr, some peerArr =>
    if !mdStructurallyMatches srcArr peerArr then
      { blockers := [s!"{sourcePath} : structure MD différente sur {label}"] }
    else
      match peer.overview.candidates.find? (·.path == sourcePath) with
      | some peerCand =>
        if !peerCand.eligible then
          { blockers := [s!"{sourcePath} non éligible sur {label} : " ++
              join ", " peerCand.reasons] }
        else
          { peerPath := some sourcePath, confidence := .high
            warnings := ["Mapping symétrique local : même chemin MD"] }
      | none =>
        { peerPath := some sourcePath, confidence := .high
          warnings := ["Mapping symétrique local : même chemin MD"] }
  | none, some _ => {}
  | _, none => { blockers := [s!"{arrayName} absent sur {label}"] }

def toStorageMapping (m : ClusterLvmDiskMapping) : ClusterDiskMappingInput :=
  { sourcePath := m.sourcePath, targetSanId := m.peerSanId, targetPath := m.peerPath }

section

variable [CaseMapping]

def mapPvPathToPeer (sourcePath : String) (source peer : ClusterLvmNodeInventory)
    (manualMappings : List ClusterLvmDiskMapping) : PeerPath :=
  let manual := manualMappings.find? fun m =>
    m.sourceSanId == source.sanId && m.peerSanId == peer.sanId && m.sourcePath == sourcePath
  let manualPath := manual.map (·.peerPath)
  if isSet manualPath then { peerPath := manualPath, confidence := .high }
  else if isMdPath sourcePath then mapMdPathToPeer sourcePath source peer
  else
    let mapping := mapDeviceToPeer sourcePath (toStorageInventory source)
      (toStorageInventory peer) .createMd (manualMappings.map toStorageMapping)
    if isSet mapping.targetPath && mapping.confidence != .none then
      { peerPath := mapping.targetPath, confidence := mapping.confidence
        blockers := mapping.blockers, warnings := mapping.warnings }
    else { blockers := mapping.blockers }

def buildClusterLvmDiskMappings (primarySanId sourcePath : String)
    (inventories : List ClusterLvmNodeInventory) (manualMappings : List ClusterLvmDiskMapping) :
    List ClusterLvmDiskMapping :=
  match inventories.find? (·.sanId == primarySanId) with
  | none => []
  | some source =>
    (inventories.filter (·.sanId != primarySanId)).filterMap fun peer =>
      let result := mapPvPathToPeer sourcePath source peer manualMappings
      if isSet result.peerPath then
        some ⟨primarySanId, peer.sanId, sourcePath, result.peerPath.getD ""⟩
      else none

/-- `mappings.find(m => m.sourcePath === path && m.peerSanId === sanId)` -/
def findMapping (mappings : List ClusterLvmDiskMapping) (sourcePath peerSanId : String) :
    Option ClusterLvmDiskMapping :=
  mappings.find? fun m => m.sourcePath == sourcePath && m.peerSanId == peerSanId

def resolvePeerPvPath (primarySanId peerSanId : String)
    (inventories : List ClusterLvmNodeInventory) (mappings : List ClusterLvmDiskMapping)
    (sp : String) : String :=
  let mapped := (findMapping mappings sp peerSanId).or
    ((buildClusterLvmDiskMappings primarySanId sp inventories mappings).find?
      (·.peerSanId == peerSanId))
  let mappedPath := mapped.map (·.peerPath)
  if isSet mappedPath then mappedPath.getD ""
  else
    let peer := inventories.find? (·.sanId == peerSanId)
    let orphan := peer.bind fun peer =>
      peer.overview.pvs.find? fun p => p.vgName == "" && p.path == sp
    if orphan.isSome then sp else ""

def resolvePeerPvPaths (primarySanId : String) (pvPaths : List String) (peerSanId : String)
    (inventories : List ClusterLvmNodeInventory) (mappings : List ClusterLvmDiskMapping) :
    List String :=
  (pvPaths.map (resolvePeerPvPath primarySanId peerSanId inventories mappings)).filter (· != "")

end

def resolvePvPathOnNode (nodeSanId primarySanId sourcePath : String)
    (mappings : List ClusterLvmDiskMapping) : String :=
  if nodeSanId == primarySanId then sourcePath
  else ((findMapping mappings sourcePath nodeSanId).map (·.peerPath)).getD sourcePath

end EsosWebui.Lvm
