import EsosWebui.Lvm.Validation

/-! How the volumes of a node differ from those of its peers. -/
namespace EsosWebui.Lvm

open Js
open Raid (sizeWithinTolerance)

inductive IssueSeverity where
  | warning
  | critical
  deriving DecidableEq

structure LocalSymmetricLvmIssue where
  vgName : String
  lvName : Option String := none
  message : String
  severity : IssueSeverity

structure LvmNodeSnapshot where
  nodeLabel : String
  vgs : List VolumeGroup
  lvs : List LogicalVolume

def clusteredIssue (vgName : String) : LocalSymmetricLvmIssue :=
  { vgName, severity := .critical
    message := s!"VG {vgName} clusterisé (clvmd) — non géré par la WebUI" }

def vgIssues (vgs : List VolumeGroup) (peer : LvmNodeSnapshot) (vgName : String) :
    List LocalSymmetricLvmIssue :=
  let label := peer.nodeLabel
  let localVg := vgs.find? (·.name == vgName)
  match peer.vgs.find? (·.name == vgName) with
  | none =>
    [{ vgName, severity := .warning
       message := s!"VG {vgName} présent localement, absent sur {label}" }]
  | some peerVg =>
    let localCount := (localVg.map (·.pvCount)).getD peerVg.pvCount
    let peerCount := peerVg.pvCount
    (if localCount ≠ peerCount then
      [{ vgName, severity := .warning
         message := s!"VG {vgName} : nombre de PV différent " ++
          s!"({localCount} vs {peerCount} sur {label})" }]
    else []) ++
    if peerVg.clustered || localVg.any (·.clustered) then [clusteredIssue vgName] else []

def findLvmStructuralIssues (vgs : List VolumeGroup) (peers : List LvmNodeSnapshot) :
    List LocalSymmetricLvmIssue :=
  let localVgNames := unique (vgs.map (·.name))
  (vgs.filter (·.clustered)).map (fun vg => clusteredIssue vg.name) ++
    peers.flatMap fun peer =>
      let label := peer.nodeLabel
      localVgNames.flatMap (vgIssues vgs peer) ++
        (peer.vgs.filter fun vg => !localVgNames.contains vg.name).map fun vg =>
          let vgName := vg.name
          { vgName, severity := .warning
            message := s!"VG {vgName} sur {label}, absent localement" }

def lvIssues (peer : LvmNodeSnapshot) (lv : LogicalVolume) : List LocalSymmetricLvmIssue :=
  let label := peer.nodeLabel
  let lvName := lv.name
  match peer.lvs.find? fun l => l.vgName == lv.vgName && l.name == lvName with
  | none =>
    [{ vgName := lv.vgName, lvName := some lvName, severity := .warning
       message := s!"LV {lvName} absent sur {label}" }]
  | some peerLv =>
    if !sizeWithinTolerance (some lv.sizeBytes) (some peerLv.sizeBytes) then
      [{ vgName := lv.vgName, lvName := some lvName, severity := .warning
         message := s!"Taille LV différente sur {label}" }]
    else []

def contentIssues (lvs : List LogicalVolume) (vg : VolumeGroup) (peer : LvmNodeSnapshot) :
    List LocalSymmetricLvmIssue :=
  let label := peer.nodeLabel
  let vgName := vg.name
  match peer.vgs.find? (·.name == vgName) with
  | none => []
  | some peerVg =>
    let localLvs := lvs.filter (·.vgName == vgName)
    (if !sizeWithinTolerance (some vg.freeBytes) (some peerVg.freeBytes) then
      [{ vgName, severity := .warning, message := s!"Espace libre différent ({label})" }]
    else []) ++
    localLvs.flatMap (lvIssues peer) ++
    ((peer.lvs.filter (·.vgName == vgName)).filter fun l =>
      !localLvs.any (·.name == l.name)).map fun l =>
        let lvName := l.name
        { vgName, lvName := some lvName, severity := .warning
          message := s!"LV {lvName} sur {label}, absent localement" }

def assessLocalSymmetricLvm (vgs : List VolumeGroup) (lvs : List LogicalVolume)
    (peers : List LvmNodeSnapshot) : List LocalSymmetricLvmIssue :=
  findLvmStructuralIssues vgs peers ++
    vgs.flatMap fun vg => peers.flatMap (contentIssues lvs vg)

/-- `LV …`, `VG …` or `Cluster` -/
def LocalSymmetricLvmIssue.line (issue : LocalSymmetricLvmIssue) : String :=
  let vgName := issue.vgName
  match issue.lvName.filter (· ≠ "") with
  | some lvName => s!"LV {vgName}/{lvName}"
  | none => if vgName ≠ "" then s!"VG {vgName}" else "Cluster"

def LocalSymmetricLvmIssue.text (issue : LocalSymmetricLvmIssue) : String :=
  let line := issue.line
  let message := issue.message
  s!"{line} : {message}"

open Raid (HttpError)

structure ClusterLvmPreflightResult where
  ok : Bool
  blockers : List String
  warnings : List String
  mappings : List ClusterLvmDiskMapping
  symmetryIssues : List LocalSymmetricLvmIssue
  nodes : List ClusterLvmNodeInventory

/-- What is said against the nodes, whatever the request is. -/
def clusterNodeBlockers (nodes : List ClusterLvmNodeInventory) (primarySanId : String) :
    List String :=
  let primary := nodes.find? (·.sanId == primarySanId)
  blockIf (!primary.any (·.sshReady)) "Nœud primaire inaccessible" ++
    nodes.flatMap fun node =>
      let label := node.label
      blockIf (!node.sshReady) s!"{label} : SSH non disponible" ++
      blockIf node.readOnly s!"{label} : lecture seule" ++
      blockIf (node.overview.vgs.any (·.clustered)) s!"{label} : VG clvmd détecté — non supporté"

def clusterSymmetry (nodes : List ClusterLvmNodeInventory) (primarySanId : String) :
    List LocalSymmetricLvmIssue :=
  match nodes.find? (·.sanId == primarySanId) with
  | none => []
  | some primary =>
    let peers := (nodes.filter fun n => n.sanId != primarySanId && n.sshReady).map fun n =>
      { nodeLabel := n.label, vgs := n.overview.vgs, lvs := n.overview.lvs }
    assessLocalSymmetricLvm primary.overview.vgs primary.overview.lvs peers

/-- The checks of a node that can be reached, each line with the node's label before it. -/
def nodePreflight (action : VolumeAction) (payload : LvmPayload) (node : ClusterLvmNodeInventory) :
    Validation :=
  if !node.sshReady then {}
  else
    let pre := runLvmPreflight action { payload with confirmation := "" } node.overview
    let label := node.label
    let labelled := fun line : String => s!"{label}: {line}"
    { blockers := pre.blockers.map labelled, warnings := pre.warnings.map labelled }

/-- The checks of a new physical volume on a node. -/
def pvCreateOnNode (primarySanId : String) (payload : LvmPayload)
    (mappings : List ClusterLvmDiskMapping) (node : ClusterLvmNodeInventory) : Validation :=
  let label := node.label
  match (resolveNodePvPath node primarySanId payload.path mappings).filter (· ≠ "") with
  | none => { blockers := [s!"{label} : chemin PV non mappé"] }
  | some path => nodePreflight .pvcreate { payload with path } node

/-- The checks of the removal of a physical volume on a node. -/
def pvRemoveOnNode (primarySanId : String) (payload : LvmPayload)
    (mappings : List ClusterLvmDiskMapping) (node : ClusterLvmNodeInventory) : List String :=
  let label := node.label
  let path := resolvePvPathOnNode node.sanId primarySanId payload.path mappings
  if path = "" then [s!"{label} : chemin PV non mappé"]
  else (nodePreflight .pvremove { path } node).blockers

/-- The checks of a new volume on the group that it is for, on each node. -/
def lvSpaceBlockers (payload : LvmPayload) (node : ClusterLvmNodeInventory) : List String :=
  let label := node.label
  let vgName := payload.vgName
  let name := payload.name
  if !node.sshReady then [s!"{label} : SSH non connecté"]
  else
    (match node.overview.vgs.find? fun v => v.name == vgName && !v.clustered with
      | none => [s!"{label} : VG {vgName} absent"]
      | some vg => blockIf (decide (vg.freeBytes < payload.sizeBytes))
          s!"{label} : espace insuffisant dans {vgName}") ++
    blockIf (node.overview.lvs.any fun l => l.vgName == vgName && l.name == name)
      s!"{label} : LV {vgName}/{name} existe déjà"

variable [CaseMapping]

/-- The checks of a new volume group on a node that can be reached. -/
def vgCreateOnNode (primarySanId : String) (payload : LvmPayload)
    (nodes : List ClusterLvmNodeInventory) (mappings : List ClusterLvmDiskMapping)
    (node : ClusterLvmNodeInventory) : List String :=
  let label := node.label
  if !node.sshReady then []
  else
    let pvPaths := if node.sanId == primarySanId then payload.pvPaths
      else resolvePeerPvPaths primarySanId payload.pvPaths node.sanId nodes mappings
    blockIf (pvPaths == []) s!"{label} : PV non mappés pour vgcreate" ++
      (nodePreflight .vgcreate { name := payload.name, pvPaths } node).blockers

/-- The mappings that a request is checked with: for a physical volume without any, those that
are found for its path. -/
def preflightMappings (action : VolumeAction) (primarySanId : String) (payload : LvmPayload)
    (nodes : List ClusterLvmNodeInventory) (diskMappings : List ClusterLvmDiskMapping) :
    List ClusterLvmDiskMapping :=
  if (action = .pvcreate ∨ action = .pvremove) ∧ nodes.any (·.sanId == primarySanId) = true ∧
      diskMappings = [] then
    buildClusterLvmDiskMappings primarySanId payload.path nodes []
  else diskMappings

def actionValidation (action : VolumeAction) (primarySanId : String) (payload : LvmPayload)
    (nodes : List ClusterLvmNodeInventory) (mappings : List ClusterLvmDiskMapping) : Validation :=
  let label (node : ClusterLvmNodeInventory) := node.label
  match action with
  | .pvcreate =>
    let perNode := nodes.map (pvCreateOnNode primarySanId payload mappings)
    { blockers :=
        validateClusterPvCreatePaths primarySanId payload.path nodes mappings payload.force ++
          perNode.flatMap (·.blockers)
      warnings := perNode.flatMap (·.warnings) }
  | .vgcreate =>
    let name := payload.name
    { blockers :=
        (nodes.flatMap fun node =>
          blockIf (node.sshReady && node.overview.vgs.any (·.name == name))
            (label node ++ s!" : VG {name} existe déjà")) ++
        nodes.flatMap (vgCreateOnNode primarySanId payload nodes mappings) }
  | .pvremove => { blockers := nodes.flatMap (pvRemoveOnNode primarySanId payload mappings) }
  | .vgremove =>
    { blockers := nodes.flatMap fun node =>
        (nodePreflight .vgremove { name := payload.name } node).blockers }
  | .lvremove =>
    let lv : LvmPayload := { vgName := payload.vgName, name := payload.name }
    { blockers := nodes.flatMap fun node => (nodePreflight .lvremove lv node).blockers }
  | .lvcreate =>
    { blockers :=
        blockIf (payload.sizeBytes == 0) "Taille LV invalide (doit être > 0)" ++
        nodes.flatMap (lvSpaceBlockers payload) ++
        nodes.flatMap fun node => (nodePreflight .lvcreate payload node).blockers }

def runClusterLvmPreflight (nodes : List ClusterLvmNodeInventory) (primarySanId : String)
    (action : VolumeAction) (payload : LvmPayload) (diskMappings : List ClusterLvmDiskMapping) :
    Except HttpError ClusterLvmPreflightResult := do
  throwIf (nodes.length < 2) ⟨400, "Au moins deux nœuds cluster requis"⟩
  let symmetryIssues := clusterSymmetry nodes primarySanId
  let mappings := preflightMappings action primarySanId payload nodes diskMappings
  let checks := if nodes.any (·.sanId == primarySanId) then
    actionValidation action primarySanId payload nodes mappings else {}
  let blockers := unique (clusterNodeBlockers nodes primarySanId ++
    (symmetryIssues.filter (·.severity == .critical)).map (·.text) ++ checks.blockers)
  return {
    ok := blockers.isEmpty
    blockers
    warnings := unique ((symmetryIssues.filter (·.severity != .critical)).map (·.text) ++
      checks.warnings)
    mappings
    symmetryIssues
    nodes }

variable {nodes : List ClusterLvmNodeInventory} {primarySanId : String} {action : VolumeAction}
  {payload : LvmPayload} {diskMappings : List ClusterLvmDiskMapping}
  {pre : ClusterLvmPreflightResult}

theorem mappings_runClusterLvmPreflight
    (h : runClusterLvmPreflight nodes primarySanId action payload diskMappings = .ok pre) :
    pre.mappings = preflightMappings action primarySanId payload nodes diskMappings ∧
      pre.nodes = nodes := by
  obtain ⟨_, -, hPre⟩ := bind_eq_ok.mp h
  obtain rfl : _ = pre := Except.ok.inj hPre
  exact ⟨rfl, rfl⟩

theorem checks_of_runClusterLvmPreflight
    (h : runClusterLvmPreflight nodes primarySanId action payload diskMappings = .ok pre)
    (hOk : pre.ok) :
    (∀ node ∈ nodes, node.sshReady = true ∧ node.readOnly = false) ∧
      nodes.any (·.sanId == primarySanId) = true ∧
      (actionValidation action primarySanId payload nodes
        (preflightMappings action primarySanId payload nodes diskMappings)).blockers = [] := by
  obtain ⟨_, -, hPre⟩ := bind_eq_ok.mp h
  obtain rfl : _ = pre := Except.ok.inj hPre
  simp only [List.isEmpty_iff, unique_eq_nil_iff, List.append_eq_nil_iff] at hOk
  obtain ⟨⟨hNodes, -⟩, hChecks⟩ := hOk
  simp only [clusterNodeBlockers, List.append_eq_nil_iff, List.flatMap_eq_nil_iff,
    blockIf_eq_nil_iff] at hNodes
  obtain ⟨hPrimary, hEach⟩ := hNodes
  have hAny : nodes.any (·.sanId == primarySanId) = true := by
    cases hFind : nodes.find? (·.sanId == primarySanId) with
    | none => simp [hFind] at hPrimary
    | some primary =>
      have hHere : (primary.sanId == primarySanId) = true := by
        simpa using List.find?_some hFind
      exact List.any_eq_true.mpr ⟨primary, List.mem_of_find?_eq_some hFind, hHere⟩
  rw [if_pos hAny] at hChecks
  refine ⟨?_, hAny, hChecks⟩
  intro node hNode
  obtain ⟨⟨hReady, hWritable⟩, -⟩ := hEach node hNode
  exact ⟨by simpa using hReady, hWritable⟩

end EsosWebui.Lvm
