import EsosWebui.Raid.NodePreflight
import EsosWebui.Raid.Symmetry

/-! The state of an array on each node of a cluster, and which recovery modes the
states of all nodes allow for stopping and for assembling it. -/
namespace EsosWebui.Raid

open Js

def StoppedMdArray.memberPaths (arr : StoppedMdArray) : List String :=
  arr.presentPaths.filter fun path => path != "" && path != "—"

def RaidBlockDevice.hasMdSignal (dev : RaidBlockDevice) : Bool :=
  dev.type == .part && (dev.hasMdSuperblock || dev.usedBy.contains .md)

def hasMetadataOnlySignal (node : ClusterStorageNodeInventory) (name : String)
    (uuid : Option String) : Option (List String × List String) :=
  let scanned := ((findStoppedMdArray node.stoppedMdArrays name uuid).map (·.memberPaths)).getD []
  if scanned ≠ [] then
    some (scanned, ["Métadonnées MD sur partitions membres (tableau arrêté)"])
  else
    match node.blockDevices.find? RaidBlockDevice.hasMdSignal with
    | some dev => some ([dev.path], ["Superblock ou signal MD sur partition"])
    | none =>
      let targetPath := s!"/dev/{name}"
      (node.blockDevices.find? fun d =>
        d.type == .raid && isMdArrayPath d.path && d.path != targetPath).map fun inactive =>
          let path := inactive.path
          ([], [s!"Périphérique {path} sans tableau actif correspondant"])

def findInactiveDevice (node : ClusterStorageNodeInventory) (name : String) : Option String :=
  let targetPath := s!"/dev/{name}"
  (node.blockDevices.find? fun d =>
    d.type == .raid && d.path == targetPath &&
      !node.mdArrays.any fun a => a.path == targetPath).map (·.path)

def activeBlockers (active : MdArray) : List String :=
  let path := active.path
  (if active.usedBy.contains .mounted then [s!"{path} est monté"] else []) ++
  (if active.usedBy.contains .lvm then [s!"{path} est utilisé par LVM"] else []) ++
  (if active.usedBy.contains .scst then [s!"{path} est utilisé par SCST"] else [])

def classifyMdArrayNodeState (node : ClusterStorageNodeInventory) (arrayName : String)
    (uuid : Option String) : MdArrayNodeStateReport :=
  let name := trimString arrayName
  let report : MdArrayNodeStateReport :=
    { sanId := node.sanId
      label := node.label
      role := node.role
      sshReady := node.sshReady
      state := .missing
      reasons := [s!"Aucun signal pour le tableau {name} sur ce nœud"] }
  if !node.sshReady then
    { report with
      state := .unreachable
      reasons :=
        [if isSet node.error then "SSH : " ++ node.error.getD "" else "SSH non connecté"] }
  else if node.tools.isNone then
    { report with
      state := .error
      reasons := [node.error.getD "Inventaire RAID ou outils indisponibles"] }
  else
    match findActiveArray node.mdArrays name uuid with
    | some active =>
      { report with
        state := .active
        arrayPath := some active.path
        members := active.members.map fun m => m.path.getD ""
        uuid := active.uuid
        reasons := ["Tableau actif dans mdstat"]
        nodeBlockers := activeBlockers active
        nodeWarnings :=
          if active.state == .recovering || active.state == .resync then
            ["Rebuild/resync en cours"] else [] }
    | none =>
      match findStoppedMdArray node.stoppedMdArrays name uuid with
      | some stopped =>
        let stoppedState := stopped.stoppedState.name
        { report with
          state := .stopped
          arrayPath := some (stopped.path.getD s!"/dev/{name}")
          members := stopped.memberPaths
          uuid := stopped.uuid
          reasons := [s!"Tableau arrêté ({stoppedState})"]
          nodeBlockers :=
            if stopped.stoppedState = .ambiguous then
              ["État du tableau ambigu — vérifiez les métadonnées"] else [] }
      | none =>
        match findInactiveDevice node name with
        | some inactivePath =>
          { report with
            state := .inactiveDevice
            arrayPath := some inactivePath
            reasons := ["Périphérique /dev/md* présent sans entrée mdstat active"] }
        | none =>
          match hasMetadataOnlySignal node name uuid with
          | some (members, reasons) =>
            { report with
              state := .metadataOnly
              members
              reasons }
          | none => report

def classifyClusterMdNodeStates (nodes : List ClusterStorageNodeInventory) (arrayName : String)
    (uuid : Option String) : List MdArrayNodeStateReport :=
  nodes.map fun node => classifyMdArrayNodeState node arrayName uuid

def MdArrayNodeStateReport.activeClean (report : MdArrayNodeStateReport) : Bool :=
  report.state == .active && report.nodeBlockers.length == 0

def MdArrayNodeStateReport.assemblable (report : MdArrayNodeStateReport) : Bool :=
  (report.state == .stopped || report.state == .metadataOnly) && report.nodeBlockers.length == 0

def MdArrayNodeStateReport.labelledBlockers (report : MdArrayNodeStateReport) : List String :=
  let label := report.label
  report.nodeBlockers.map fun b => s!"{label} : {b}"

def anchoredSymmetry (nodes : List ClusterStorageNodeInventory) (arrayName : String)
    (mode : ClusterMdStorageMode) : Option ArraySymmetryResult :=
  match nodes with
  | [] => none
  | first :: _ =>
    let anchor := (nodes.find? fun n => n.mdArrays.any (·.name == arrayName)).getD first
    let snapshot (n : ClusterStorageNodeInventory) : NodeSnapshot :=
      { nodeSanId := n.sanId
        nodeLabel := n.label
        activeMdArrays := (n.mdArrays.filter (·.name == arrayName)).map mdArrayToActiveSnapshot }
    let symmetry := assessClusterArraySymmetry (snapshot anchor)
      ((nodes.filter (·.sanId != anchor.sanId)).map snapshot) (some mode)
    symmetry.find? (·.arrayName == arrayName)

def allowedStopModes (nodeReports : List MdArrayNodeStateReport)
    (uuidBlocksSymmetric structurallySymmetric : Bool) : List ClusterMdRecoveryMode :=
  let activeReports := nodeReports.filter (·.state == .active)
  let activeClean := nodeReports.filter (·.activeClean)
  let allNodesActive := nodeReports.length > 0 && nodeReports.all (·.state == .active)
  (if uuidBlocksSymmetric && activeReports.length ≥ 2 then [.stopInconsistentActive]
    else if !uuidBlocksSymmetric && structurallySymmetric &&
        activeClean.length == nodeReports.length && allNodesActive then [.stopAllActive]
    else if !structurallySymmetric && activeReports.length ≥ 2 then [.stopInconsistentActive]
    else []) ++
  (if !uuidBlocksSymmetric && activeClean.length ≥ 1 && activeClean.length < nodeReports.length then
      [.stopActiveOnly]
    else if !uuidBlocksSymmetric && activeClean.length ≥ 1 &&
        nodeReports.any (·.state != .active) then [.stopActiveOnly]
    else [])

def stopHardBlockers (nodeReports : List MdArrayNodeStateReport) (arrayName : String) :
    List String :=
  let activeReports := nodeReports.filter (·.state == .active)
  let activeClean := nodeReports.filter (·.activeClean)
  let hasStoppedOrMeta := nodeReports.any fun r =>
    r.state == .stopped || r.state == .metadataOnly || r.state == .inactiveDevice
  activeReports.flatMap (·.labelledBlockers) ++
  if activeClean.length = 0 then
    if !hasStoppedOrMeta &&
        nodeReports.all fun r => r.state == .missing || r.state == .unreachable then
      [s!"Aucun tableau {arrayName} actif sur le cluster — rien à arrêter"]
    else if activeReports.length = 0 then
      [s!"Aucun tableau {arrayName} actif — utilisez Assemble ou inspectez les métadonnées"]
    else []
  else []

def buildStopRecoveryAssessment (nodeReports : List MdArrayNodeStateReport) (arrayName : String)
    (nodes : List ClusterStorageNodeInventory) (mode : Option ClusterMdStorageMode) :
    ClusterMdRecoveryAssessment :=
  let storageMode := resolveClusterMdStorageMode mode
  let uuidInfo := getActiveUuidConflict
    (nodeReports.map fun r =>
      { sanId := r.sanId, label := r.label, active := r.state == .active, uuid := r.uuid
        arrayPath := r.arrayPath }) arrayName
  let forArray := anchoredSymmetry nodes arrayName storageMode
  let structurallySymmetric := forArray.all (·.structurallySymmetric)
  let uuidBlocksSymmetric := storageMode == .sharedIdentity && uuidInfo.conflict
  let hardBlockers := stopHardBlockers nodeReports arrayName
  let unreachable := nodeReports.filter (·.state == .unreachable)
  let count := unreachable.length
  let uuids := join ", " uuidInfo.uniqueUuids
  let allowedRecoveryModes :=
    allowedStopModes nodeReports uuidBlocksSymmetric structurallySymmetric
  let okDegraded := allowedRecoveryModes.length > 0 && hardBlockers.length == 0
  { nodeReports
    hardBlockers := unique hardBlockers
    warnings :=
      ((forArray.map (·.structuralIssues)).getD []).map translateSymmetryIssue ++
      (if uuidBlocksSymmetric then
        [s!"UUID MD différents entre nœuds actifs pour {arrayName} : {uuids} — " ++
          "ce ne sont pas le même tableau"] else []) ++
      (if count > 0 then
        [s!"{count} nœud(s) inaccessible(s) — seront ignorés en mode dégradé"] else [])
    allowedRecoveryModes
    recommendedRecoveryMode :=
      if okDegraded then
        if allowedRecoveryModes.contains .stopInconsistentActive then some .stopInconsistentActive
        else if allowedRecoveryModes.contains .stopAllActive then some .stopAllActive
        else some .stopActiveOnly
      else none
    okSymmetric := allowedRecoveryModes.contains .stopAllActive
    structurallySymmetric
    okDegraded
    uuidConflict := if uuidBlocksSymmetric then some uuidInfo.nodes else none }

def allowedAssembleModes (nodeReports : List MdArrayNodeStateReport) :
    List ClusterMdRecoveryMode :=
  let activeReports := nodeReports.filter (·.state == .active)
  let assemblable := nodeReports.filter (·.assemblable)
  (if assemblable.length == nodeReports.length && nodeReports.length > 0 then
    [.assembleStoppedNodes] else []) ++
  (if assemblable.length ≥ 1 &&
      (activeReports.length > 0 || nodeReports.any (·.state == .missing)) then
      [.assembleMissingOnly]
    else if assemblable.length ≥ 1 then [.assembleMissingOnly, .assembleStoppedNodes]
    else [])

def assembleHardBlockers (nodeReports : List MdArrayNodeStateReport) (arrayName : String) :
    List String :=
  let activeReports := nodeReports.filter (·.state == .active)
  let assemblable := nodeReports.filter (·.assemblable)
  (if activeReports.length == nodeReports.length && nodeReports.length > 0 then
    [s!"Le tableau {arrayName} est déjà actif sur tous les nœuds"] else []) ++
  ((nodeReports.filter fun r => r.state == .stopped || r.state == .metadataOnly).flatMap
    (·.labelledBlockers)) ++
  (if assemblable.length == 0 && activeReports.length == 0 then
    [s!"Aucune métadonnée MD arrêtée pour {arrayName} — réparation manuelle ou rescan requis"]
    else [])

def buildAssembleRecoveryAssessment (nodeReports : List MdArrayNodeStateReport)
    (arrayName : String) : ClusterMdRecoveryAssessment :=
  let activeReports := nodeReports.filter (·.state == .active)
  let assemblable := nodeReports.filter (·.assemblable)
  let hardBlockers := assembleHardBlockers nodeReports arrayName
  let count := (nodeReports.filter (·.state == .unreachable)).length
  let allowedRecoveryModes := allowedAssembleModes nodeReports
  let okSymmetric := allowedRecoveryModes.contains .assembleStoppedNodes &&
    assemblable.length == nodeReports.length
  let okDegraded := allowedRecoveryModes.length > 0 && hardBlockers.length == 0
  { nodeReports
    hardBlockers := unique hardBlockers
    warnings :=
      (if count > 0 then [s!"{count} nœud(s) inaccessible(s) — seront ignorés"] else []) ++
      (if activeReports.length > 0 && assemblable.length > 0 then
        ["Cluster asymétrique : certains nœuds ont le tableau actif, " ++
          "d'autres des métadonnées arrêtées"] else [])
    allowedRecoveryModes := unique allowedRecoveryModes
    recommendedRecoveryMode :=
      if okDegraded then
        if okSymmetric then some .assembleStoppedNodes else some .assembleMissingOnly
      else none
    okSymmetric
    okDegraded }

def buildClusterMdRecoveryAssessment (action : ClusterStorageAction) (arrayName : String)
    (uuid : Option String) (nodes : List ClusterStorageNodeInventory)
    (storageMode : Option ClusterMdStorageMode) : ClusterMdRecoveryAssessment :=
  let nodeReports := classifyClusterMdNodeStates nodes arrayName uuid
  match action with
  | .stopMd => buildStopRecoveryAssessment nodeReports arrayName nodes storageMode
  | .assembleMd => buildAssembleRecoveryAssessment nodeReports arrayName
  | _ => { nodeReports }

def expectedClusterStopConfirmation (arrayName : String) (recoveryMode : ClusterMdRecoveryMode) :
    String :=
  let name := trimString arrayName
  match recoveryMode with
  | .stopInconsistentActive => s!"STOP INCONSISTENT {name}"
  | .stopActiveOnly => s!"STOP {name} ON ACTIVE CLUSTER NODES"
  | _ => s!"STOP {name}"

def expectedClusterAssembleConfirmation (arrayName : String)
    (recoveryMode : ClusterMdRecoveryMode) : String :=
  let name := trimString arrayName
  match recoveryMode with
  | .assembleMissingOnly => s!"ASSEMBLE {name} ON STOPPED CLUSTER NODES"
  | _ => s!"ASSEMBLE {name}"

def isSymmetricRecoveryMode (mode : ClusterMdRecoveryMode) : Bool :=
  mode == .stopAllActive || mode == .assembleStoppedNodes

inductive SkipReason where
  | alreadyAbsent
  | notActive
  | unreachable
  | alreadyActive
  | noMetadata
  | blocked

def skipReasonForStopState (state : MdArrayNodeState) : Option SkipReason :=
  match state with
  | .missing | .stopped | .metadataOnly | .inactiveDevice => some .notActive
  | .unreachable => some .unreachable
  | .error => some .blocked
  | .active => none

def skipReasonForAssembleState (state : MdArrayNodeState) : Option SkipReason :=
  match state with
  | .active => some .alreadyActive
  | .missing => some .noMetadata
  | .unreachable => some .unreachable
  | .metadataOnly | .inactiveDevice | .stopped => none
  | .error => some .blocked

def humanSkipReason (reason : SkipReason) : String :=
  match reason with
  | .alreadyAbsent => "Déjà absent / non actif sur ce nœud"
  | .notActive => "Tableau non actif sur ce nœud"
  | .unreachable => "Ignoré — SSH indisponible"
  | .alreadyActive => "Déjà actif sur ce nœud"
  | .noMetadata => "Aucune métadonnée arrêtée — réparation requise"
  | .blocked => "Bloqué sur ce nœud"

@[simp] theorem sanId_classifyMdArrayNodeState (node : ClusterStorageNodeInventory)
    (arrayName : String) (uuid : Option String) :
    (classifyMdArrayNodeState node arrayName uuid).sanId = node.sanId := by
  unfold classifyMdArrayNodeState
  dsimp only
  split
  · rfl
  split
  · rfl
  split
  · rfl
  split
  · rfl
  split
  · rfl
  split <;> rfl

theorem classifyMdArrayNodeState_of_not_ready {node : ClusterStorageNodeInventory}
    (h : (!node.sshReady || node.tools.isNone)) (arrayName : String)
    (uuid : Option String) :
    (classifyMdArrayNodeState node arrayName uuid).state = .unreachable ∨
      (classifyMdArrayNodeState node arrayName uuid).state = .error := by
  unfold classifyMdArrayNodeState
  dsimp only
  cases hSsh : node.sshReady with
  | false => exact Or.inl rfl
  | true =>
    have hTools : node.tools.isNone = true := by simpa [hSsh] using h
    rw [hTools]
    exact Or.inr rfl

theorem classifyMdArrayNodeState_congr {node : ClusterStorageNodeInventory}
    {arrayName arrayName' : String} (uuid : Option String)
    (h : trimString arrayName = trimString arrayName') :
    classifyMdArrayNodeState node arrayName uuid = classifyMdArrayNodeState node arrayName' uuid := by
  unfold classifyMdArrayNodeState
  rw [h]

theorem find_report {nodes : List ClusterStorageNodeInventory}
    (hUnique : (nodes.map (·.sanId)).Nodup) {node : ClusterStorageNodeInventory}
    (hNode : node ∈ nodes) (arrayName : String) (uuid : Option String) :
    (classifyClusterMdNodeStates nodes arrayName uuid).find? (·.sanId == node.sanId) =
      some (classifyMdArrayNodeState node arrayName uuid) := by
  induction nodes with
  | nil => cases hNode
  | cons first nodes ih =>
    obtain ⟨hFirst, hUnique⟩ := List.nodup_cons.mp hUnique
    rw [classifyClusterMdNodeStates, List.map_cons, List.find?_cons, sanId_classifyMdArrayNodeState]
    cases hNode with
    | head => simp
    | tail _ hNode =>
      have hOther : first.sanId ≠ node.sanId := by
        intro hSame
        exact hFirst (List.mem_map.mpr ⟨node, hNode, hSame.symm⟩)
      rw [beq_eq_false_iff_ne.mpr hOther]
      exact ih hUnique hNode

theorem hardBlockers_of_okDegraded {action : ClusterStorageAction} {arrayName : String}
    {uuid : Option String} {nodes : List ClusterStorageNodeInventory}
    {mode : Option ClusterMdStorageMode}
    (h : (buildClusterMdRecoveryAssessment action arrayName uuid nodes mode).okDegraded) :
    (buildClusterMdRecoveryAssessment action arrayName uuid nodes mode).hardBlockers = [] := by
  cases action with
  | stopMd =>
    simp only [buildClusterMdRecoveryAssessment, buildStopRecoveryAssessment, Bool.and_eq_true,
      beq_iff_eq, List.length_eq_zero_iff] at h ⊢
    exact unique_eq_nil_iff.mpr h.2
  | assembleMd =>
    simp only [buildClusterMdRecoveryAssessment, buildAssembleRecoveryAssessment,
      Bool.and_eq_true, beq_iff_eq, List.length_eq_zero_iff] at h ⊢
    exact unique_eq_nil_iff.mpr h.2
  | _ => rfl

end EsosWebui.Raid
