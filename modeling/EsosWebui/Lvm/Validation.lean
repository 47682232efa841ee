import EsosWebui.Lvm.PeerPaths
import Mathlib.Tactic.SplitIfs

/-! What is checked of a request on the volumes of a node, against the overview of the node. The
checks of an SCST binding, which also ask the node, are not among them. -/
namespace EsosWebui.Lvm

open Js

/-- A character of `/^[a-zA-Z0-9_.+-]{1,128}$/`. -/
def isNameChar (c : Char) : Bool := c.isAlphanum || "_+.-".toList.contains c

def reservedVgNames : List String := ["snapshot", "pvmove", "vgimported", "vgchanged"]

def isValidLvmName (name : String) : Bool :=
  let text := name.toList
  0 < text.length && text.length ≤ 128 && text.all isNameChar &&
    !reservedVgNames.contains (String.ofList (text.map Char.toLower))

/-- `/^\/dev\/[a-z0-9][a-z0-9_-]*$/i` -/
def isDevPath (path : String) : Bool :=
  let text := path.toList
  (text.take 5).map Char.toLower == "/dev/".toList && (text[5]?).any Char.isAlphanum &&
    (text.drop 6).all fun c => c.isAlphanum || c == '_' || c == '-'

def isValidDevicePath (path : String) : Bool := isDevPath path || isMdPath path

def expectedPvCreateConfirmation (path : String) : String := s!"PVCREATE {path}"

def expectedVgCreateConfirmation (name : String) : String := s!"VGCREATE {name}"

def expectedLvCreateConfirmation (vgName lvName : String) : String := s!"LVCREATE {vgName}/{lvName}"

def expectedPvRemoveConfirmation (path : String) : String := s!"PVREMOVE {path}"

def expectedVgRemoveConfirmation (name : String) : String := s!"VGREMOVE {name}"

def expectedLvRemoveConfirmation (vgName lvName : String) : String := s!"LVREMOVE {vgName}/{lvName}"

/-- What the check of a payload says. -/
structure Validation where
  blockers : List String := []
  warnings : List String := []

/-- `condition ? [message] : []` -/
def blockIf (condition : Bool) (message : String) : List String :=
  if condition then [message] else []

def candidateValidation (cand : Option LvmCandidateDevice) (force : Bool) : Validation :=
  match cand with
  | none =>
    { blockers := ["Périphérique absent du scan ou non éligible — rafraîchissez l'aperçu"] }
  | some cand =>
    if !cand.eligible && !force then { blockers := cand.reasons }
    else if !cand.eligible && force then
      { warnings := ["pvcreate --force : signatures existantes seront écrasées"] }
    else {}

def validatePvCreate (payload : LvmPayload) (overview : LvmOverviewResponse) : Validation :=
  let path := trimString payload.path
  let cand := candidateValidation (overview.candidates.find? (·.path == path)) payload.force
  { blockers :=
      (if path = "" then ["Chemin du périphérique requis"]
        else blockIf (!isValidDevicePath path) "Chemin de périphérique invalide") ++
      cand.blockers ++
      blockIf (overview.pvs.any (·.path == path)) "Déjà volume physique LVM" ++
      blockIf (overview.tools.clvmd && overview.vgs.any (·.clustered))
        "Volumes clusterisés (clvmd) — création PV non supportée via la WebUI"
    warnings := cand.warnings }

/-- What is said against one of the physical volumes of a new group. -/
def pvBlockers (overview : LvmOverviewResponse) (path : String) : List String :=
  match overview.pvs.find? (·.path == path) with
  | none => [s!"PV introuvable : {path}"]
  | some pv =>
    let vgName := pv.vgName
    blockIf (vgName != "") s!"{path} appartient déjà au VG {vgName}"

def validateVgCreate (payload : LvmPayload) (overview : LvmOverviewResponse) : Validation :=
  let name := trimString payload.name
  let pvPaths := payload.pvPaths.map trimString
  { blockers :=
      blockIf (!isValidLvmName name) "Nom de VG invalide" ++
      blockIf (overview.vgs.any (·.name == name)) s!"VG {name} existe déjà" ++
      blockIf (pvPaths == []) "Au moins un PV requis" ++
      pvPaths.flatMap (pvBlockers overview) ++
      blockIf (overview.vgs.any (·.clustered))
        "VG clusterisé (clvmd) — vgcreate non supporté via la WebUI" }

def validateLvCreate (payload : LvmPayload) (overview : LvmOverviewResponse) : Validation :=
  let vgName := trimString payload.vgName
  let name := trimString payload.name
  let vg := overview.vgs.find? (·.name == vgName)
  { blockers :=
      blockIf vg.isNone s!"VG {vgName} introuvable" ++
      blockIf (!isValidLvmName name) "Nom de LV invalide" ++
      blockIf (overview.lvs.any fun l => l.vgName == vgName && l.name == name)
        s!"LV {vgName}/{name} existe déjà" ++
      blockIf (payload.sizeBytes == 0) "Taille LV invalide" ++
      blockIf (vg.any fun vg => decide (vg.freeBytes < payload.sizeBytes))
        "Taille LV supérieure à l'espace libre du VG" ++
      blockIf (vg.any (·.clustered)) "VG clusterisé — lvcreate non supporté via la WebUI" }

def validatePvRemove (payload : LvmPayload) (overview : LvmOverviewResponse) : Validation :=
  let path := trimString payload.path
  let pv := overview.pvs.find? (·.path == path)
  let vgName := (pv.map (·.vgName)).getD ""
  { blockers :=
      blockIf pv.isNone "PV introuvable" ++
      blockIf (vgName != "") s!"Retirez d'abord le PV du VG {vgName}" }

def validateVgRemove (payload : LvmPayload) (overview : LvmOverviewResponse) : Validation :=
  let name := trimString payload.name
  let vg := overview.vgs.find? (·.name == name)
  { blockers :=
      blockIf vg.isNone "VG introuvable" ++
      blockIf (overview.lvs.any (·.vgName == name)) "Supprimez d'abord tous les LV du VG" ++
      blockIf (vg.any (·.clustered)) "VG clusterisé — suppression non supportée" }

def validateLvRemove (payload : LvmPayload) (overview : LvmOverviewResponse) : Validation :=
  let vgName := trimString payload.vgName
  let name := trimString payload.name
  let lv := overview.lvs.find? fun l => l.vgName == vgName && l.name == name
  { blockers :=
      blockIf lv.isNone "LV introuvable" ++
      blockIf (lv.any (·.usedBy.contains .scst))
        "LV exporté via SCST — retirez le device SCST d'abord" }

/-- The actions that are checked against the overview alone. -/
inductive VolumeAction where
  | pvcreate
  | vgcreate
  | lvcreate
  | pvremove
  | vgremove
  | lvremove
  deriving DecidableEq

def VolumeAction.toLvmAction : VolumeAction → LvmAction
  | pvcreate => .pvcreate
  | vgcreate => .vgcreate
  | lvcreate => .lvcreate
  | pvremove => .pvremove
  | vgremove => .vgremove
  | lvremove => .lvremove

inductive LvmRiskLevel where
  | risky
  | destructive

def VolumeAction.risk : VolumeAction → LvmRiskLevel
  | vgcreate | lvcreate => .risky
  | pvcreate | pvremove | vgremove | lvremove => .destructive

structure LvmPreflightResult where
  ok : Bool
  blockers : List String
  warnings : List String
  riskLevel : LvmRiskLevel
  requiredConfirmation : String
  impactedDevices : List String
  commandPreview : Option String

def buildLvCreatePreview (vgName lvName : String) (sizeBytes : Nat) : String :=
  let size := formatLvCreateSizeArg sizeBytes
  s!"lvcreate -y -v -L {size} -n {lvName} {vgName}"

def buildVgRemovePreview (name : String) : String := s!"vgremove -y -f {name}"

def buildLvRemovePreview (vgName lvName : String) : String := s!"lvremove -y -f {vgName}/{lvName}"

def toolBlockers (action : VolumeAction) (tools : LvmToolsInfo) : List String :=
  match action with
  | .pvcreate | .pvremove =>
    blockIf (!tools.pvcreate) "pvcreate/pvremove indisponible sur ce nœud"
  | .vgcreate | .vgremove =>
    blockIf (!tools.vgcreate) "vgcreate/vgremove indisponible sur ce nœud"
  | .lvcreate | .lvremove =>
    blockIf (!tools.lvcreate) "lvcreate/lvremove indisponible sur ce nœud"

def validate (action : VolumeAction) (payload : LvmPayload) (overview : LvmOverviewResponse) :
    Validation :=
  match action with
  | .pvcreate => validatePvCreate payload overview
  | .vgcreate => validateVgCreate payload overview
  | .lvcreate => validateLvCreate payload overview
  | .pvremove => validatePvRemove payload overview
  | .vgremove => validateVgRemove payload overview
  | .lvremove => validateLvRemove payload overview

def requiredConfirmation (action : VolumeAction) (payload : LvmPayload) : String :=
  match action with
  | .pvcreate =>
    let path := trimString payload.path
    if path = "" then "" else expectedPvCreateConfirmation path
  | .vgcreate => expectedVgCreateConfirmation payload.name
  | .lvcreate => expectedLvCreateConfirmation payload.vgName payload.name
  | .pvremove => expectedPvRemoveConfirmation payload.path
  | .vgremove => expectedVgRemoveConfirmation payload.name
  | .lvremove => expectedLvRemoveConfirmation payload.vgName payload.name

def impactedDevices (action : VolumeAction) (payload : LvmPayload) : List String :=
  match action with
  | .pvcreate =>
    let path := trimString payload.path
    if path = "" then [] else [path]
  | .vgcreate => payload.pvPaths
  | .pvremove => [payload.path]
  | .lvcreate | .vgremove | .lvremove => []

def commandPreview (action : VolumeAction) (payload : LvmPayload) : Option String :=
  match action with
  | .pvcreate =>
    let path := trimString payload.path
    if path = "" then none else some (buildPvCreatePreview path payload.force)
  | .vgcreate => some (buildVgCreatePreview payload.name payload.pvPaths)
  | .lvcreate => some (buildLvCreatePreview payload.vgName payload.name payload.sizeBytes)
  | .pvremove => some (buildPvRemovePreview payload.path)
  | .vgremove => some (buildVgRemovePreview payload.name)
  | .lvremove => some (buildLvRemovePreview payload.vgName payload.name)

def runLvmPreflight (action : VolumeAction) (payload : LvmPayload)
    (overview : LvmOverviewResponse) : LvmPreflightResult :=
  let validation := validate action payload overview
  let deduped := unique (toolBlockers action overview.tools ++ validation.blockers)
  { ok := deduped.isEmpty
    blockers := deduped
    warnings := validation.warnings
    riskLevel := action.risk
    requiredConfirmation := requiredConfirmation action payload
    impactedDevices := impactedDevices action payload
    commandPreview := commandPreview action payload }

theorem blockIf_eq_nil_iff {condition : Bool} {message : String} :
    blockIf condition message = [] ↔ condition = false := by
  cases condition <;> simp [blockIf]

theorem runLvmPreflight_ok_iff {action : VolumeAction} {payload : LvmPayload}
    {overview : LvmOverviewResponse} :
    (runLvmPreflight action payload overview).ok = true ↔
      toolBlockers action overview.tools = [] ∧
        (validate action payload overview).blockers = [] := by
  simp only [runLvmPreflight, List.isEmpty_iff, unique_eq_nil_iff, List.append_eq_nil_iff]

theorem blockers_runLvmPreflight_eq_nil_iff {action : VolumeAction} {payload : LvmPayload}
    {overview : LvmOverviewResponse} :
    (runLvmPreflight action payload overview).blockers = [] ↔
      (runLvmPreflight action payload overview).ok = true := by
  simp [runLvmPreflight]

/-- What the overview shows for a physical volume that may be created: a candidate of its path, of
which only the reasons can be forced away. -/
structure MayCreatePv (payload : LvmPayload) (overview : LvmOverviewResponse) : Prop where
  tool : overview.tools.pvcreate = true
  path : isValidDevicePath (trimString payload.path) = true
  candidate : ∃ cand, overview.candidates.find? (·.path == trimString payload.path) = some cand ∧
    (cand.eligible = true ∨ payload.force = true ∨ cand.reasons = [])
  notPv : ∀ pv ∈ overview.pvs, pv.path ≠ trimString payload.path

theorem candidateValidation_eq_nil_iff {cand : Option LvmCandidateDevice} {force : Bool} :
    (candidateValidation cand force).blockers = [] ↔
      ∃ c, cand = some c ∧ (c.eligible = true ∨ force = true ∨ c.reasons = []) := by
  cases cand with
  | none => simp [candidateValidation]
  | some c =>
    simp only [candidateValidation, Option.some.injEq, exists_eq_left']
    cases c.eligible <;> cases force <;> simp

theorem mayCreatePv_of_ok {payload : LvmPayload} {overview : LvmOverviewResponse}
    (h : (runLvmPreflight .pvcreate payload overview).ok) :
    MayCreatePv payload overview := by
  obtain ⟨hTool, hValid⟩ := runLvmPreflight_ok_iff.mp h
  simp only [validate, validatePvCreate, List.append_eq_nil_iff, blockIf_eq_nil_iff,
    candidateValidation_eq_nil_iff] at hValid
  obtain ⟨⟨⟨hPath, hCandidate⟩, hPv⟩, -⟩ := hValid
  refine ⟨?_, ?_, hCandidate, ?_⟩
  · simpa [toolBlockers, blockIf_eq_nil_iff] using hTool
  · split_ifs at hPath
    simpa [blockIf_eq_nil_iff] using hPath
  · simpa using hPv

open Raid (sizeWithinTolerance)

def foldCase (c : Char) : Char := if c = 'É' then 'é' else c.toLower

def mentions (word text : String) : Bool := contains (text.toList.map foldCase) word.toList

def resolveNodePvPath (node : ClusterLvmNodeInventory) (primarySanId sourcePath : String)
    (mappings : List ClusterLvmDiskMapping) : Option String :=
  if node.sanId == primarySanId then some sourcePath
  else (findMapping mappings sourcePath node.sanId).map (·.peerPath)

def findMdByPath (arrays : List Raid.MdArray) (path : String) : Option Raid.MdArray :=
  arrays.find? fun a => a.path == path || "/dev/" ++ a.name == path

def candidatePvBlockers (label path : String) (isPv force : Bool) (cand : LvmCandidateDevice) :
    List String :=
  let reasons := join ", " cand.reasons
  let why := if reasons ≠ "" then reasons else "voir Block Devices"
  blockIf (!cand.eligible && !force) s!"{label} : {path} non éligible — {why}" ++
  blockIf (cand.usedBy.contains .mounted || cand.reasons.any (mentions "monté"))
    s!"{label} : {path} est monté" ++
  blockIf (cand.usedBy.contains .scst) s!"{label} : {path} utilisé par SCST" ++
  blockIf (cand.usedBy.contains .lvm && !isPv) s!"{label} : {path} signalé comme LVM" ++
  blockIf (!force && (cand.usedBy.contains .filesystem || cand.usedBy.contains .unknownSignature ||
      cand.reasons.any fun r => mentions "signature" r || mentions "fichiers" r))
    s!"{label} : signature ou système de fichiers sur {path} (force requis)"

def pathPvBlockers (force : Bool) (node : ClusterLvmNodeInventory) (path : String) : List String :=
  let label := node.label
  let existingPv := node.overview.pvs.find? (·.path == path)
  let vgName := (existingPv.map (·.vgName)).getD ""
  let cand := node.overview.candidates.find? (·.path == path)
  let md := findMdByPath node.mdArrays path
  let blk := node.blockDevices.find? (·.path == path)
  blockIf existingPv.isSome s!"{label} : PV déjà présent sur {path}" ++
  blockIf (vgName != "") s!"{label} : {path} appartient déjà au VG {vgName}" ++
  blockIf (cand.isNone && md.isNone && blk.isNone)
    s!"{label} : périphérique {path} introuvable sur ce nœud" ++
  (cand.toList.flatMap (candidatePvBlockers label path existingPv.isSome force)) ++
  blockIf (!node.overview.tools.pvcreate) s!"{label} : pvcreate indisponible"

def pathSize (node : ClusterLvmNodeInventory) (path : String) : Option Nat :=
  let md : Option Nat := (findMdByPath node.mdArrays path).bind (·.sizeBytes)
  let blk : Option Raid.RaidBlockDevice := node.blockDevices.find? (·.path == path)
  let size : Option Nat :=
    match node.overview.candidates.find? (·.path == path) with
    | some cand => some cand.sizeBytes
    | none => (md.filter (· ≠ 0)).or (blk.map (·.sizeBytes))
  size.filter (· ≠ 0)

def checkedPath (primarySanId sourcePath : String) (mappings : List ClusterLvmDiskMapping)
    (node : ClusterLvmNodeInventory) : Option String :=
  if !node.sshReady then none
  else (resolveNodePvPath node primarySanId sourcePath mappings).filter (· ≠ "")

def nodePvBlockers (primarySanId sourcePath : String) (mappings : List ClusterLvmDiskMapping)
    (force : Bool) (node : ClusterLvmNodeInventory) : List String :=
  let label := node.label
  if !node.sshReady then [s!"{label} : SSH non connecté"]
  else
    match checkedPath primarySanId sourcePath mappings node with
    | none => [s!"{label} : chemin PV non mappé pour {sourcePath}"]
    | some path => pathPvBlockers force node path

def sizeBlockers (sizes : List (String × Nat)) : List String :=
  match sizes with
  | [] => []
  | ref :: others =>
    match others.find? fun other => !sizeWithinTolerance (some ref.2) (some other.2) with
    | none => []
    | some other =>
      let refLabel := ref.1
      let label := other.1
      [s!"Tailles incohérentes entre nœuds ({refLabel} vs {label})"]

def validateClusterPvCreatePaths (primarySanId sourcePath : String)
    (nodes : List ClusterLvmNodeInventory) (mappings : List ClusterLvmDiskMapping) (force : Bool) :
    List String :=
  let sizes := nodes.filterMap fun node =>
    ((checkedPath primarySanId sourcePath mappings node).bind (pathSize node)).map (node.label, ·)
  unique (nodes.flatMap (nodePvBlockers primarySanId sourcePath mappings force) ++
    sizeBlockers sizes)

/-- Nothing is said against a path: no volume, and a candidate of it is neither mounted nor used
by SCST or LVM. -/
structure MayInitialise (node : ClusterLvmNodeInventory) (force : Bool) (path : String) :
    Prop where
  notPv : ∀ pv ∈ node.overview.pvs, pv.path ≠ path
  candidate : ∀ cand, node.overview.candidates.find? (·.path == path) = some cand →
    (cand.eligible = true ∨ force = true) ∧ .mounted ∉ cand.usedBy ∧
      (∀ r ∈ cand.reasons, mentions "monté" r = false) ∧ .scst ∉ cand.usedBy ∧
      .lvm ∉ cand.usedBy

theorem mayInitialise_of_pathPvBlockers {node : ClusterLvmNodeInventory} {force : Bool}
    {path : String} (h : pathPvBlockers force node path = []) : MayInitialise node force path := by
  simp only [pathPvBlockers, List.append_eq_nil_iff, blockIf_eq_nil_iff,
    Option.isSome_eq_false_iff, Option.isNone_iff_eq_none] at h
  obtain ⟨⟨⟨⟨hPv, -⟩, -⟩, hCandidate⟩, -⟩ := h
  refine ⟨by simpa using hPv, ?_⟩
  intro cand hFound
  simp only [hFound, hPv, Option.toList_some, List.flatMap_cons, List.flatMap_nil,
    List.append_nil, candidatePvBlockers, List.append_eq_nil_iff, blockIf_eq_nil_iff] at hCandidate
  obtain ⟨⟨⟨⟨hEligible, hMounted⟩, hScst⟩, hLvm⟩, -⟩ := hCandidate
  simp only [Bool.or_eq_false_iff, List.any_eq_false, List.contains_eq_mem,
    decide_eq_false_iff_not, Bool.not_eq_true] at hMounted
  refine ⟨?_, hMounted.1, hMounted.2, by simpa using hScst, by simpa using hLvm⟩
  cases hForce : force with
  | true => exact Or.inr rfl
  | false => exact Or.inl (by simpa [hForce] using hEligible)

/-- Each node of an accepted request has a path for it, and nothing is said against it there. -/
theorem mayInitialise_of_validate {primarySanId sourcePath : String}
    {nodes : List ClusterLvmNodeInventory} {mappings : List ClusterLvmDiskMapping} {force : Bool}
    (h : validateClusterPvCreatePaths primarySanId sourcePath nodes mappings force = [])
    {node : ClusterLvmNodeInventory} (hNode : node ∈ nodes) :
    ∃ path, checkedPath primarySanId sourcePath mappings node = some path ∧
      MayInitialise node force path := by
  simp only [validateClusterPvCreatePaths, unique_eq_nil_iff, List.append_eq_nil_iff,
    List.flatMap_eq_nil_iff] at h
  have hHere := h.1 node hNode
  unfold nodePvBlockers at hHere
  split at hHere
  · cases hHere
  · split at hHere
    · cases hHere
    · rename_i path hPath
      exact ⟨path, hPath, mayInitialise_of_pathPvBlockers hHere⟩

end EsosWebui.Lvm
