import EsosWebui.Js.Lines
import EsosWebui.Lvm.Overview
import EsosWebui.Scst.Effects

/-! A logical volume that is bound to an SCST device: what its preflight shows, and what its route
writes. -/
namespace EsosWebui.Lvm.BindScst

open Js
open Raid (HttpError)
open Scst (ScstConfig Device createDevice isDeviceName)

/-- What is read of a volume of the overview. -/
structure LogicalVolume where
  name : Text
  vgName : Text
  path : Text
  pathCandidates : Option (List Text)
  scstDeviceNames : Option (List Text)

def scstDeviceNamesForLvPaths (index : ScstDeviceIndex) (pathCandidates : List Text) :
    List Text :=
  unique (pathCandidates.flatMap index.devicesOf)

def candidatesOf (raw : ParsedLvRow) : List Text :=
  buildLvPathCandidates raw.vgName raw.name raw.lvPath raw.lvDmPath

def mapParsedLvToLogicalVolume (index : ScstDeviceIndex) (raw : ParsedLvRow) : LogicalVolume :=
  let scstNames := scstDeviceNamesForLvPaths index (candidatesOf raw)
  { name := raw.name
    vgName := raw.vgName
    path := pickLvBackingPath raw
    pathCandidates := some (candidatesOf raw)
    scstDeviceNames := if scstNames ≠ [] then some scstNames else none }

/-- What an overview is made from: the volumes that are reported, and the index of the devices at
that time. -/
structure Overview where
  reported : List ParsedLvRow
  scanned : ScstDeviceIndex := {}

def Overview.lvs (overview : Overview) : List LogicalVolume :=
  overview.reported.map (mapParsedLvToLogicalVolume overview.scanned)

/-- `overview.lvs.find(l => l.vgName === vgName && l.name === lvName)` -/
def Overview.find (overview : Overview) (vgName lvName : Text) : Option LogicalVolume :=
  overview.lvs.find? fun l => l.vgName = vgName ∧ l.name = lvName

/-- A node: the block devices that are present, the probes that are answered, and its SCST
devices, if they can be read. -/
structure Node where
  label : Text
  readOnly : Bool := false
  sshReady : Bool := true
  isBlockDevice : Text → Bool
  answers : Text → Bool := fun _ => true
  scstConf : Text
  scstSysfs : Text
  indexRead : Bool := true

def Node.index (node : Node) : ScstDeviceIndex := readScstDeviceIndex node.scstConf node.scstSysfs

/-- What `test -b path && echo ok || echo missing` prints. -/
def Node.testBlock (node : Node) (path : Text) : Option Text :=
  if node.answers path then
    some (if node.isBlockDevice path then "ok\n".toList else "missing\n".toList)
  else none

def resolveBlockDevicePathFromCandidates (node : Node) (candidates : List Text) : Option Text :=
  candidates.find? fun candidate =>
    (node.testBlock candidate).any fun stdout => contains (trim stdout) "ok".toList

structure Payload where
  vgName : Text
  lvName : Text
  deviceName : Text
  confirmation : Text

def bindScstBlocker (kind : Text) (parts : List Text) : Text :=
  [':'].intercalate ("BIND_SCST".toList :: kind :: parts)

structure BindContext where
  nodeLabel : Text
  lvPathPresent : Option Bool
  resolvedBackingPath : Option Text

structure Verdict where
  blockers : List Text
  warnings : List Text
  lvPath : Option Text

def firstConflict (index : ScstDeviceIndex) (deviceName : Text) (candidates : List Text) :
    Option (Text × Text) :=
  candidates.findSome? fun candidate =>
    ((index.devicesOf candidate).find? (· ≠ deviceName)).map (candidate, ·)

def blockerIf (condition : Bool) (blocker : Text) : List Text :=
  if condition then [blocker] else []

def nameBlockers (deviceName : Text) : List Text :=
  if deviceName = [] then ["Nom de device SCST requis".toList]
  else if 32 < utf16Length deviceName then
    ["Nom de device SCST : maximum 32 caractères".toList]
  else blockerIf (!isDeviceName deviceName) "Nom de device SCST invalide".toList

def validateBindScst (payload : Payload) (overview : Overview) (index : ScstDeviceIndex)
    (ctx : BindContext) : Verdict :=
  let vgName := trim payload.vgName
  let lvName := trim payload.lvName
  let deviceName := trim payload.deviceName
  let lv := overview.find vgName lvName
  let pathCandidates :=
    (lv.bind (·.pathCandidates)).getD (buildLvPathCandidates vgName lvName [] [])
  let lvPath := ctx.resolvedBackingPath.or (lv.map (·.path))
  let volume := vgName ++ '/' :: lvName
  let missingPath := (lvPath.or pathCandidates.head?).getD volume
  { blockers :=
      blockerIf lv.isNone (bindScstBlocker "lv_not_found".toList [volume]) ++
      blockerIf (lv.isSome && ctx.lvPathPresent == some false)
        (bindScstBlocker "lv_path_missing".toList [missingPath, ctx.nodeLabel]) ++
      nameBlockers deviceName ++
      blockerIf (deviceName ≠ [] && index.devices.any (·.1 = deviceName))
        (bindScstBlocker "device_exists".toList [deviceName, ctx.nodeLabel]) ++
      ((firstConflict index deviceName pathCandidates).toList.map fun (candidate, other) =>
        bindScstBlocker "lv_path_in_use".toList [candidate, other, ctx.nodeLabel]) ++
      (((lv.bind (·.scstDeviceNames)).bind List.head?).toList.map fun other =>
        bindScstBlocker "lv_path_in_use".toList [lvPath.getD [], other, ctx.nodeLabel])
    warnings := []
    lvPath := lvPath }

structure Preflight where
  ok : Bool
  blockers : List Text
  warnings : List Text
  riskLevel : LvmRiskLevel
  requiredConfirmation : Text
  impactedDevices : List Text
  commandPreview : Option Text

def bindPreview (deviceName path : Text) : Text :=
  "DEVICE ".toList ++ deviceName ++ " vdisk_blockio filename ".toList ++ path

/-- The action `bind_scst`. -/
def runLvmPreflight (node : Node) (payload : Payload) (overview : Overview) : Preflight :=
  let index := if node.indexRead then node.index else {}
  let vgName := trim payload.vgName
  let lvName := trim payload.lvName
  let lvRow := overview.find vgName lvName
  let resolved := lvRow.map fun lvRow =>
    let candidates := (lvRow.pathCandidates.filter (· ≠ [])).getD
      (buildLvPathCandidates vgName lvName [] [])
    resolveBlockDevicePathFromCandidates node candidates
  let v := validateBindScst payload overview index
    { nodeLabel := node.label
      lvPathPresent := resolved.map Option.isSome
      resolvedBackingPath := resolved.join }
  let deduped := unique v.blockers
  { ok := deduped.isEmpty
    blockers := deduped
    warnings := v.warnings
    riskLevel := .risky
    requiredConfirmation := "SCST DEVICE ".toList ++ payload.deviceName
    impactedDevices := []
    commandPreview := v.lvPath.map (bindPreview payload.deviceName) }

/-- The checks of a request, which end with its confirmation. -/
def requirePreflightOk (node : Node) (payload : Payload) (overview : Overview) :
    Except HttpError Unit := do
  throwIf node.readOnly ⟨403, "SAN is read-only"⟩
  throwIf (!node.sshReady) ⟨503, "SSH non connecté"⟩
  let pre := runLvmPreflight node payload overview
  let blockers := " · ".toList.intercalate pre.blockers
  throwIf (!pre.ok)
    ⟨422, if blockers ≠ [] then String.ofList blockers else "Préflight échoué"⟩
  throwIf (trim payload.confirmation ≠ pre.requiredConfirmation)
    ⟨400, "Confirmation requise : " ++ String.ofList pre.requiredConfirmation⟩

/-- The status of what `createDevice` throws. -/
def deviceError (message : Text) : HttpError :=
  ⟨if contains (message.map Char.toLower) "existe déjà".toList then 409 else 422,
    String.ofList message⟩

/-- What the route comes to: the configuration that is written, and the path that is answered.
`later` is the overview that is read when the device is written, `read` the configuration at that
time, and `write` what writing and reloading it comes to. -/
def bindRoute (node : Node) (body : Payload) (overview later : Overview)
    (read : Except Text ScstConfig) (write : ScstConfig → Except Text Unit) :
    Except HttpError (ScstConfig × Text) := do
  requirePreflightOk node body overview
  let lv ← orThrow ⟨422, "LV introuvable"⟩ (later.find body.vgName body.lvName)
  let written ← (do
    let config ← read
    let written ← createDevice "vdisk_blockio".toList body.deviceName lv.path .empty config
    write written
    return written).mapError deviceError
  return (written, lv.path)

def Overview.volume (overview : Overview) (vgName lvName : Text) : Option ParsedLvRow :=
  overview.reported.find? fun raw => raw.vgName = vgName ∧ raw.name = lvName

def Node.Found (node : Node) (path : Text) : Prop :=
  node.answers path = true ∧ node.isBlockDevice path = true

def Node.Free (node : Node) (paths : List Text) : Prop :=
  ∀ device ∈ node.index.devices, ∀ file ∈ device.2, file ∉ paths

/-- The device that is written has the path that is shown, which is one of the paths of the volume
and was found to be a block device; and no device had a path of the volume. -/
def BoundAsPreviewed (node : Node) (body : Payload) (overview : Overview)
    (before written : ScstConfig) : Prop :=
  ∃ raw path device, overview.volume (trim body.vgName) (trim body.lvName) = some raw ∧
    (runLvmPreflight node body overview).commandPreview =
      some (bindPreview body.deviceName path) ∧
    written = before.addDevice device ∧ device.name = body.deviceName ∧
    device.handler = "vdisk_blockio".toList ∧ device.filename = path ∧
    path ∈ candidatesOf raw ∧ node.Found path ∧ node.Free (candidatesOf raw)

/-- The path that the overview has when the device is written is the first one of the volume that
is found to be a block device. -/
def PicksFound (node : Node) (body : Payload) (overview later : Overview) : Prop :=
  ∃ raw raw' before after, overview.volume (trim body.vgName) (trim body.lvName) = some raw ∧
    later.volume body.vgName body.lvName = some raw' ∧
    candidatesOf raw = before ++ trim (pickLvBackingPath raw') :: after ∧
    node.Found (trim (pickLvBackingPath raw')) ∧ ∀ path ∈ before, ¬ node.Found path

def IndexKnown (node : Node) (body : Payload) (overview : Overview) : Prop :=
  node.indexRead = true ∨ ∀ raw ∈ overview.volume (trim body.vgName) (trim body.lvName),
    node.Free (candidatesOf raw)

section

variable {node : Node} {body : Payload} {overview later : Overview} {raw : ParsedLvRow}
  {index : ScstDeviceIndex} {deviceName path : Text} {candidates : List Text}

theorem find_eq (overview : Overview) (vgName lvName : Text) : overview.find vgName lvName =
    (overview.volume vgName lvName).map (mapParsedLvToLogicalVolume overview.scanned) := by
  rw [Overview.find, Overview.lvs, List.find?_map]
  rfl

theorem any_testBlock_iff : ((node.testBlock path).any fun stdout =>
    contains (trim stdout) "ok".toList) = true ↔ node.Found path := by
  have hOk : contains (trim "ok\n".toList) "ok".toList = true := by decide
  have hMissing : contains (trim "missing\n".toList) "ok".toList = false := by decide
  rw [Node.testBlock, Node.Found]
  cases node.answers path with
  | false => simp
  | true => cases node.isBlockDevice path <;> simp only [hOk, hMissing, if_true, Option.any_some,
      Bool.false_eq_true, if_false, and_self, and_false]

theorem resolve_eq_some_iff :
    resolveBlockDevicePathFromCandidates node candidates = some path ↔
      node.Found path ∧ ∃ before after, candidates = before ++ path :: after ∧
        ∀ earlier ∈ before, ¬ node.Found earlier := by
  rw [resolveBlockDevicePathFromCandidates, List.find?_eq_some_iff_append, any_testBlock_iff]
  simp only [Bool.not_eq_true', ← Bool.not_eq_true, any_testBlock_iff]

theorem candidatesOf_ne_nil (raw : ParsedLvRow) : candidatesOf raw ≠ [] := by
  obtain ⟨rest, hMapper⟩ : ∃ rest, lvmMapperDevicePath raw.vgName raw.name = '/' :: rest :=
    ⟨_, rfl⟩
  intro hNil
  rw [candidatesOf, buildLvPathCandidates, unique_eq_nil_iff, List.filter_eq_nil_iff] at hNil
  refine hNil (trim ('/' :: rest)) (List.mem_map_of_mem ?_) ?_
  · rw [← hMapper]
    simp
  · rw [trim_cons (by decide), startsWith_iff]
    exact List.cons_prefix_cons.mpr ⟨rfl, List.nil_prefix⟩

theorem free_of_no_conflict (hNew : index.devices.any (·.1 = deviceName) = false)
    (hNone : firstConflict index deviceName candidates = none) :
    ∀ device ∈ index.devices, ∀ file ∈ device.2, file ∉ candidates := by
  intro device hDevice file hFile hMem
  rw [firstConflict, List.findSome?_eq_none_iff] at hNone
  have hOthers := hNone file hMem
  rw [Option.map_eq_none_iff, List.find?_eq_none] at hOthers
  have hOf : device.1 ∈ index.devicesOf file := by
    rw [ScstDeviceIndex.devicesOf, mem_unique, List.mem_map]
    exact ⟨device, List.mem_filter.mpr ⟨hDevice, by simpa using hFile⟩, rfl⟩
  have hSame : device.1 = deviceName := by simpa using hOthers device.1 hOf
  exact absurd hSame (by simpa using List.any_eq_false.mp hNew device hDevice)

theorem blockerIf_eq_nil_iff {condition : Bool} {blocker : Text} :
    blockerIf condition blocker = [] ↔ condition = false := by
  cases condition <;> simp [blockerIf]

theorem deviceName_ne_nil (h : nameBlockers deviceName = []) : deviceName ≠ [] := by
  rintro rfl
  exact absurd h (by simp [nameBlockers])

/-- What an accepted request says. -/
structure Accepted (node : Node) (body : Payload) (overview : Overview) (raw : ParsedLvRow)
    (path : Text) : Prop where
  volume : overview.volume (trim body.vgName) (trim body.lvName) = some raw
  resolved : resolveBlockDevicePathFromCandidates node (candidatesOf raw) = some path
  preview : (runLvmPreflight node body overview).commandPreview =
    some (bindPreview body.deviceName path)
  free : node.indexRead = true → node.Free (candidatesOf raw)

theorem accepted_of_ok (h : (runLvmPreflight node body overview).ok) :
    ∃ raw path, Accepted node body overview raw path := by
  simp only [runLvmPreflight, List.isEmpty_iff, unique_eq_nil_iff, validateBindScst,
    List.append_eq_nil_iff, blockerIf_eq_nil_iff, find_eq] at h
  obtain ⟨⟨⟨⟨⟨hFound, hPresent⟩, hName⟩, hNew⟩, hConflict⟩, -⟩ := h
  cases hVolume : overview.volume (trim body.vgName) (trim body.lvName) with
  | none => simp [hVolume] at hFound
  | some raw =>
    have hCandidates : (some (candidatesOf raw)).filter (· ≠ []) = some (candidatesOf raw) := by
      simp [Option.filter, candidatesOf_ne_nil raw]
    simp only [hVolume, Option.map_some, mapParsedLvToLogicalVolume, hCandidates,
      Option.getD_some, Option.isSome_some, Bool.true_and] at hPresent
    cases hResolved : resolveBlockDevicePathFromCandidates node (candidatesOf raw) with
    | none => simp [hResolved] at hPresent
    | some path =>
      refine ⟨raw, path, hVolume, hResolved, ?_, fun hRead => ?_⟩
      · simp only [runLvmPreflight, validateBindScst, find_eq, hVolume, Option.map_some,
          mapParsedLvToLogicalVolume, hCandidates, Option.getD_some, hResolved,
          Option.join_some, Option.some_or]
      · have hNoDevice : node.index.devices.any (·.1 = trim body.deviceName) = false := by
          simpa [hRead, deviceName_ne_nil hName] using hNew
        refine free_of_no_conflict hNoDevice ?_
        simpa [hRead, hVolume, mapParsedLvToLogicalVolume] using hConflict

/-- What a request that succeeds says. -/
theorem exists_of_bindRoute {write : ScstConfig → Except Text Unit}
    {before written : ScstConfig} {filename : Text}
    (h : bindRoute node body overview later (.ok before) write = .ok (written, filename)) :
    (runLvmPreflight node body overview).ok = true ∧
      ∃ raw', later.volume body.vgName body.lvName = some raw' ∧
        written = before.addDevice
          { name := body.deviceName, handler := "vdisk_blockio".toList
            filename := trim (pickLvBackingPath raw'), attrs := .empty } := by
  simp only [bindRoute, requirePreflightOk, bind_eq_ok, throwIf_eq_ok, orThrow_eq_ok,
    mapError_eq_ok, pure_eq_ok, exists_const, find_eq, Option.map_eq_some_iff] at h
  obtain ⟨⟨-, -, hOk, -⟩, _, ⟨raw', hLater, rfl⟩, _, ⟨_, ⟨⟩, _, hCreate, -, -, rfl⟩, hAnswer⟩ := h
  obtain ⟨rfl, -⟩ := Prod.mk.inj hAnswer
  exact ⟨by simpa using hOk, raw', hLater, (Scst.createDevice_eq_ok hCreate).2⟩

theorem addDevice_injective {c : ScstConfig} {x y : Device} (hHandler : x.handler = y.handler)
    (h : c.addDevice x = c.addDevice y) : x = y := by
  unfold ScstConfig.addDevice at h
  rw [← hHandler] at h
  cases hFirst : c.handlers.findIdx? (·.name = x.handler) with
  | some i =>
    obtain ⟨hLt, -⟩ := List.findIdx?_eq_some_iff_getElem.mp hFirst
    simp only [hFirst] at h
    have hAt := congrArg (fun c : ScstConfig => c.handlers[i]?.map (·.devices)) h
    simpa [ScstConfig.modifyHandler, Scst.Handler.addDevice, List.getElem?_modify,
      List.getElem?_eq_getElem hLt] using hAt
  | none =>
    simp only [hFirst] at h
    have hHandlers := congrArg ScstConfig.handlers h
    simpa using hHandlers

end

def reportedVolume : ParsedLvRow :=
  { name := "lv0".toList, vgName := "vg0".toList, lvPath := "/dev/vg0/lv0".toList
    lvDmPath := "/dev/mapper/vg0-lv0".toList, sizeBytes := 1 }

def reportedOverview : Overview := { reported := [reportedVolume] }

def bindBody : Payload :=
  { vgName := "vg0".toList, lvName := "lv0".toList, deviceName := "d0".toList
    confirmation := "SCST DEVICE d0".toList }

def nodeWith (isBlockDevice : Text → Bool) : Node :=
  { label := "n1".toList, isBlockDevice, scstConf := [], scstSysfs := [] }

def boundAt (path : Text) : ScstConfig :=
  ScstConfig.empty.addDevice
    { name := "d0".toList, handler := "vdisk_blockio".toList, filename := path, attrs := .empty }

def mapperPath : Text := "/dev/mapper/vg0-lv0".toList

def mapperNode : Node := nodeWith fun path => path = mapperPath

theorem bindRoute_mapperNode : bindRoute mapperNode bindBody reportedOverview reportedOverview
    (.ok .empty) (fun _ => .ok ()) = .ok (boundAt mapperPath, mapperPath) := by
  decide

def linkedNode : Node := nodeWith fun _ => true

end EsosWebui.Lvm.BindScst
