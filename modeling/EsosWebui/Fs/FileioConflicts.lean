import EsosWebui.Fs.CreateFs

/-! When the conflicts of a new FILEIO device are those that the inventory has. -/
namespace EsosWebui.Fs

open Js

structure VDiskFile where
  path : Text
  scstDeviceNames : List Text := []
  mapped : Bool := false
  fileioDeviceName : Option Text := none

structure FileioDeviceRef where
  name : Text
  filename : Text
  mapped : Bool := false

structure FileioBindExistingMapping where
  targetName : Text
  groupName : Text
  lunId : Nat

structure ScstLunMappingRef extends FileioBindExistingMapping where
  deviceName : Text
  handler : Text

/-- What the overview says about files and their devices, configured or live. -/
structure FileioInventory where
  vdiskFiles : List VDiskFile := []
  fileioDevices : List FileioDeviceRef := []
  lunMappings : List ScstLunMappingRef := []

inductive FileioBindConflictCode where
  | deviceNameExists
  | vdiskFileAlreadyFileio
  | vdiskAlreadyMapped
  | vdiskNotFound
  | invalidDeviceName
  | sanReadOnly

structure FileioConflict where
  code : FileioBindConflictCode
  message : Text
  deviceName : Text
  filePath : Text
  existingDeviceName : Option Text := none
  existingMapping : Option FileioBindExistingMapping := none
  mapped : Option Bool := none

inductive ScstDeviceNameValidationError where
  | empty
  | invalid
  | tooLong

def ScstDeviceNameValidationError.toText : ScstDeviceNameValidationError → Text
  | .empty => "empty".toList
  | .invalid => "invalid".toList
  | .tooLong => "too_long".toList

def scstDeviceNameMaxLen : Nat := 32

/-- `^[A-Za-z0-9_-]+$` -/
def matchesScstDeviceName (name : Text) : Bool :=
  consistsOf (fun c => c.isAlphanum || c = '_' || c = '-') name

def validateScstDeviceName (name : Text) : Option ScstDeviceNameValidationError :=
  let trimmed := trim name
  if trimmed = [] then some .empty
  else if scstDeviceNameMaxLen < utf16Length trimmed then some .tooLong
  else if matchesScstDeviceName trimmed = false then some .invalid
  else none

def normalizePath (p : Text) : Text := (trim p).rdropWhile (· = '/')

def pathsEqual (a b : Text) : Bool :=
  let na := normalizePath a
  let nb := normalizePath b
  na = nb || endsWith na nb || endsWith nb na

namespace FileioInventory

variable (overview : FileioInventory)

def findFileioLunMapping (deviceName : Text) : Option FileioBindExistingMapping :=
  (overview.lunMappings.find? fun l =>
    l.deviceName = deviceName && l.handler = "vdisk_fileio".toList).map
      (·.toFileioBindExistingMapping)

def findFileioDeviceByFilename (filePath : Text) : Option FileioDeviceRef :=
  let target := normalizePath filePath
  overview.fileioDevices.find? (pathsEqual ·.filename target)

def findFileioDeviceByName (deviceName : Text) : Option FileioDeviceRef :=
  let name := trim deviceName
  overview.fileioDevices.find? (·.name = name)

def nameExistsConflict (deviceName : Text) (device : FileioDeviceRef) : FileioConflict :=
  let existingMapping := overview.findFileioLunMapping device.name
  { code := .deviceNameExists
    message := "SCST FILEIO device \"".toList ++ deviceName ++ "\" already exists".toList
    deviceName
    filePath := device.filename
    existingDeviceName := some device.name
    existingMapping
    mapped := some (device.mapped || existingMapping.isSome) }

def fileExistsConflict (deviceName filePath : Text) (device : FileioDeviceRef) : FileioConflict :=
  let existingMapping := overview.findFileioLunMapping device.name
  { code := .vdiskFileAlreadyFileio
    message := "VDisk file is already registered as FILEIO device \"".toList ++ device.name ++ ['"']
    deviceName
    filePath
    existingDeviceName := some device.name
    existingMapping
    mapped := some (device.mapped || existingMapping.isSome) }

/-- `vdisk.fileioDeviceName ?? vdisk.scstDeviceNames[0]` -/
def registeredName (vdisk : VDiskFile) : Option Text :=
  vdisk.fileioDeviceName.or vdisk.scstDeviceNames.head?

def mappedConflict (deviceName filePath : Text) (vdisk : VDiskFile) : FileioConflict where
  code := .vdiskAlreadyMapped
  message := "VDisk file is already registered with SCST".toList
  deviceName := deviceName
  filePath := filePath
  existingDeviceName := registeredName vdisk
  existingMapping := ((registeredName vdisk).filter (· ≠ [])).bind overview.findFileioLunMapping
  mapped := some true

def isRegistered (vdisk : VDiskFile) : Bool := vdisk.mapped || vdisk.scstDeviceNames ≠ []

def detectFileConflict (deviceName filePath : Text) : Option FileioConflict :=
  match overview.findFileioDeviceByFilename filePath with
  | some device => some (overview.fileExistsConflict deviceName filePath device)
  | none =>
    match overview.vdiskFiles.find? (pathsEqual ·.path filePath) with
    | none => some {
        code := .vdiskNotFound
        message := "VDisk file not found: ".toList ++ filePath
        deviceName
        filePath }
    | some vdisk =>
      if isRegistered vdisk then some (overview.mappedConflict deviceName filePath vdisk)
      else none

def detectFileioBindConflicts (payload : CreateFileioPayload) (sanReadOnly : Bool := false) :
    Option FileioConflict :=
  let deviceName := trim payload.deviceName
  let filePath := normalizePath payload.vdiskPath
  if sanReadOnly then some {
    code := .sanReadOnly
    message := "SAN is read-only".toList
    deviceName
    filePath := trim payload.vdiskPath }
  else
    match validateScstDeviceName deviceName with
    | some nameErr => some {
        code := .invalidDeviceName
        message := "Invalid SCST device name (".toList ++ nameErr.toText ++ [')']
        deviceName
        filePath }
    | none =>
      match overview.findFileioDeviceByName deviceName with
      | some device => some (overview.nameExistsConflict deviceName device)
      | none => overview.detectFileConflict deviceName filePath

end FileioInventory

/-- Without the blanks around them and the slashes at their end, the paths are the same. -/
def SamePath (a b : Text) : Prop := normalizePath a = normalizePath b

instance (a b : Text) : Decidable (SamePath a b) := inferInstanceAs (Decidable (_ = _))

namespace FileioInventory

structure IsFree (overview : FileioInventory) (path : Text) : Prop where
  present : ∃ v ∈ overview.vdiskFiles, SamePath v.path path
  noDevice : ∀ d ∈ overview.fileioDevices, ¬ SamePath d.filename path
  unregistered : ∀ v ∈ overview.vdiskFiles, SamePath v.path path → isRegistered v = false

/-- There is no conflict exactly for a free file, and a device that is said to have the file
has it. -/
structure IsExact (overview : FileioInventory) (payload : CreateFileioPayload) : Prop where
  free : overview.detectFileioBindConflicts payload = none ↔ overview.IsFree payload.vdiskPath
  names : ∀ conflict, overview.detectFileioBindConflicts payload = some conflict →
    conflict.code = .vdiskFileAlreadyFileio → ∃ d ∈ overview.fileioDevices,
      conflict.existingDeviceName = some d.name ∧ SamePath d.filename payload.vdiskPath

end FileioInventory

/-- The conflicts are exact for all inventories with these files, whatever their devices are called
and whichever are registered, and all new devices. -/
def ExactForPaths (filenames vdiskPaths : List Text) (path : Text) : Prop :=
  ∀ (overview : FileioInventory) (payload : CreateFileioPayload),
    overview.fileioDevices.map (·.filename) = filenames →
    overview.vdiskFiles.map (·.path) = vdiskPaths →
    payload.vdiskPath = path →
    validateScstDeviceName payload.deviceName = none →
    (∀ d ∈ overview.fileioDevices, d.name ≠ trim payload.deviceName) →
    overview.IsExact payload

/-- The path is compared once it is normalized, and once more for a device. -/
def isRelatedFile (path other : Text) : Bool := pathsEqual other (normalizePath path)

def isRelatedDevice (path other : Text) : Bool :=
  pathsEqual other (normalizePath (normalizePath path))

/-- The first related path of a device is the path itself. Without one, the first related path of
a file is the path itself, in its only place, and no device has it. -/
structure FirstRelatedIsSame (filenames vdiskPaths : List Text) (path : Text) : Prop where
  device : ∀ filename, filenames.find? (isRelatedDevice path) = some filename →
    SamePath filename path
  file : filenames.find? (isRelatedDevice path) = none →
    ∀ v, vdiskPaths.find? (isRelatedFile path) = some v →
      (∀ filename ∈ filenames, ¬ SamePath filename path) ∧
        vdiskPaths.filter (SamePath · path) = [v]
  missing : filenames.find? (isRelatedDevice path) = none →
    vdiskPaths.find? (isRelatedFile path) = none →
      (∃ filename ∈ filenames, SamePath filename path) ∨ ∀ v ∈ vdiskPaths, ¬ SamePath v path

namespace FileioInventory

variable {overview : FileioInventory} {payload : CreateFileioPayload}
  {filenames vdiskPaths : List Text} {path : Text}

theorem detect_eq_detectFileConflict (hValid : validateScstDeviceName payload.deviceName = none)
    (hUnused : ∀ d ∈ overview.fileioDevices, d.name ≠ trim payload.deviceName) :
    overview.detectFileioBindConflicts payload =
      overview.detectFileConflict (trim payload.deviceName) (normalizePath payload.vdiskPath) := by
  have hName : validateScstDeviceName (trim payload.deviceName) = none := by
    rw [validateScstDeviceName, trim_trim]
    exact hValid
  have hNone : overview.findFileioDeviceByName (trim payload.deviceName) = none := by
    rw [findFileioDeviceByName, trim_trim, List.find?_eq_none]
    intro d hd
    simpa using hUnused d hd
  rw [detectFileioBindConflicts, if_neg Bool.false_ne_true, hName, hNone]

theorem detectFileConflict_of_device {deviceName filePath : Text} {d : FileioDeviceRef}
    (h : overview.findFileioDeviceByFilename filePath = some d) :
    overview.detectFileConflict deviceName filePath =
      some (overview.fileExistsConflict deviceName filePath d) := by
  rw [detectFileConflict, h]

theorem detectFileConflict_eq_none_iff {deviceName filePath : Text}
    (h : overview.findFileioDeviceByFilename filePath = none) :
    overview.detectFileConflict deviceName filePath = none ↔
      ∃ v, overview.vdiskFiles.find? (pathsEqual ·.path filePath) = some v ∧
        isRegistered v = false := by
  rw [detectFileConflict, h]
  cases hFile : overview.vdiskFiles.find? (pathsEqual ·.path filePath) with
  | none => simp
  | some v => cases hRegistered : isRegistered v <;> simp [hRegistered]

theorem code_of_detectFileConflict {deviceName filePath : Text} {conflict : FileioConflict}
    (h : overview.findFileioDeviceByFilename filePath = none)
    (hConflict : overview.detectFileConflict deviceName filePath = some conflict) :
    conflict.code ≠ .vdiskFileAlreadyFileio := by
  rw [detectFileConflict, h] at hConflict
  cases hFile : overview.vdiskFiles.find? (pathsEqual ·.path filePath) with
  | none =>
    rw [hFile] at hConflict
    obtain rfl := Option.some.inj hConflict
    exact nofun
  | some v =>
    rw [hFile] at hConflict
    dsimp only at hConflict
    split at hConflict
    · obtain rfl := Option.some.inj hConflict
      exact nofun
    · cases hConflict

theorem find?_filenames (hFilenames : overview.fileioDevices.map (·.filename) = filenames) :
    filenames.find? (isRelatedDevice path) =
      (overview.findFileioDeviceByFilename (normalizePath path)).map (·.filename) := by
  rw [← hFilenames, List.find?_map]
  rfl

theorem find?_vdiskPaths (hPaths : overview.vdiskFiles.map (·.path) = vdiskPaths) :
    vdiskPaths.find? (isRelatedFile path) =
      (overview.vdiskFiles.find? (pathsEqual ·.path (normalizePath path))).map (·.path) := by
  rw [← hPaths, List.find?_map]
  rfl

theorem isFree_iff_of_filter {v : VDiskFile} (hMem : v ∈ overview.vdiskFiles)
    (hNone : ∀ d ∈ overview.fileioDevices, ¬ SamePath d.filename path)
    (hOnly : (overview.vdiskFiles.map (·.path)).filter (SamePath · path) = [v.path]) :
    overview.IsFree path ↔ isRegistered v = false := by
  have hSame : SamePath v.path path := by
    have hIn : v.path ∈ (overview.vdiskFiles.map (·.path)).filter (SamePath · path) := by
      simp [hOnly]
    simpa using (List.mem_filter.mp hIn).2
  have hAll : ∀ w ∈ overview.vdiskFiles, SamePath w.path path → w = v := by
    intro w hw hSameW
    rw [List.filter_map] at hOnly
    obtain ⟨u, hFilter, -⟩ := List.map_eq_singleton_iff.mp hOnly
    have hIn : ∀ x ∈ overview.vdiskFiles, SamePath x.path path → x = u := by
      intro x hx hSameX
      have hMemX : x ∈ [u] := by
        rw [← hFilter]
        exact List.mem_filter.mpr ⟨hx, by simpa using hSameX⟩
      exact List.mem_singleton.mp hMemX
    rw [hIn w hw hSameW, hIn v hMem hSame]
  constructor
  · intro hFree
    exact hFree.unregistered v hMem hSame
  · intro hRegistered
    refine ⟨⟨v, hMem, hSame⟩, hNone, fun w hw hSameW => ?_⟩
    rw [hAll w hw hSameW, hRegistered]

theorem isExact_of_firstRelatedIsSame
    (h : FirstRelatedIsSame (overview.fileioDevices.map (·.filename))
      (overview.vdiskFiles.map (·.path)) payload.vdiskPath)
    (hValid : validateScstDeviceName payload.deviceName = none)
    (hUnused : ∀ d ∈ overview.fileioDevices, d.name ≠ trim payload.deviceName) :
    overview.IsExact payload := by
  have hDetect := detect_eq_detectFileConflict hValid hUnused
  cases hDevice : overview.findFileioDeviceByFilename (normalizePath payload.vdiskPath) with
  | some d =>
    have hMem : d ∈ overview.fileioDevices := List.mem_of_find?_eq_some hDevice
    have hSame : SamePath d.filename payload.vdiskPath := by
      refine h.device d.filename ?_
      rw [find?_filenames rfl, hDevice]
      rfl
    rw [detectFileConflict_of_device hDevice] at hDetect
    refine ⟨?_, fun conflict hConflict _ => ?_⟩
    · rw [hDetect]
      exact ⟨nofun, fun hFree => absurd hSame (hFree.noDevice d hMem)⟩
    · rw [hDetect] at hConflict
      obtain rfl := Option.some.inj hConflict
      exact ⟨d, hMem, rfl, hSame⟩
  | none =>
    have hFirst : (overview.fileioDevices.map (·.filename)).find?
        (isRelatedDevice payload.vdiskPath) = none := by
      rw [find?_filenames rfl, hDevice]
      rfl
    refine ⟨?_, fun conflict hConflict hCode => ?_⟩
    · rw [hDetect, detectFileConflict_eq_none_iff hDevice]
      cases hFile : overview.vdiskFiles.find?
          (pathsEqual ·.path (normalizePath payload.vdiskPath)) with
      | none =>
        have hMissing := h.missing hFirst (by rw [find?_vdiskPaths rfl, hFile]; rfl)
        refine ⟨fun ⟨v, hSome, _⟩ => (nomatch hSome), fun hFree => ?_⟩
        obtain ⟨v, hv, hSame⟩ := hFree.present
        rcases hMissing with ⟨filename, hFilename, hSameName⟩ | hNoFile
        · obtain ⟨d, hd, rfl⟩ := List.mem_map.mp hFilename
          exact absurd hSameName (hFree.noDevice d hd)
        · exact absurd hSame (hNoFile v.path (List.mem_map_of_mem hv))
      | some v =>
        obtain ⟨hNone, hOnly⟩ := h.file hFirst v.path (by rw [find?_vdiskPaths rfl, hFile]; rfl)
        rw [isFree_iff_of_filter (List.mem_of_find?_eq_some hFile)
          (fun d hd => hNone d.filename (List.mem_map_of_mem hd)) hOnly]
        simp
    · rw [hDetect] at hConflict
      exact absurd hCode (code_of_detectFileConflict hDevice hConflict)

end FileioInventory

section

variable {filenames vdiskPaths : List Text} {path : Text}

def namedDevice (path filename : Text) : FileioDeviceRef where
  name := if SamePath filename path then "s".toList else "o".toList
  filename := filename

theorem name_namedDevice_ne (filename : Text) :
    (namedDevice path filename).name ≠ trim "d".toList := by
  rw [namedDevice]
  by_cases hSame : SamePath filename path
  · rw [if_pos hSame]
    show "s".toList ≠ trim "d".toList
    decide
  · rw [if_neg hSame]
    show "o".toList ≠ trim "d".toList
    decide

theorem validateScstDeviceName_d : validateScstDeviceName "d".toList = none := by decide

def newDevice (path : Text) : CreateFileioPayload where
  deviceName := "d".toList
  vdiskPath := path

def givenInventory (filenames : List Text) (vdiskFiles : List VDiskFile) (path : Text) :
    FileioInventory where
  fileioDevices := filenames.map (namedDevice path)
  vdiskFiles := vdiskFiles

theorem isExact_given (h : ExactForPaths filenames vdiskPaths path) {vdiskFiles : List VDiskFile}
    (hPaths : vdiskFiles.map (·.path) = vdiskPaths) :
    (givenInventory filenames vdiskFiles path).IsExact (newDevice path) := by
  refine h _ _ ?_ hPaths rfl validateScstDeviceName_d ?_
  · rw [givenInventory, List.map_map]
    exact List.map_id _
  · intro d hd
    obtain ⟨filename, -, rfl⟩ := List.mem_map.mp hd
    exact name_namedDevice_ne filename

theorem detect_given (filenames : List Text) (vdiskFiles : List VDiskFile) (path : Text) :
    (givenInventory filenames vdiskFiles path).detectFileioBindConflicts (newDevice path) =
      (givenInventory filenames vdiskFiles path).detectFileConflict "d".toList
        (normalizePath path) := by
  refine FileioInventory.detect_eq_detectFileConflict validateScstDeviceName_d fun d hd => ?_
  obtain ⟨filename, -, rfl⟩ := List.mem_map.mp hd
  exact name_namedDevice_ne filename

theorem findFileioDeviceByFilename_given (vdiskFiles : List VDiskFile) :
    (givenInventory filenames vdiskFiles path).findFileioDeviceByFilename (normalizePath path) =
      (filenames.find? (isRelatedDevice path)).map (namedDevice path) := by
  rw [FileioInventory.findFileioDeviceByFilename, givenInventory, List.find?_map]
  rfl

theorem samePath_of_exact (h : ExactForPaths filenames vdiskPaths path) {filename : Text}
    (hFirst : filenames.find? (isRelatedDevice path) = some filename) : SamePath filename path := by
  have hPaths : (vdiskPaths.map fun v => ({ path := v } : VDiskFile)).map (·.path) =
      vdiskPaths := by
    rw [List.map_map]
    exact List.map_id _
  have hExact := isExact_given h hPaths
  have hDevice := @findFileioDeviceByFilename_given filenames path
    (vdiskPaths.map fun v => { path := v })
  rw [hFirst] at hDevice
  have hDetect := detect_given filenames (vdiskPaths.map fun v => { path := v }) path
  rw [FileioInventory.detectFileConflict_of_device hDevice] at hDetect
  obtain ⟨d, hd, hName, hSame⟩ := hExact.names _ hDetect rfl
  obtain ⟨other, -, rfl⟩ := List.mem_map.mp hd
  have hOther : SamePath other path := hSame
  by_contra hNot
  have hNames := Option.some.inj hName
  simp [namedDevice, hNot, hOther] at hNames

theorem isOnlyFile_of_exact (h : ExactForPaths filenames vdiskPaths path)
    (hDevice : filenames.find? (isRelatedDevice path) = none) {v : Text}
    (hFirst : vdiskPaths.find? (isRelatedFile path) = some v) :
    (∀ filename ∈ filenames, ¬ SamePath filename path) ∧
      vdiskPaths.filter (SamePath · path) = [v] := by
  obtain ⟨hRelated, before, after, rfl, hBefore⟩ := List.find?_eq_some_iff_append.mp hFirst
  -- All other files are registered.
  let registered (p : Text) : VDiskFile := { path := p, mapped := true }
  let files := before.map registered ++ { path := v } :: after.map registered
  have hPaths : files.map (·.path) = before ++ v :: after := by
    simp [files, registered, Function.comp_def]
  have hExact := isExact_given h hPaths
  have hNone := (@findFileioDeviceByFilename_given filenames path files).trans
    (congrArg (Option.map (namedDevice path)) hDevice)
  have hFile : (givenInventory filenames files path).vdiskFiles.find?
      (pathsEqual ·.path (normalizePath path)) = some { path := v } := by
    refine List.find?_eq_some_iff_append.mpr ⟨hRelated, before.map registered,
      after.map registered, rfl, fun file hIn => ?_⟩
    obtain ⟨p, hp, rfl⟩ := List.mem_map.mp hIn
    exact hBefore p hp
  have hNull : (givenInventory filenames files path).detectFileioBindConflicts
      (newDevice path) = none := by
    rw [detect_given, FileioInventory.detectFileConflict_eq_none_iff hNone]
    exact ⟨_, hFile, rfl⟩
  have hFree := hExact.free.mp hNull
  have hOthers : ∀ p ∈ before ++ after, ¬ SamePath p path := by
    intro p hp hSame
    have hIn : registered p ∈ files := by
      rcases List.mem_append.mp hp with hp | hp
      · exact List.mem_append_left _ (List.mem_map_of_mem hp)
      · exact List.mem_append_right _ (List.mem_cons_of_mem _ (List.mem_map_of_mem hp))
    cases hFree.unregistered (registered p) hIn hSame
  refine ⟨fun filename hFilename => ?_, ?_⟩
  · exact hFree.noDevice (namedDevice path filename) (List.mem_map_of_mem hFilename)
  · obtain ⟨file, hIn, hSame⟩ := hFree.present
    have hPath : file.path ∈ before ++ v :: after := hPaths ▸ List.mem_map_of_mem hIn
    have hV : SamePath v path := by
      by_cases hEq : file.path = v
      · exact hEq ▸ hSame
      · exact absurd hSame (hOthers _ (by simpa [hEq] using hPath))
    refine List.filter_eq_cons_iff.mpr ⟨before, after, rfl, fun p hp => ?_, by simpa using hV, ?_⟩
    · simpa using hOthers p (List.mem_append_left _ hp)
    · exact List.filter_eq_nil_iff.mpr fun p hp => by
        simpa using hOthers p (List.mem_append_right _ hp)

theorem missing_of_exact (h : ExactForPaths filenames vdiskPaths path)
    (hDevice : filenames.find? (isRelatedDevice path) = none)
    (hFirst : vdiskPaths.find? (isRelatedFile path) = none) :
    (∃ filename ∈ filenames, SamePath filename path) ∨ ∀ v ∈ vdiskPaths, ¬ SamePath v path := by
  let files := vdiskPaths.map fun v => ({ path := v } : VDiskFile)
  have hPaths : files.map (·.path) = vdiskPaths := by
    rw [List.map_map]
    exact List.map_id _
  have hNone := (@findFileioDeviceByFilename_given filenames path files).trans
    (congrArg (Option.map (namedDevice path)) hDevice)
  have hConflict : (givenInventory filenames files path).detectFileioBindConflicts
      (newDevice path) ≠ none := by
    rw [detect_given, Ne, FileioInventory.detectFileConflict_eq_none_iff hNone]
    rintro ⟨v, hFile, -⟩
    have hRelated := @FileioInventory.find?_vdiskPaths (givenInventory filenames files path)
      vdiskPaths path hPaths
    rw [hFirst, hFile] at hRelated
    cases hRelated
  have hNotFree := mt (isExact_given h hPaths).free.mpr hConflict
  by_contra hNot
  obtain ⟨hNoDevice, hSome⟩ := not_or.mp hNot
  push Not at hSome
  obtain ⟨v, hv, hSame⟩ := hSome
  refine hNotFree ⟨⟨{ path := v }, List.mem_map_of_mem hv, hSame⟩, fun d hd hSameDevice => ?_,
    fun file hIn _ => ?_⟩
  · obtain ⟨filename, hFilename, rfl⟩ := List.mem_map.mp hd
    exact hNoDevice ⟨filename, hFilename, hSameDevice⟩
  · obtain ⟨p, -, rfl⟩ := List.mem_map.mp hIn
    rfl

theorem exactForPaths_iff_firstRelatedIsSame (filenames vdiskPaths : List Text) (path : Text) :
    ExactForPaths filenames vdiskPaths path ↔ FirstRelatedIsSame filenames vdiskPaths path := by
  constructor
  · intro h
    exact ⟨fun _ => samePath_of_exact h, fun hDevice _ => isOnlyFile_of_exact h hDevice,
      missing_of_exact h⟩
  · rintro h overview payload rfl rfl rfl hValid hUnused
    exact FileioInventory.isExact_of_firstRelatedIsSame h hValid hUnused

end

def lostFile : FileioInventory where
  vdiskFiles := [{ path := "/mnt/vdisks/disk1".toList }]
  fileioDevices := [{ name := "DISK0".toList, filename := [] }]

/-- The device without a file is said to have every file, and the end of a path is taken for a
file of the inventory. -/
theorem conflicts_not_exact :
    ¬ lostFile.IsExact
        { deviceName := "DISK1".toList, vdiskPath := "/mnt/vdisks/disk1".toList } ∧
    ¬ FileioInventory.IsExact { lostFile with fileioDevices := [] }
        { deviceName := "DISK1".toList, vdiskPath := "disk1".toList } := by
  refine ⟨fun hExact => ?_, fun hExact => ?_⟩
  · obtain ⟨d, hd, -, hSame⟩ := hExact.names _ rfl rfl
    obtain rfl := List.mem_singleton.mp hd
    exact absurd hSame (by decide)
  · obtain ⟨v, hv, hSame⟩ := (hExact.free.mp (by decide)).present
    obtain rfl := List.mem_singleton.mp hv
    exact absurd hSame (by decide)

end EsosWebui.Fs
