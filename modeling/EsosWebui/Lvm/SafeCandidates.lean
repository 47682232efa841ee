import EsosWebui.Lvm.Candidates

/-! Whether the devices that are offered for a physical volume are free. -/
namespace EsosWebui.Lvm.Candidates

open Js
open Raid (Usage)
open Raid.Inventory

inductive Source where
  | array (arr : MdArray)
  | drive (ctrl : HardwareController) (ld : LogicalDrive)
  | device (dev : BlockDevice)

namespace LvmCandidateInventoryInput

variable (input : LvmCandidateInventoryInput)

/-- What is looked at, in order. -/
def sources : List Source :=
  input.mdArrays.map .array ++
    (input.hardwareControllers.flatMap fun ctrl => ctrl.logicalDrives.map (.drive ctrl)) ++
    (input.blockDevices.filter
      (·.path ∉ collectMappedHwOsPaths input.hardwareControllers)).map .device

def candidate : Source → Option Candidate
  | .array arr => input.arrayCandidate arr
  | .drive ctrl ld => input.driveCandidate ctrl ld
  | .device dev => input.evaluateBlockDevice dev

/-- The path is known to be a logical or a physical volume. -/
def IsVolume (path : Text) : Prop := path ∈ input.lvPaths ∨ path ∈ input.pvPaths

instance (path : Text) : Decidable (input.IsVolume path) :=
  inferInstanceAs (Decidable (path ∈ input.lvPaths ∨ path ∈ input.pvPaths))

def pathOf : Source → Option Text
  | .array arr => if isActiveMdArray arr && arr.path ∉ input.pvPaths then some arr.path else none
  | .drive ctrl ld =>
    if ld.isUsable = false then none
    else
      match hwLdPath ld with
      | none => some ("hw:".toList ++ ctrl.id ++ '/' :: ld.id)
      | some path =>
        if path ∈ input.pvPaths then none
        else
          match findBlockDeviceByPath input.blockDevices path with
          | some dev => if input.IsVolume dev.path then none else some dev.path
          | none => some path
  | .device dev =>
    if dev.type = .lvm ∨ dev.type = .rom then none
    else if input.IsVolume dev.path then none
    else some dev.path

/-- Something is said against a volume on the device of a controller. -/
def AgainstDrive (dev : BlockDevice) : Prop :=
  dev.IsMounted ∨ Usage.lvm ∈ dev.usedBy ∨ Usage.scst ∈ dev.usedBy ∨ Usage.md ∈ dev.usedBy ∨
    Usage.filesystem ∈ dev.usedBy ∨ dev.signatures ≠ [] ∨ dev.esosSystemProtected = true

/-- Something is said against a source, by the checks of its loop. -/
def Rejects : Source → Prop
  | .array arr => Usage.lvm ∈ arr.usedBy ∨ Usage.scst ∈ arr.usedBy
  | .drive _ ld =>
    ∀ path ∈ hwLdPath ld, ∀ dev ∈ findBlockDeviceByPath input.blockDevices path,
      AgainstDrive dev
  | .device dev =>
    candidateKind dev ≠ .md ∨ dev.type = .part ∨ dev.IsMounted ∨ Usage.lvm ∈ dev.usedBy ∨
      Usage.scst ∈ dev.usedBy ∨ Usage.filesystem ∈ dev.usedBy ∨
      Usage.unknownSignature ∈ dev.usedBy ∨ dev.esosSystemProtected = true

end LvmCandidateInventoryInput

open LvmCandidateInventoryInput

variable {input : LvmCandidateInventoryInput}

def usageOf : LvmUsedBy → Usage
  | .filesystem => .filesystem
  | .md => .md
  | .lvm => .lvm
  | .scst => .scst
  | .mounted => .mounted
  | .unknownSignature => .unknownSignature

theorem lvmUsage_eq_some_iff (usage : Usage) (used : LvmUsedBy) :
    lvmUsage usage = some used ↔ usage = usageOf used := by
  cases usage <;> cases used <;> decide

theorem mem_mapUsedBy {dev : BlockDevice} (hType : dev.type ≠ .lvm) (used : LvmUsedBy) :
    used ∈ mapUsedBy dev ↔ usageOf used ∈ dev.usedBy := by
  simp only [mapUsedBy, if_neg hType, List.append_nil, mem_unique, List.mem_filterMap,
    lvmUsage_eq_some_iff, exists_eq_right]

theorem collectBlockDevReasons_eq_nil_iff (dev : BlockDevice) :
    collectBlockDevReasons dev = [] ↔ ¬AgainstDrive dev := by
  simp only [collectBlockDevReasons, AgainstDrive, BlockDevice.IsMounted,
    List.append_eq_nil_iff, ite_eq_right_iff, List.cons_ne_nil, imp_false, Bool.or_eq_true,
    List.contains_iff_mem, decide_eq_true_eq]
  tauto

theorem blockDeviceReasons_eq_nil_iff {dev : BlockDevice} (hType : dev.type ≠ .lvm) :
    blockDeviceReasons dev = [] ↔ ¬input.Rejects (.device dev) := by
  have hKind : candidateKind dev ≠ .md ↔ candidateKind dev = .disk ∨ candidateKind dev = .unknown ∨
      (candidateKind dev = .part ∧ dev.type = .part) := by
    rw [candidateKind]
    split
    · simp
    split
    · simp
    split
    next hPart => simp [hPart]
    · simp
  simp only [blockDeviceReasons, Rejects, BlockDevice.IsMounted, List.append_eq_nil_iff,
    ite_eq_right_iff, List.cons_ne_nil, imp_false, Bool.or_eq_true, Bool.and_eq_true,
    List.contains_iff_mem, decide_eq_true_eq, mem_mapUsedBy hType, usageOf, hKind]
  tauto

@[simp] theorem judged_path (c : Candidate) : c.judged.path = c.path := rfl

@[simp] theorem judged_eligible (c : Candidate) : c.judged.eligible = true ↔ c.reasons = [] := by
  simp [Candidate.judged]

theorem map_path_candidate (source : Source) :
    (input.candidate source).map (·.path) = input.pathOf source := by
  cases source with
  | array arr =>
    simp only [candidate, arrayCandidate, pathOf]
    by_cases hActive : isActiveMdArray arr = true
    · by_cases hVolume : arr.path ∈ input.pvPaths
      · simp [hVolume]
      · simp [hActive, hVolume]
    · simp [hActive]
  | drive ctrl ld =>
    simp only [candidate, driveCandidate, pathOf]
    split
    · rfl
    cases hwLdPath ld with
    | none => rfl
    | some path =>
      by_cases hVolume : path ∈ input.pvPaths
      · simp [hVolume]
      · simp only [hVolume, if_false]
        cases findBlockDeviceByPath input.blockDevices path with
        | none => rfl
        | some dev =>
          simp only [evaluateHwRaidLdFromBlockDevice, IsVolume]
          by_cases hDev : dev.path ∈ input.lvPaths ∨ dev.path ∈ input.pvPaths
          · simp [hDev]
          · simp [hDev]
  | device dev =>
    simp only [candidate, evaluateBlockDevice, pathOf, IsVolume]
    by_cases hType : dev.type = .lvm ∨ dev.type = .rom
    · simp [hType]
    · by_cases hDev : dev.path ∈ input.lvPaths ∨ dev.path ∈ input.pvPaths
      · simp [hType, hDev]
      · simp [hType, hDev]

theorem eligible_candidate {source : Source} {c : Candidate}
    (h : input.candidate source = some c) : c.eligible = true ↔ ¬input.Rejects source := by
  cases source with
  | array arr =>
    simp only [candidate, arrayCandidate] at h
    split at h
    · cases h
    obtain rfl := Option.some.inj h
    rw [judged_eligible]
    by_cases hLvm : Usage.lvm ∈ arr.usedBy
    · simp [hLvm, Rejects]
    · by_cases hScst : Usage.scst ∈ arr.usedBy
      · simp [hLvm, hScst, Rejects]
      · simp [hLvm, hScst, Rejects]
  | drive ctrl ld =>
    simp only [candidate, driveCandidate] at h
    split at h
    · cases h
    next hUsable =>
    simp only [Rejects]
    cases hPath : hwLdPath ld with
    | none =>
      rw [hPath] at h
      obtain rfl := Option.some.inj h
      simp
    | some path =>
      rw [hPath] at h
      simp only at h
      split at h
      · cases h
      cases hFind : findBlockDeviceByPath input.blockDevices path with
      | none =>
        rw [hFind] at h
        obtain rfl := Option.some.inj h
        simp [evaluateHwBackendEligibility, hUsable, hFind]
      | some dev =>
        rw [hFind] at h
        simp only [evaluateHwRaidLdFromBlockDevice] at h
        split at h
        · cases h
        obtain rfl := Option.some.inj h
        rw [judged_eligible]
        have hReasons : (if (evaluateHwBackendEligibility (some dev) ld).lvmEligible = true
            then [] else (evaluateHwBackendEligibility (some dev) ld).reasons) =
            collectBlockDevReasons dev := by
          simp only [evaluateHwBackendEligibility, if_neg hUsable, decide_eq_true_eq]
          split
          next hNone => exact hNone.symm
          · rfl
        rw [hReasons, collectBlockDevReasons_eq_nil_iff]
        simp [hFind]
  | device dev =>
    simp only [candidate, evaluateBlockDevice] at h
    split at h
    · cases h
    next hType =>
    split at h
    · cases h
    obtain rfl := Option.some.inj h
    rw [judged_eligible]
    exact blockDeviceReasons_eq_nil_iff (not_or.mp hType).1

theorem mem_foldl_push {options : List (Option Candidate)} {candidates : List Candidate}
    (c : Candidate) :
    c ∈ options.foldl push candidates ↔ c ∈ candidates ∨ (c.path ∉ candidates.map (·.path) ∧
      (options.filterMap id).find? (·.path = c.path) = some c) := by
  induction options generalizing candidates with
  | nil => simp
  | cons o options ih =>
    rw [List.foldl_cons, ih]
    cases o with
    | none => rfl
    | some d =>
      simp only [push, List.filterMap_cons, id_eq, List.find?_cons]
      by_cases hSeen : d.path ∈ candidates.map (·.path)
      · rw [if_pos hSeen]
        by_cases hSame : d.path = c.path
        · simp [hSame ▸ hSeen, hSame]
        · simp [hSame]
      · rw [if_neg hSeen]
        by_cases hSame : d.path = c.path
        · have hNew : c.path ∉ candidates.map (·.path) := hSame ▸ hSeen
          simp [List.mem_map.not.mp hNew, hSame, @eq_comm _ c]
        · have hOther : c ≠ d := fun h => hSame (h ▸ rfl)
          simp [hSame, hOther, Ne.symm hSame]

theorem pushBlockDevice_eq (candidates : List Candidate) (dev : BlockDevice)
    (hFree : dev.path ∉ collectMappedHwOsPaths input.hardwareControllers) :
    input.pushBlockDevice candidates dev = push candidates (input.evaluateBlockDevice dev) := by
  rw [pushBlockDevice, if_neg hFree]
  split
  next hKnown =>
    rw [Bool.and_eq_true, List.any_eq_true] at hKnown
    obtain ⟨c, hc, hPath⟩ := hKnown.2
    have hSeen : dev.path ∈ candidates.map (·.path) :=
      List.mem_map.mpr ⟨c, hc, of_decide_eq_true hPath⟩
    have hNew : ∀ d ∈ input.evaluateBlockDevice dev, d.path = dev.path := by
      intro d hd
      have hPath := @map_path_candidate input (.device dev)
      simp only [candidate, pathOf, Option.mem_def.mp hd, Option.map_some] at hPath
      split at hPath
      · cases hPath
      split at hPath
      · cases hPath
      · exact Option.some.inj hPath
    cases hd : input.evaluateBlockDevice dev with
    | none => rfl
    | some d => rw [push, if_pos (hNew d hd ▸ hSeen)]
  next => rfl

theorem candidates_eq : input.candidates = (input.sources.map input.candidate).foldl push [] := by
  have hDevices (devices : List BlockDevice) (candidates : List Candidate) :
      devices.foldl input.pushBlockDevice candidates =
        ((devices.filter (·.path ∉ collectMappedHwOsPaths input.hardwareControllers)).map
          input.evaluateBlockDevice).foldl push candidates := by
    induction devices generalizing candidates with
    | nil => rfl
    | cons dev devices ih =>
      rw [List.foldl_cons, ih]
      by_cases hFree : dev.path ∈ collectMappedHwOsPaths input.hardwareControllers
      · rw [List.filter_cons_of_neg (by simpa using hFree), pushBlockDevice, if_pos hFree]
      · rw [List.filter_cons_of_pos (by simpa using hFree), pushBlockDevice_eq _ _ hFree]
        rfl
  simp only [LvmCandidateInventoryInput.candidates, hDevices, sources, List.map_append,
    List.foldl_append, List.map_map, List.map_flatMap]
  rfl

theorem mem_candidates_iff (c : Candidate) :
    c ∈ input.candidates ↔ ∃ source,
      input.sources.find? (input.pathOf · = some c.path) = some source ∧
        input.candidate source = some c := by
  have hPath (source : Source) :
      (input.candidate source).any (fun d => decide (d.path = c.path)) =
        decide (input.pathOf source = some c.path) := by
    rw [← map_path_candidate]
    cases input.candidate source with
    | none => simp
    | some d => simp
  rw [candidates_eq, mem_foldl_push, List.filterMap_map, List.find?_filterMap]
  simp only [List.not_mem_nil, false_or, List.map_nil, not_false_eq_true, true_and,
    Function.comp_def, id_eq, hPath, Option.bind_eq_some_iff]

inductive MountedTree (devices : List BlockDevice) : BlockDevice → Prop where
  | mounted {dev : BlockDevice} (hMounted : dev.IsMounted) : MountedTree devices dev
  | child {dev child : BlockDevice} (hChild : child ∈ devices) (hParent : child.IsChildOf dev)
      (hTree : MountedTree devices child) : MountedTree devices dev

inductive Taken (input : LvmCandidateInventoryInput) (path : Text) : Prop where
  | mounted {dev : BlockDevice} (hDev : dev ∈ input.blockDevices) (hPath : dev.path = path)
      (hTree : MountedTree input.blockDevices dev)
  | mountedArray {arr : MdArray} (hArray : arr ∈ input.mdArrays) (hPath : arr.path = path)
      (hMounted : Usage.mounted ∈ arr.usedBy)
  | system {dev : BlockDevice} (hDev : dev ∈ input.blockDevices) (hPath : dev.path = path)
      (hSystem : dev.esosSystemProtected = true)
  | signed {dev : BlockDevice} (hDev : dev ∈ input.blockDevices) (hPath : dev.path = path)
      (hSigned : Usage.filesystem ∈ dev.usedBy ∨ Usage.unknownSignature ∈ dev.usedBy)
  | signedArray {arr : MdArray} (hArray : arr ∈ input.mdArrays) (hPath : arr.path = path)
      (hSigned : Usage.filesystem ∈ arr.usedBy)
  | physicalVolume (hVolume : path ∈ input.pvPaths)
  | lvm {dev : BlockDevice} (hDev : dev ∈ input.blockDevices) (hPath : dev.path = path)
      (hLvm : Usage.lvm ∈ dev.usedBy)
  | lvmArray {arr : MdArray} (hArray : arr ∈ input.mdArrays) (hPath : arr.path = path)
      (hLvm : Usage.lvm ∈ arr.usedBy)
  | member {arr : MdArray} (hArray : arr ∈ input.mdArrays) (hActive : arr.state ≠ .inactive)
      (hMember : path ∈ arr.members)
  | exported {dev : BlockDevice} (hDev : dev ∈ input.blockDevices) (hPath : dev.path = path)
      (hScst : Usage.scst ∈ dev.usedBy)
  | exportedArray {arr : MdArray} (hArray : arr ∈ input.mdArrays) (hPath : arr.path = path)
      (hScst : Usage.scst ∈ arr.usedBy)

theorem mem_buildLvmCandidates {localeCompare : Text → Text → Ordering} {c : Candidate} :
    c ∈ buildLvmCandidatesFromInventory localeCompare input ↔ c ∈ input.candidates :=
  (List.mergeSort_perm _ _).mem_iff

/-- Only free devices are offered exactly if, for each path, the checks of the first loop that
puts it forward see that it is taken. -/
theorem candidates_safe_iff (localeCompare : Text → Text → Ordering)
    (input : LvmCandidateInventoryInput) :
    (∀ c ∈ buildLvmCandidatesFromInventory localeCompare input,
      c.eligible = true → ¬Taken input c.path) ↔
    ∀ path source, input.sources.find? (input.pathOf · = some path) = some source →
      Taken input path → input.Rejects source := by
  constructor
  · intro hSafe path source hFirst hTaken
    have hPath : input.pathOf source = some path := by simpa using List.find?_some hFirst
    rw [← map_path_candidate, Option.map_eq_some_iff] at hPath
    obtain ⟨c, hc, rfl⟩ := hPath
    have hMem : c ∈ buildLvmCandidatesFromInventory localeCompare input :=
      mem_buildLvmCandidates.mpr ((mem_candidates_iff c).mpr ⟨source, hFirst, hc⟩)
    by_contra hFree
    exact hSafe c hMem ((eligible_candidate hc).mpr hFree) hTaken
  · intro hSeen c hc hEligible hTaken
    obtain ⟨source, hFirst, hCandidate⟩ :=
      (mem_candidates_iff c).mp (mem_buildLvmCandidates.mp hc)
    exact (eligible_candidate hCandidate).mp hEligible (hSeen c.path source hFirst hTaken)

def mountedArray : LvmCandidateInventoryInput where
  blockDevices :=
    [{ name := "md0".toList
       path := "/dev/md0".toList
       type := .raid
       mountpoint := some "/data".toList
       usedBy := [.mounted, .filesystem, .md] }]
  mdArrays :=
    [{ name := "md0".toList
       path := "/dev/md0".toList
       state := .clean
       raidDevices := 2
       activeDevices := 2
       members := ["/dev/sda1".toList, "/dev/sdb1".toList]
       usedBy := [.filesystem, .mounted] }]

/-- The mounted array is offered: its loop does not look at the block devices. -/
theorem mountedArray_not_safe :
    ¬∀ (localeCompare : Text → Text → Ordering) (input : LvmCandidateInventoryInput),
      ∀ c ∈ buildLvmCandidatesFromInventory localeCompare input,
        c.eligible = true → ¬Taken input c.path := by
  intro hSafe
  obtain ⟨c, hc, hEligible, hPath⟩ : ∃ c ∈ mountedArray.candidates,
      c.eligible = true ∧ c.path = "/dev/md0".toList :=
    ⟨_, List.mem_cons_self, rfl, rfl⟩
  apply hSafe (fun _ _ => .eq) mountedArray c (mem_buildLvmCandidates.mpr hc) hEligible
  exact .mounted List.mem_cons_self hPath.symm (.mounted (Or.inl List.mem_cons_self))

end EsosWebui.Lvm.Candidates
