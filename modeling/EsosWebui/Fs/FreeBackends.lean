import EsosWebui.Fs.BackendMerging

/-! Whether the devices that are offered for a file system are free. -/
namespace EsosWebui.Fs

open Js
open Raid (Usage)
open Lvm (LvmUsedBy)
open Raid.Inventory (BlockDevice MdArray LogicalDrive HardwareController)

def frenchSignature : Text := "Signature ou système de fichiers détecté".toList

theorem trim_of_isSignatureReason {reason : Text} (h : isSignatureReason reason) :
    trim reason = reasonFilesystemSignature ∨ trim reason = frenchSignature := by
  have hReason : normalizeBackendReason reason = reasonFilesystemSignature :=
    of_decide_eq_true h
  simp only [normalizeBackendReason] at hReason
  split at hReason
  · exact Or.inl hReason
  split at hReason
  · exact absurd hReason (by decide)
  split at hReason
  · exact absurd hReason (by decide)
  split at hReason
  · exact absurd hReason (by decide)
  split at hReason
  · have hPrefix : (reasonMountedAt ++ [':']) <+: reasonFilesystemSignature := by
      rw [← hReason]
      exact ⟨_, by rw [mountedAtReason, List.append_assoc]; rfl⟩
    exact absurd hPrefix (by decide)
  split at hReason
  next hFrench => exact Or.inr hFrench
  split at hReason
  · exact absurd hReason (by decide)
  split at hReason
  · exact absurd hReason (by decide)
  split at hReason
  · exact absurd hReason (by decide)
  · exact Or.inl hReason

theorem isSignatureReason_append {p : Text} (hNe : p ≠ [])
    (hFirst : ∀ c ∈ p.head?, isSpace c = false) (hLast : ∀ c ∈ p.getLast?, isSpace c = false)
    (hKey : ¬p <:+: reasonFilesystemSignature) (hFrench : ¬p <:+: frenchSignature) (rest : Text) :
    isSignatureReason (p ++ rest) = false := by
  rw [Bool.eq_false_iff]
  intro hSignature
  have hWithin : p <:+: trim (p ++ rest) :=
    (infix_trim_iff hNe hFirst hLast).mpr (List.prefix_append p rest).isInfix
  rcases trim_of_isSignatureReason hSignature with hTrim | hTrim
  · exact hKey (hTrim ▸ hWithin)
  · exact hFrench (hTrim ▸ hWithin)

@[simp] theorem isSignatureReason_mountedAt (mountPoint : Text) :
    isSignatureReason (mountedAtReason mountPoint) = false := by
  have hText : mountedAtReason mountPoint = (reasonMountedAt ++ [':']) ++ mountPoint := by
    rw [mountedAtReason, List.append_assoc]
    rfl
  rw [hText]
  apply isSignatureReason_append
  · exact List.append_ne_nil_of_right_ne_nil _ (List.cons_ne_nil _ _)
  · intro c hc
    obtain rfl : 's' = c := Option.some.inj hc
    rfl
  · intro c hc
    obtain rfl : ':' = c := Option.some.inj hc
    rfl
  · decide +kernel
  · decide +kernel

@[simp] theorem isSignatureReason_protectedVolume (rest : Text) :
    isSignatureReason (protectedVolume ++ rest) = false := by
  apply isSignatureReason_append
  · exact List.cons_ne_nil _ _
  · intro c hc
    obtain rfl : 'V' = c := Option.some.inj hc
    rfl
  · intro c hc
    obtain rfl : 'é' = c := Option.some.inj hc
    rfl
  · decide +kernel
  · decide +kernel

@[simp] theorem isSignatureReason_texts :
    isSignatureReason reasonScstBlockio = false ∧ isSignatureReason reasonScst = false ∧
      isSignatureReason reasonMounted = false ∧ isSignatureReason reasonLvmPv = false ∧
      isSignatureReason reasonLvmLv = false ∧ isSignatureReason reasonMdMember = false ∧
      isSignatureReason reasonFilesystemSignature = true := by decide +kernel

theorem isSignatureReason_unmapped (hasRaidCliTool : Bool) :
    isSignatureReason (Raid.Inventory.hwLdUnmappedReasonKey hasRaidCliTool) = false := by
  cases hasRaidCliTool
  · decide +kernel
  · decide +kernel

theorem isSignatureReason_of_isMountedReason {reason : Text} (h : isMountedReason reason) :
    isSignatureReason reason = false := by
  rcases Bool.or_eq_true_iff.mp h with hMounted | hAt
  · rw [of_decide_eq_true hMounted]
    exact isSignatureReason_texts.2.2.1
  · obtain ⟨mountPoint, rfl⟩ := startsWith_iff.mp hAt
    have hText : reasonMountedAt ++ [':'] ++ mountPoint = mountedAtReason mountPoint := by
      rw [mountedAtReason, List.append_assoc]
      rfl
    rw [hText, isSignatureReason_mountedAt]

/-- Some reason keeps the device from being formatted. -/
def HasBlockingReason (reasons : List Text) : Prop :=
  ∃ reason ∈ reasons, isSignatureReason reason = false

@[simp] theorem hasBlockingReason_append (reasons more : List Text) :
    HasBlockingReason (reasons ++ more) ↔ HasBlockingReason reasons ∨ HasBlockingReason more := by
  simp [HasBlockingReason, or_and_right, exists_or]

@[simp] theorem hasBlockingReason_ite (c : Prop) [Decidable c] (reason : Text) :
    HasBlockingReason (if c then [reason] else []) ↔ c ∧ isSignatureReason reason = false := by
  by_cases h : c
  · simp [HasBlockingReason, h]
  · simp [HasBlockingReason, h]

theorem classifyBackendEligibility_eq_blocked_iff (reasons : List Text) :
    classifyBackendEligibility reasons = .blocked ↔ HasBlockingReason reasons := by
  rw [classifyBackendEligibility, HasBlockingReason]
  split
  next hNil => simp [hNil]
  next =>
    split
    next hAll => simpa using hAll
    next hSome => simpa using hSome

theorem classifyBackendEligibility_eq_clean_iff (reasons : List Text) :
    classifyBackendEligibility reasons = .eligibleClean ↔ reasons = [] := by
  rw [classifyBackendEligibility]
  split
  next hNil => simp [hNil]
  next hSome =>
    split
    · simp [hSome]
    · simp [hSome]

end EsosWebui.Fs

namespace EsosWebui.Raid.Inventory.BlockDevice

def IsInUse (dev : BlockDevice) : Prop :=
  dev.IsMounted ∨ Usage.scst ∈ dev.usedBy ∨ dev.esosSystemProtected = true ∨
    Usage.lvm ∈ dev.usedBy ∨ Usage.md ∈ dev.usedBy

def IsSigned (dev : BlockDevice) : Prop := Usage.filesystem ∈ dev.usedBy ∨ dev.signatures ≠ []

end EsosWebui.Raid.Inventory.BlockDevice

namespace EsosWebui.Fs

open Js
open Raid (Usage)
open Lvm (LvmUsedBy)
open Raid.Inventory (BlockDevice MdArray LogicalDrive HardwareController)

theorem hasBlockingReason_usedByFromBlockDev (dev : BlockDevice) :
    HasBlockingReason (usedByFromBlockDev (some dev)) ↔ dev.IsInUse := by
  have hMounted (c : Bool) (mountPoint : Text) :
      isSignatureReason (if c = true then mountedAtReason mountPoint else reasonMounted) =
        false := by
    split
    · exact isSignatureReason_mountedAt mountPoint
    · exact isSignatureReason_texts.2.2.1
  have hProtected (c : Bool) (rest : Text) :
      isSignatureReason (if c = true then protectedVolume ++ rest else protectedVolume) =
        false := by
    split
    · exact isSignatureReason_protectedVolume rest
    · simpa using isSignatureReason_protectedVolume []
  simp only [usedByFromBlockDev, hasBlockingReason_append, hasBlockingReason_ite,
    List.append_assoc protectedVolume, hMounted, hProtected, isSignatureReason_texts, and_true,
    and_false, or_false, Bool.or_eq_true, List.contains_iff_mem, BlockDevice.IsInUse,
    BlockDevice.IsMounted, or_assoc, Bool.true_eq_false]

theorem usedByFromBlockDev_ne_nil_iff (dev : BlockDevice) :
    usedByFromBlockDev (some dev) ≠ [] ↔ dev.IsInUse ∨ dev.IsSigned := by
  simp only [usedByFromBlockDev, BlockDevice.IsInUse, BlockDevice.IsMounted,
    BlockDevice.IsSigned, ne_eq, List.append_eq_nil_iff, ite_eq_right_iff, reduceCtorEq,
    imp_false, not_and_or, not_not, Bool.or_eq_true, List.contains_iff_mem, decide_eq_true_eq]
  tauto

theorem hasBlockingReason_withMountPoint (reasons : List Text) (mountPoint : Option Text) :
    HasBlockingReason (withMountPoint reasons mountPoint) ↔
      HasBlockingReason reasons ∨ Esos.isSetText mountPoint = true := by
  rw [withMountPoint]
  split
  next hAdded =>
    rw [Bool.and_eq_true] at hAdded
    simp [HasBlockingReason, hAdded.1]
  next hKept =>
    constructor
    · exact Or.inl
    · rintro (hBlocked | hSet)
      · exact hBlocked
      · have hMounted : reasons.any isMountedReason = true := by
          simpa [hSet] using hKept
        obtain ⟨reason, hReason, hIs⟩ := List.any_eq_true.mp hMounted
        exact ⟨reason, hReason, isSignatureReason_of_isMountedReason hIs⟩

theorem withMountPoint_ne_nil_iff (reasons : List Text) (mountPoint : Option Text) :
    withMountPoint reasons mountPoint ≠ [] ↔ reasons ≠ [] ∨ Esos.isSetText mountPoint = true := by
  rw [withMountPoint]
  split
  next hAdded => simp [(Bool.and_eq_true_iff.mp hAdded).1]
  next hKept =>
    constructor
    · exact Or.inl
    · rintro (hSome | hSet) rfl
      · exact hSome rfl
      · simp [hSet] at hKept

inductive FsSource where
  | lv (lv : LogicalVolume)
  | array (arr : MdArray)
  | drive (ctrl : HardwareController) (ld : LogicalDrive)
  | disk (dev : BlockDevice)

namespace BackendInput

variable (input : BackendInput)

def sources : List FsSource :=
  input.lvs.map .lv ++ input.runningArrays.map .array ++
    (input.hardwareControllers.flatMap fun ctrl =>
      (ctrl.logicalDrives.filter LogicalDrive.isUsable).map (.drive ctrl)) ++
    input.newDisks.map .disk

def backend : FsSource → FsBackendRef
  | .lv lv => input.lvBackend lv
  | .array arr => input.mdBackend arr
  | .drive ctrl ld => input.ldBackend ctrl ld
  | .disk dev => input.diskBackend dev

def keyOf (source : FsSource) : Text := input.backendKey (input.backend source).path

/-- Something of the inventories is looked up for the path of a drive, and keeps it. -/
def DriveBlocked (path : Text) : Prop :=
  (∃ dev ∈ input.deviceAt path, dev.IsInUse) ∨ path ∈ input.pvs ∨
    path ∈ input.lvs.map (·.path) ∨ Esos.isSetText (input.ldMountPoint path) = true ∨
    input.ldScstNames path ≠ []

/-- What is looked up for a source keeps it from being formatted. -/
def Blocks : FsSource → Prop
  | .lv lv =>
    LvmUsedBy.scst ∈ lv.usedBy ∨ lv.scstDeviceNames ≠ [] ∨ LvmUsedBy.mounted ∈ lv.usedBy ∨
      Esos.isSetText (input.mountForDevicePath lv.path) = true
  | .array arr =>
    (∃ dev ∈ input.mdDevice arr, dev.IsInUse) ∨
      Esos.isSetText (input.mountForDevicePath arr.path) = true
  | .drive _ ld => ∀ path ∈ hwLdPath ld, input.DriveBlocked (input.canonical path)
  | .disk dev => dev.IsInUse

/-- What is looked up for a source shows a signature. -/
def Notes : FsSource → Prop
  | .lv _ => False
  | .array arr => ∃ dev ∈ input.mdDevice arr, dev.IsSigned
  | .drive _ ld => ∃ path ∈ hwLdPath ld, ∃ dev ∈ input.deviceAt (input.canonical path), dev.IsSigned
  | .disk dev => dev.IsSigned

variable {input}

theorem pushedBackends_eq : input.pushedBackends = input.sources.map input.backend := by
  simp only [pushedBackends, foundBackends, ldBackends, sources, List.map_append, List.map_map,
    List.map_flatMap]
  rfl

theorem hasBlockingReason_deviceAt (dev : Option BlockDevice) :
    HasBlockingReason (usedByFromBlockDev dev) ↔ ∃ d ∈ dev, d.IsInUse := by
  cases dev with
  | none => simp [usedByFromBlockDev, HasBlockingReason]
  | some dev => simp [hasBlockingReason_usedByFromBlockDev]

theorem usedByFromBlockDev_deviceAt_ne_nil (dev : Option BlockDevice) :
    usedByFromBlockDev dev ≠ [] ↔ (∃ d ∈ dev, d.IsInUse) ∨ ∃ d ∈ dev, d.IsSigned := by
  cases dev with
  | none => simp [usedByFromBlockDev]
  | some dev => simpa using usedByFromBlockDev_ne_nil_iff dev

theorem hasBlockingReason_lvReasons (lv : LogicalVolume) :
    HasBlockingReason (input.lvReasons lv) ↔ input.Blocks (.lv lv) := by
  have hMount : HasBlockingReason
      (((input.mountForDevicePath lv.path).filter (· ≠ [])).map mountedAtReason).toList ↔
        Esos.isSetText (input.mountForDevicePath lv.path) = true := by
    cases input.mountForDevicePath lv.path with
    | none => simp [HasBlockingReason, Esos.isSetText]
    | some mountPoint =>
      by_cases hNil : mountPoint = []
      · simp [HasBlockingReason, Esos.isSetText, hNil]
      · simp [HasBlockingReason, Esos.isSetText, hNil, Option.filter]
  simp only [lvReasons, hasBlockingReason_append, hasBlockingReason_ite, hMount,
    isSignatureReason_texts, and_true, Bool.or_eq_true, List.contains_iff_mem,
    decide_eq_true_eq, Blocks, or_assoc]

theorem lvReasons_ne_nil (lv : LogicalVolume) :
    input.lvReasons lv ≠ [] ↔ input.Blocks (.lv lv) := by
  have hMount :
      (((input.mountForDevicePath lv.path).filter (· ≠ [])).map mountedAtReason).toList = [] ↔
        ¬Esos.isSetText (input.mountForDevicePath lv.path) = true := by
    cases input.mountForDevicePath lv.path with
    | none => simp [Esos.isSetText]
    | some mountPoint =>
      by_cases hNil : mountPoint = []
      · simp [Esos.isSetText, hNil]
      · simp [Esos.isSetText, hNil, Option.filter]
  simp only [lvReasons, ne_eq, List.append_eq_nil_iff, ite_eq_right_iff, reduceCtorEq, imp_false,
    hMount, not_and_or, not_not, Bool.or_eq_true, List.contains_iff_mem, decide_eq_true_eq,
    Blocks, or_assoc]

theorem hasBlockingReason_ldReasons (path : Text) :
    HasBlockingReason (input.ldReasons path) ↔ input.DriveBlocked path := by
  simp only [ldReasons, hasBlockingReason_append, hasBlockingReason_withMountPoint,
    hasBlockingReason_deviceAt, hasBlockingReason_ite, isSignatureReason_texts, and_true,
    DriveBlocked, or_assoc]

theorem ldReasons_ne_nil (path : Text) :
    input.ldReasons path ≠ [] ↔
      input.DriveBlocked path ∨ ∃ dev ∈ input.deviceAt path, dev.IsSigned := by
  have hText (c : Prop) [Decidable c] (reason : Text) :
      (if c then [reason] else []) ≠ [] ↔ c := by
    split <;> simp [*]
  have hAppend (reasons more : List Text) : reasons ++ more ≠ [] ↔ reasons ≠ [] ∨ more ≠ [] := by
    rw [ne_eq, List.append_eq_nil_iff, not_and_or]
  rw [ldReasons, hAppend, withMountPoint_ne_nil_iff, hAppend, hAppend,
    usedByFromBlockDev_deviceAt_ne_nil, hText, hText, hText, DriveBlocked]
  generalize (∃ dev ∈ input.deviceAt path, dev.IsInUse) = inUse
  generalize (∃ dev ∈ input.deviceAt path, dev.IsSigned) = signed
  tauto

theorem hasBlockingReason_backend (source : FsSource) :
    HasBlockingReason (input.backend source).reasons ↔ input.Blocks source := by
  cases source with
  | lv lv => exact hasBlockingReason_lvReasons lv
  | array arr =>
    show HasBlockingReason (input.mdReasons arr) ↔ _
    rw [mdReasons, hasBlockingReason_withMountPoint, hasBlockingReason_deviceAt]
    rfl
  | drive ctrl ld =>
    simp only [backend, ldBackend, Blocks]
    cases hPath : hwLdPath ld with
    | none =>
      simpa [HasBlockingReason] using isSignatureReason_unmapped input.hasRaidCliTool
    | some path =>
      simpa using hasBlockingReason_ldReasons (input.canonical path)
  | disk dev => exact hasBlockingReason_usedByFromBlockDev dev

theorem reasons_backend_ne_nil (source : FsSource) :
    (input.backend source).reasons ≠ [] ↔ input.Blocks source ∨ input.Notes source := by
  cases source with
  | lv lv =>
    show input.lvReasons lv ≠ [] ↔ _ ∨ False
    rw [lvReasons_ne_nil, or_false]
  | array arr =>
    show input.mdReasons arr ≠ [] ↔ _
    rw [mdReasons, withMountPoint_ne_nil_iff, usedByFromBlockDev_deviceAt_ne_nil, or_right_comm]
    rfl
  | drive ctrl ld =>
    simp only [backend, ldBackend, Blocks, Notes]
    cases hPath : hwLdPath ld with
    | none => simp
    | some path => simpa using ldReasons_ne_nil (input.canonical path)
  | disk dev => exact usedByFromBlockDev_ne_nil_iff dev

variable (input) in
/-- Two paths of one device: they are spelled alike, or the device is known by both. -/
def SamePath (p q : Text) : Prop :=
  normalizeDevPath p = normalizeDevPath q ∨
    ∃ dev ∈ input.blockDevices, normalizeDevPath p ∈ dev.aliases.map normalizeDevPath ∧
      normalizeDevPath q ∈ dev.aliases.map normalizeDevPath

/-- The inventories say that the device of a path is in use. -/
inductive Taken (input : BackendInput) (path : Text) : Prop where
  | mount {m : BackedMount} {p : Text} (hMount : m ∈ input.mounts)
      (hPath : p ∈ m.backingPaths.getD [m.backingDevice]) (hSame : input.SamePath p path)
  | mounted {dev : BlockDevice} (hDev : dev ∈ input.blockDevices) (hMounted : dev.IsMounted)
      (hSame : input.SamePath dev.path path)
  | mountedPartition {dev part : BlockDevice} (hDev : dev ∈ input.blockDevices)
      (hPart : part ∈ input.blockDevices) (hType : part.type = .part)
      (hParent : part.IsChildOf dev) (hMounted : part.IsMounted) (hSame : input.SamePath dev.path path)
  | mountedVolume {lv : LogicalVolume} (hVolume : lv ∈ input.lvs)
      (hMounted : LvmUsedBy.mounted ∈ lv.usedBy) (hSame : input.SamePath lv.path path)
  | physicalVolume {p : Text} (hVolume : p ∈ input.pvs) (hSame : input.SamePath p path)
  | lvm {dev : BlockDevice} (hDev : dev ∈ input.blockDevices) (hLvm : Usage.lvm ∈ dev.usedBy)
      (hSame : input.SamePath dev.path path)
  | member {arr : MdArray} {p : Text} (hArray : arr ∈ input.mdArrays) (hMember : p ∈ arr.members)
      (hSame : input.SamePath p path)
  | md {dev : BlockDevice} (hDev : dev ∈ input.blockDevices) (hType : dev.type ≠ .raid)
      (hMd : Usage.md ∈ dev.usedBy) (hSame : input.SamePath dev.path path)
  | system {dev : BlockDevice} (hDev : dev ∈ input.blockDevices)
      (hSystem : dev.esosSystemProtected = true) (hSame : input.SamePath dev.path path)
  | exported {dev : BlockDevice} (hDev : dev ∈ input.blockDevices)
      (hScst : Usage.scst ∈ dev.usedBy) (hSame : input.SamePath dev.path path)
  | exportedVolume {lv : LogicalVolume} (hVolume : lv ∈ input.lvs)
      (hScst : LvmUsedBy.scst ∈ lv.usedBy ∨ lv.scstDeviceNames ≠ [])
      (hSame : input.SamePath lv.path path)
  | exportedPath {p : Text} {names : List Text} (hPath : (p, names) ∈ input.pathToDevices)
      (hNames : names ≠ []) (hSame : input.SamePath p path)

def Signed (input : BackendInput) (path : Text) : Prop :=
  ∃ dev ∈ input.blockDevices, input.SamePath dev.path path ∧
    (Usage.filesystem ∈ dev.usedBy ∨ dev.diskSignatures.getD [] ≠ [] ∨
      dev.wipefsSignatures.getD [] ≠ [])

end BackendInput

open BackendInput

variable {input : BackendInput}

theorem mem_buildFsBackends {localeCompare : Text → Text → Ordering} {b : FsBackendRef} :
    b ∈ buildFsBackends localeCompare input ↔ b ∈ input.inventory.backends :=
  (List.mergeSort_perm _ _).mem_iff

theorem exists_backend_of_source {source : FsSource} (h : source ∈ input.sources) :
    ∃ b ∈ input.inventory.backends, b.path = input.keyOf source := by
  have hPushed := @pushed_inventory input
  have hKey : input.keyOf source ∈ input.inventory.seen := by
    rw [hPushed.keys, pushedBackends_eq]
    exact ⟨_, List.mem_map_of_mem h, rfl⟩
  rw [hPushed.seen] at hKey
  exact List.mem_map.mp hKey

theorem exists_source_of_backend {b : FsBackendRef} (h : b ∈ input.inventory.backends) :
    ∃ source ∈ input.sources, input.keyOf source = b.path := by
  have hPushed := @pushed_inventory input
  have hKey : b.path ∈ input.inventory.seen := hPushed.seen ▸ List.mem_map_of_mem h
  rw [hPushed.keys, pushedBackends_eq] at hKey
  obtain ⟨pushed, hMem, hPath⟩ := hKey
  obtain ⟨source, hSource, rfl⟩ := List.mem_map.mp hMem
  exact ⟨source, hSource, hPath⟩

theorem mem_reasons_iff {b : FsBackendRef} (h : b ∈ input.inventory.backends) (reason : Text) :
    reason ∈ b.reasons ↔ ∃ source ∈ input.sources, input.keyOf source = b.path ∧
      reason ∈ (input.backend source).reasons := by
  rw [pushed_inventory.reasons b h, pushedBackends_eq]
  simp only [List.mem_map, exists_exists_and_eq_and]
  rfl

theorem eligible_iff {b : FsBackendRef} (h : b ∈ input.inventory.backends) :
    b.eligible = true ↔
      ¬∃ source ∈ input.sources, input.keyOf source = b.path ∧ input.Blocks source := by
  have hReasons : HasBlockingReason b.reasons ↔
      ∃ source ∈ input.sources, input.keyOf source = b.path ∧ input.Blocks source := by
    simp only [HasBlockingReason, mem_reasons_iff h, ← hasBlockingReason_backend]
    tauto
  rw [(pushed_inventory.eligibility b h).2, decide_eq_true_eq, ne_eq,
    classifyBackendEligibility_eq_blocked_iff, hReasons]

theorem eligibleClean_iff {b : FsBackendRef} (h : b ∈ input.inventory.backends) :
    b.eligibility = some .eligibleClean ↔ ¬∃ source ∈ input.sources,
      input.keyOf source = b.path ∧ (input.Blocks source ∨ input.Notes source) := by
  have hReasons : b.reasons ≠ [] ↔ ∃ source ∈ input.sources,
      input.keyOf source = b.path ∧ (input.Blocks source ∨ input.Notes source) := by
    simp only [← reasons_backend_ne_nil]
    constructor
    · intro hSome
      obtain ⟨reason, hReason⟩ := List.exists_mem_of_ne_nil _ hSome
      obtain ⟨source, hSource, hKey, hIn⟩ := (mem_reasons_iff h reason).mp hReason
      exact ⟨source, hSource, hKey, List.ne_nil_of_mem hIn⟩
    · rintro ⟨source, hSource, hKey, hSome⟩
      obtain ⟨reason, hIn⟩ := List.exists_mem_of_ne_nil _ hSome
      exact List.ne_nil_of_mem ((mem_reasons_iff h reason).mpr ⟨source, hSource, hKey, hIn⟩)
  rw [(pushed_inventory.eligibility b h).1, Option.some_inj,
    classifyBackendEligibility_eq_clean_iff, ← hReasons, not_ne_iff]

/-- Devices in use are left out exactly if, for each path under which something is found, what
is looked up for one of its sources tells of the use, and of a signature where there is one. -/
theorem candidates_free_iff (localeCompare : Text → Text → Ordering) (input : BackendInput) :
    (∀ b ∈ buildFsBackends localeCompare input, b.eligible = true → ¬input.Taken b.path ∧
      (b.eligibility = some .eligibleClean → ¬input.Signed b.path)) ↔
    ∀ source ∈ input.sources,
      (input.Taken (input.keyOf source) → ∃ other ∈ input.sources,
        input.keyOf other = input.keyOf source ∧ input.Blocks other) ∧
      (input.Signed (input.keyOf source) → ∃ other ∈ input.sources,
        input.keyOf other = input.keyOf source ∧ (input.Blocks other ∨ input.Notes other)) := by
  constructor
  · intro hFree source hSource
    obtain ⟨b, hb, hPath⟩ := exists_backend_of_source hSource
    rw [← hPath]
    have hb' := hFree b (mem_buildFsBackends.mpr hb)
    constructor
    · intro hTaken
      by_contra hNone
      exact (hb' ((eligible_iff hb).mpr hNone)).1 hTaken
    · intro hSigned
      by_contra hNone
      have hEligible : b.eligible = true := by
        apply (eligible_iff hb).mpr
        rintro ⟨other, hOther, hKey, hBlocks⟩
        exact hNone ⟨other, hOther, hKey, Or.inl hBlocks⟩
      exact (hb' hEligible).2 ((eligibleClean_iff hb).mpr hNone) hSigned
  · intro hSeen b hb hEligible
    rw [mem_buildFsBackends] at hb
    obtain ⟨source, hSource, hKey⟩ := exists_source_of_backend hb
    obtain ⟨hUse, hSignature⟩ := hSeen source hSource
    rw [hKey] at hUse hSignature
    constructor
    · exact fun hTaken => (eligible_iff hb).mp hEligible (hUse hTaken)
    · exact fun hClean hSigned => (eligibleClean_iff hb).mp hClean (hSignature hSigned)

def wholeDrive : BlockDevice where
  name := "sdb".toList
  path := "/dev/sdb".toList
  type := .disk
  diskSignatures := some ["dos".toList, "ext4".toList]

def dataPartition : BlockDevice where
  name := "sdb1".toList
  path := "/dev/sdb1".toList
  type := .part
  parent := some "sdb".toList
  mountpoint := some "/data".toList
  diskSignatures := some ["ext4".toList]
  usedBy := [.mounted, .filesystem]

def partitionedDrive : BackendInput where
  blockDevices := [wholeDrive, dataPartition]
  hardwareControllers :=
    [{ id := "0".toList
       logicalDrives :=
        [{ id := "0".toList, state := .optimal, osDevicePath := some "/dev/sdb".toList }] }]
  mounts :=
    [{ mountPoint := "/data".toList
       mounted := true
       backingDevice := "/dev/sdb1".toList
       backingPaths := some ["/dev/sdb1".toList] }]
  hasRaidCliTool := true

/-- The volume is offered, to be wiped. -/
theorem partitionedDrive_not_free :
    ¬∀ (localeCompare : Text → Text → Ordering) (input : BackendInput),
      ∀ b ∈ buildFsBackends localeCompare input, b.eligible = true → ¬input.Taken b.path ∧
        (b.eligibility = some .eligibleClean → ¬input.Signed b.path) := by
  intro hFree
  have hBackends : (partitionedDrive.inventory.backends.map fun b => (b.path, b.eligible)) =
      [("/dev/sdb".toList, true)] := by decide +kernel
  have hMem : ("/dev/sdb".toList, true) ∈
      partitionedDrive.inventory.backends.map fun b => (b.path, b.eligible) := by
    rw [hBackends]
    exact List.mem_singleton_self _
  obtain ⟨b, hb, hBoth⟩ := List.mem_map.mp hMem
  obtain ⟨hPath, hEligible⟩ := Prod.mk.inj hBoth
  have hTaken : partitionedDrive.Taken "/dev/sdb".toList :=
    @Taken.mountedPartition partitionedDrive _ wholeDrive dataPartition List.mem_cons_self
      (List.mem_cons_of_mem _ List.mem_cons_self) rfl (Or.inl rfl) (Or.inl List.mem_cons_self)
      (Or.inl rfl)
  apply (hFree (fun _ _ => .eq) partitionedDrive b (mem_buildFsBackends.mpr hb) hEligible).1
  rw [hPath]
  exact hTaken

end EsosWebui.Fs
