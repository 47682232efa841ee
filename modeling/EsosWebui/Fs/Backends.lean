import EsosWebui.Fs.CreateFs
import EsosWebui.Js.Arrays
import EsosWebui.Lvm.Types
import EsosWebui.Raid.Inventory

/-! The devices on which a file system can be made, from the inventories of a node, and what stands
against each of them. -/
namespace EsosWebui.Fs

open Js
open Raid.Inventory (BlockDevice MdArray LogicalDrive HardwareController hwLdUnmappedReasonKey)
open Lvm (LvmUsedBy)

structure LogicalVolume where
  path : Text
  displayName : Text
  sizeBytes : Nat := 0
  usedBy : List LvmUsedBy := []
  scstDeviceNames : List Text := []

structure BackedMount extends FileSystemMount where
  backingDevice : Text
  backingPaths : Option (List Text) := none

structure BackendInput where
  blockDevices : List BlockDevice := []
  mdArrays : List MdArray := []
  hardwareControllers : List HardwareController := []
  lvs : List LogicalVolume := []
  /-- The paths of the physical volumes. -/
  pvs : List Text := []
  mounts : List BackedMount := []
  pathToDevices : List (Text × List Text) := []
  allowRawDisk : Bool := false
  /-- A command line tool of the controllers is there. -/
  hasRaidCliTool : Bool := false

def devPrefix : Text := "/dev/".toList

def normalizeDevPath (path : Text) : Text :=
  let t := trim path
  if t = [] then []
  else if startsWith t devPrefix then t
  else if startsWith t "UUID=".toList || startsWith t "LABEL=".toList then t
  else devPrefix ++ t.dropWhile (· = '/')

/-- What follows the last slash. -/
def devPathBasename (path : Text) : Text := Esos.baseName (normalizeDevPath path)

/-- Each path with the paths of the same device, in the order in which they came. -/
abbrev PathAliasIndex := List (Text × List Text)

namespace PathAliasIndex

def ensureKey (index : PathAliasIndex) (key : Text) : PathAliasIndex :=
  if (index.lookup key).isSome then index else index ++ [(key, [key])]

def addPaths (index : PathAliasIndex) (key : Text) (paths : List Text) : PathAliasIndex :=
  index.map fun entry =>
    if entry.1 = key then (entry.1, paths.foldl Esos.addTo entry.2) else entry

def add (index : PathAliasIndex) (canonical spelling : Text) : PathAliasIndex :=
  let c := normalizeDevPath canonical
  let a := normalizeDevPath spelling
  if c = [] ∨ a = [] then index
  else
    let index := ((index.ensureKey c).addPaths c [a, c]).ensureKey a
    index.addPaths a ((index.lookup c).getD [])

end PathAliasIndex

def buildPathAliasIndex (blockDevices : List BlockDevice) : PathAliasIndex :=
  blockDevices.foldl
    (fun index dev =>
      dev.aliases.foldl (fun index spelling => index.add dev.path spelling) index) []

def resolveCanonicalPath (path : Text) (index : PathAliasIndex) : Text :=
  let n := normalizeDevPath path
  match index.lookup n with
  | some aliases => aliases.head?.getD n
  | none =>
    let base := devPathBasename n
    ((index.find? fun entry => devPathBasename entry.1 = base ||
      entry.2.any (devPathBasename · = base)).map (·.1)).getD n

def reasonScstBlockio : Text := "storage.fs.backend.reason.scst_blockio".toList

def reasonScst : Text := "storage.fs.backend.reason.scst".toList

def reasonMounted : Text := "storage.fs.backend.reason.mounted".toList

def reasonMountedAt : Text := "storage.fs.backend.reason.mounted_at".toList

def reasonFilesystemSignature : Text := "storage.fs.backend.reason.filesystem_signature".toList

def reasonLvmPv : Text := "storage.fs.backend.reason.lvm_pv".toList

def reasonLvmLv : Text := "storage.fs.backend.reason.lvm_lv".toList

def reasonMdMember : Text := "storage.fs.backend.reason.md_member".toList

def mountedAtReason (mountPoint : Text) : Text := reasonMountedAt ++ ':' :: mountPoint

def mountedOnFrench : Text := "Monté sur ".toList

def normalizeBackendReason (raw : Text) : Text :=
  let t := trim raw
  if startsWith t "storage.".toList then t
  else if t = "Utilisé par SCST (blockio)".toList then reasonScstBlockio
  else if t = "Utilisé par SCST".toList then reasonScst
  else if t = "Monté".toList then reasonMounted
  else if startsWith t mountedOnFrench then mountedAtReason (t.drop mountedOnFrench.length)
  else if t = "Signature ou système de fichiers détecté".toList then reasonFilesystemSignature
  else if t = "Volume physique LVM".toList then reasonLvmPv
  else if t = "Logical volume LVM".toList then reasonLvmLv
  else if t = "Membre ou métadonnées MD".toList then reasonMdMember
  else t

/-- The reason does not keep a device from being formatted once it is wiped. -/
def isSignatureReason (reason : Text) : Bool :=
  normalizeBackendReason reason = reasonFilesystemSignature

def classifyBackendEligibility (reasons : List Text) : BackendEligibility :=
  if reasons = [] then .eligibleClean
  else if reasons.all isSignatureReason then .eligibleWithWipeRequired
  else .blocked

def protectedVolume : Text := "Volume système ESOS protégé".toList

def usedByFromBlockDev : Option BlockDevice → List Text
  | none => []
  | some dev =>
    (if dev.usedBy.contains .mounted || Esos.isSetText dev.mountpoint then
      [if Esos.isSetText dev.mountpoint then mountedAtReason (dev.mountpoint.getD [])
        else reasonMounted] else []) ++
    (if dev.usedBy.contains .scst then [reasonScst] else []) ++
    (if dev.usedBy.contains .filesystem || dev.signatures ≠ [] then
      [reasonFilesystemSignature] else []) ++
    (if dev.esosSystemProtected then
      [if Esos.isSetText dev.protectedDevice then
        protectedVolume ++ " (".toList ++ dev.protectedDevice.getD [] ++ [')']
        else protectedVolume] else []) ++
    (if dev.usedBy.contains .lvm then [reasonLvmPv] else []) ++
    (if dev.usedBy.contains .md then [reasonMdMember] else [])

def isMountedReason (reason : Text) : Bool :=
  reason = reasonMounted || startsWith reason (reasonMountedAt ++ [':'])

def withMountPoint (reasons : List Text) (mountPoint : Option Text) : List Text :=
  if Esos.isSetText mountPoint && !reasons.any isMountedReason then
    reasons ++ [mountedAtReason (mountPoint.getD [])]
  else reasons

inductive FsBackendKind where
  | lvmLv
  | md
  | hwRaidLd
  | disk

def FsBackendKind.name : FsBackendKind → Text
  | lvmLv => "lvm_lv".toList
  | md => "md".toList
  | hwRaidLd => "hw_raid_ld".toList
  | disk => "disk".toList

structure FsBackendRef where
  path : Text
  kind : FsBackendKind
  sizeBytes : Nat := 0
  eligible : Bool := false
  eligibility : Option BackendEligibility := none
  reasons : List Text
  displayName : Option Text := none
  mountPoint : Option Text := none
  scstDeviceNames : Option (List Text) := none
  signatures : Option (List Text) := none

structure FsInventory where
  backends : List FsBackendRef := []
  seen : List Text := []

namespace BackendInput

variable (input : BackendInput)

def index : PathAliasIndex := buildPathAliasIndex input.blockDevices

def canonical (path : Text) : Text := resolveCanonicalPath path input.index

def backendKey (path : Text) : Text :=
  if startsWith path "hw:".toList then path else input.canonical path

def merge (existing normalized : FsBackendRef) : FsBackendRef :=
  let reasons := unique (existing.reasons ++ normalized.reasons)
  let eligibility := classifyBackendEligibility reasons
  { existing with
    reasons
    mountPoint := if Esos.isSetText normalized.mountPoint then normalized.mountPoint
      else existing.mountPoint
    eligibility := some eligibility
    eligible := eligibility ≠ .blocked }

def push (inventory : FsInventory) (b : FsBackendRef) : FsInventory :=
  let eligibility := b.eligibility.getD (classifyBackendEligibility b.reasons)
  let normalized :=
    { b with eligibility := some eligibility, eligible := eligibility ≠ .blocked }
  let key := input.backendKey b.path
  if key ∈ inventory.seen then
    { inventory with
      backends := inventory.backends.modify
        (inventory.backends.findIdx (input.backendKey ·.path = key)) (merge · normalized) }
  else
    { backends := inventory.backends ++ [{ normalized with path := key }]
      seen := inventory.seen ++ [key] }

def mountForDevicePath (path : Text) : Option Text :=
  (input.mounts.find? fun m =>
    (m.backingPaths.getD [m.backingDevice]).any (input.canonical · = input.canonical path)).map
    (·.mountPoint)

def deviceAt (canonical : Text) : Option BlockDevice :=
  input.blockDevices.find? (input.canonical ·.path = canonical)

def lvReasons (lv : LogicalVolume) : List Text :=
  (if lv.usedBy.contains .scst || lv.scstDeviceNames ≠ [] then [reasonScstBlockio] else []) ++
    (if lv.usedBy.contains .mounted then [reasonMounted] else []) ++
    (((input.mountForDevicePath lv.path).filter (· ≠ [])).map mountedAtReason).toList

def lvBackend (lv : LogicalVolume) : FsBackendRef :=
  { path := lv.path
    kind := .lvmLv
    sizeBytes := lv.sizeBytes
    reasons := input.lvReasons lv
    displayName := some lv.displayName
    mountPoint := input.mountForDevicePath lv.path
    scstDeviceNames := some lv.scstDeviceNames }

def mdDevice (arr : MdArray) : Option BlockDevice := input.deviceAt (input.canonical arr.path)

def mdReasons (arr : MdArray) : List Text :=
  withMountPoint (usedByFromBlockDev (input.mdDevice arr)) (input.mountForDevicePath arr.path)

def mdBackend (arr : MdArray) : FsBackendRef :=
  { path := arr.path
    kind := .md
    sizeBytes := (arr.sizeBytes.or ((input.mdDevice arr).map (·.sizeBytes))).getD 0
    reasons := input.mdReasons arr
    displayName := some arr.name
    mountPoint := input.mountForDevicePath arr.path
    signatures := (input.mdDevice arr).bind (·.diskSignatures) }

def runningArrays : List MdArray :=
  input.mdArrays.filter fun arr => (arr.state = .clean || arr.state = .active) && arr.path ≠ []

/-- `a?.trim() || b?.trim() || c?.trim()` -/
def firstSet (paths : List (Option Text)) : Option Text :=
  (paths.filterMap fun path => (path.map trim).filter (· ≠ [])).head?

def hwLdPath (ld : LogicalDrive) : Option Text :=
  (firstSet [ld.osDevicePath, ld.devicePath, ld.scsiDevice]).map normalizeDevPath

def ldMountPoint (path : Text) : Option Text :=
  (input.mountForDevicePath path).or ((input.deviceAt path).bind (·.mountpoint))

def ldScstNames (path : Text) : List Text := (input.pathToDevices.lookup path).getD []

def ldReasons (path : Text) : List Text :=
  withMountPoint
    (usedByFromBlockDev (input.deviceAt path) ++
      (if path ∈ input.pvs then [reasonLvmPv] else []) ++
      (if path ∈ input.lvs.map (·.path) then [reasonLvmLv] else []))
    (input.ldMountPoint path) ++
  (if input.ldScstNames path ≠ [] then [reasonScst] else [])

def ldBackend (ctrl : HardwareController) (ld : LogicalDrive) : FsBackendRef :=
  match hwLdPath ld with
  | none =>
    { path := "hw:".toList ++ ctrl.id ++ '/' :: ld.id
      kind := .hwRaidLd
      sizeBytes := ld.sizeBytes.getD 0
      reasons := [hwLdUnmappedReasonKey input.hasRaidCliTool]
      displayName := some (ld.name.getD ld.id) }
  | some rawPath =>
    let path := input.canonical rawPath
    { path
      kind := .hwRaidLd
      sizeBytes := (ld.sizeBytes.or ((input.deviceAt path).map (·.sizeBytes))).getD 0
      reasons := input.ldReasons path
      displayName := some (ld.name.getD ld.id)
      mountPoint := input.ldMountPoint path
      scstDeviceNames :=
        if input.ldScstNames path = [] then none else some (input.ldScstNames path)
      signatures := (input.deviceAt path).bind (·.diskSignatures) }

def ldBackends : List FsBackendRef :=
  input.hardwareControllers.flatMap fun ctrl =>
    (ctrl.logicalDrives.filter LogicalDrive.isUsable).map (input.ldBackend ctrl)

def diskBackend (dev : BlockDevice) : FsBackendRef :=
  let path := input.canonical dev.path
  { path
    kind := .disk
    sizeBytes := dev.sizeBytes
    reasons := usedByFromBlockDev (some dev)
    mountPoint := dev.mountpoint.or (input.mountForDevicePath path)
    signatures := dev.diskSignatures }

/-- Disks that were found before, or have physical volumes, are passed over. -/
def pushDisk (inventory : FsInventory) (dev : BlockDevice) : FsInventory :=
  if dev.type ≠ .disk ∨ dev.path ∈ input.pvs ∨ input.canonical dev.path ∈ inventory.seen then
    inventory
  else input.push inventory (input.diskBackend dev)

def foundBackends : List FsBackendRef :=
  input.lvs.map input.lvBackend ++ input.runningArrays.map input.mdBackend ++ input.ldBackends

def inventory : FsInventory :=
  let found := input.foundBackends.foldl input.push {}
  if input.allowRawDisk then input.blockDevices.foldl input.pushDisk found else found

end BackendInput

def backendLe (localeCompare : Text → Text → Ordering) (a b : FsBackendRef) : Bool :=
  ((localeCompare a.kind.name b.kind.name).then (localeCompare a.path b.path)).isLE

def buildFsBackends (localeCompare : Text → Text → Ordering) (input : BackendInput) :
    List FsBackendRef :=
  input.inventory.backends.mergeSort (backendLe localeCompare)

theorem normalizeDevPath_of_startsWith {s : Text} (hTrim : trim s = s)
    (h : startsWith s devPrefix) : normalizeDevPath s = s := by
  have hNe : s ≠ [] := by
    rintro rfl
    revert h
    decide
  simp only [normalizeDevPath, hTrim, if_neg hNe, if_pos h]

@[simp] theorem normalizeDevPath_idem (path : Text) :
    normalizeDevPath (normalizeDevPath path) = normalizeDevPath path := by
  by_cases hNil : trim path = []
  · have hSame : normalizeDevPath path = [] := by simp only [normalizeDevPath, if_pos hNil]
    rw [hSame]
    rfl
  by_cases hDev : startsWith (trim path) devPrefix = true
  · have hSame : normalizeDevPath path = trim path := by
      simp only [normalizeDevPath, if_neg hNil, if_pos hDev]
    rw [hSame, normalizeDevPath_of_startsWith (trim_trim path) hDev]
  by_cases hTag : (startsWith (trim path) "UUID=".toList ||
      startsWith (trim path) "LABEL=".toList) = true
  · have hSame : normalizeDevPath path = trim path := by
      simp only [normalizeDevPath, if_neg hNil, if_neg hDev, if_pos hTag]
    rw [hSame]
    simp only [normalizeDevPath, trim_trim, if_neg hNil, if_neg hDev, if_pos hTag]
  · have hSame : normalizeDevPath path = devPrefix ++ (trim path).dropWhile (· = '/') := by
      simp only [normalizeDevPath, if_neg hNil, if_neg hDev, if_neg hTag]
    rw [hSame]
    apply normalizeDevPath_of_startsWith
    · apply trim_eq_self
      · intro c hc
        obtain rfl : '/' = c := Option.some.inj hc
        decide
      · intro c hc
        rw [List.getLast?_append, Option.mem_def] at hc
        rcases Option.or_eq_some_iff.mp hc with hRest | ⟨-, hSlash⟩
        · obtain ⟨slashes, hText⟩ := List.dropWhile_suffix (l := trim path) (· = '/')
          apply getLast?_trim path
          rw [← hText, List.getLast?_append, hRest]
          rfl
        · obtain rfl : '/' = c := Option.some.inj hSlash
          decide
    · exact startsWith_iff.mpr (List.prefix_append _ _)

namespace PathAliasIndex

/-- Each path of the index is normalised and the first of its own set. -/
def WellFormed (index : PathAliasIndex) : Prop :=
  ∀ entry ∈ index, entry.2.head? = some entry.1 ∧ normalizeDevPath entry.1 = entry.1

variable {index : PathAliasIndex} {key : Text}

theorem head?_foldl_addTo (paths values : List Text) {first : Text}
    (h : values.head? = some first) : (paths.foldl Esos.addTo values).head? = some first := by
  induction paths generalizing values with
  | nil => exact h
  | cons path paths ih =>
    apply ih
    rw [Esos.addTo]
    split
    · exact h
    · rw [List.head?_append, h]
      rfl

theorem WellFormed.ensureKey (h : index.WellFormed) (hKey : normalizeDevPath key = key) :
    (index.ensureKey key).WellFormed := by
  rw [PathAliasIndex.ensureKey]
  split
  · exact h
  · intro entry hEntry
    rcases List.mem_append.mp hEntry with hOld | hNew
    · exact h entry hOld
    · obtain rfl := List.mem_singleton.mp hNew
      exact ⟨rfl, hKey⟩

theorem WellFormed.addPaths (h : index.WellFormed) (key : Text) (paths : List Text) :
    (index.addPaths key paths).WellFormed := by
  intro entry hEntry
  obtain ⟨old, hOld, rfl⟩ := List.mem_map.mp hEntry
  split
  · exact ⟨head?_foldl_addTo paths old.2 (h old hOld).1, (h old hOld).2⟩
  · exact h old hOld

theorem WellFormed.add (h : index.WellFormed) (canonical spelling : Text) :
    (index.add canonical spelling).WellFormed := by
  simp only [PathAliasIndex.add]
  split
  · exact h
  · exact (((h.ensureKey (normalizeDevPath_idem _)).addPaths _ _).ensureKey
      (normalizeDevPath_idem _)).addPaths _ _

end PathAliasIndex

theorem wellFormed_buildPathAliasIndex (blockDevices : List BlockDevice) :
    (buildPathAliasIndex blockDevices).WellFormed := by
  have hAliases : ∀ (dev : BlockDevice) (spellings : List Text) (index : PathAliasIndex),
      index.WellFormed →
        (spellings.foldl (fun index spelling => index.add dev.path spelling) index).WellFormed := by
    intro dev spellings
    induction spellings with
    | nil => exact fun _ h => h
    | cons spelling spellings ih => exact fun index h => ih _ (h.add dev.path spelling)
  have hDevices : ∀ (devices : List BlockDevice) (index : PathAliasIndex), index.WellFormed →
      (devices.foldl (fun index dev =>
        dev.aliases.foldl (fun index spelling => index.add dev.path spelling) index)
          index).WellFormed := by
    intro devices
    induction devices with
    | nil => exact fun _ h => h
    | cons dev devices ih => exact fun index h => ih _ (hAliases dev dev.aliases index h)
  exact hDevices blockDevices [] nofun

theorem resolveCanonicalPath_of_lookup {index : PathAliasIndex} (hIndex : index.WellFormed)
    {path : Text} {aliases : List Text} (hPath : normalizeDevPath path = path)
    (h : index.lookup path = some aliases) : resolveCanonicalPath path index = path := by
  simp only [resolveCanonicalPath, hPath, h]
  rw [(hIndex _ (mem_of_lookup h)).1]
  rfl

theorem exists_lookup_of_mem {index : PathAliasIndex} {entry : Text × List Text}
    (h : entry ∈ index) : ∃ aliases, index.lookup entry.1 = some aliases := by
  induction index with
  | nil => cases h
  | cons first index ih =>
    obtain ⟨k, as⟩ := first
    rw [List.lookup_cons]
    split
    · exact ⟨as, rfl⟩
    next hOther =>
      rcases List.mem_cons.mp h with rfl | h
      · exact absurd (beq_self_eq_true _) (Bool.eq_false_iff.mp hOther)
      · exact ih h

theorem resolveCanonicalPath_idem {index : PathAliasIndex} (hIndex : index.WellFormed)
    (path : Text) :
    resolveCanonicalPath (resolveCanonicalPath path index) index =
      resolveCanonicalPath path index := by
  cases hLookup : index.lookup (normalizeDevPath path) with
  | some aliases =>
    have hSame : resolveCanonicalPath path index = normalizeDevPath path := by
      simp only [resolveCanonicalPath, hLookup]
      rw [(hIndex _ (mem_of_lookup hLookup)).1]
      rfl
    rw [hSame, resolveCanonicalPath_of_lookup hIndex (normalizeDevPath_idem path) hLookup]
  | none =>
    cases hFind : index.find? fun entry =>
        devPathBasename entry.1 = devPathBasename (normalizeDevPath path) ||
          entry.2.any (devPathBasename · = devPathBasename (normalizeDevPath path)) with
    | some entry =>
      have hSame : resolveCanonicalPath path index = entry.1 := by
        simp only [resolveCanonicalPath, hLookup, hFind]
        rfl
      have hMem : entry ∈ index := List.mem_of_find?_eq_some hFind
      obtain ⟨aliases, hEntry⟩ := exists_lookup_of_mem hMem
      rw [hSame, resolveCanonicalPath_of_lookup hIndex (hIndex entry hMem).2 hEntry]
    | none =>
      have hSame : resolveCanonicalPath path index = normalizeDevPath path := by
        simp only [resolveCanonicalPath, hLookup, hFind]
        rfl
      rw [hSame]
      simp only [resolveCanonicalPath, normalizeDevPath_idem, hLookup, hFind]
      rfl

open Raid.Inventory (BlockDevice)

namespace PathAliasIndex

variable {index : PathAliasIndex} {key k : Text}

def keys (index : PathAliasIndex) : List Text := index.map (·.1)

theorem mem_keys_ensureKey : k ∈ (index.ensureKey key).keys ↔ k ∈ index.keys ∨ k = key := by
  rw [ensureKey]
  split
  next hKey =>
    obtain ⟨aliases, hAliases⟩ := Option.isSome_iff_exists.mp hKey
    have hMem : key ∈ index.keys := List.mem_map_of_mem (mem_of_lookup hAliases)
    refine ⟨Or.inl, ?_⟩
    rintro (hOld | rfl)
    · exact hOld
    · exact hMem
  next => rw [keys, keys, List.map_append, List.mem_append, List.map_singleton, List.mem_singleton]

@[simp] theorem keys_addPaths (paths : List Text) :
    (index.addPaths key paths).keys = index.keys := by
  rw [keys, addPaths, List.map_map]
  apply List.map_congr_left
  intro entry _
  rw [Function.comp_apply]
  split <;> rfl

theorem mem_keys_add {canonical spelling : Text} :
    k ∈ (index.add canonical spelling).keys ↔
      k ∈ index.keys ∨ normalizeDevPath canonical ≠ [] ∧ normalizeDevPath spelling ≠ [] ∧
        (k = normalizeDevPath canonical ∨ k = normalizeDevPath spelling) := by
  simp only [add]
  split
  next hBlank =>
    refine ⟨Or.inl, ?_⟩
    rintro (hOld | ⟨hCanonical, hSpelling, -⟩)
    · exact hOld
    · exact absurd hBlank (not_or_intro hCanonical hSpelling)
  next hNamed =>
    obtain ⟨hCanonical, hSpelling⟩ := not_or.mp hNamed
    rw [keys_addPaths, mem_keys_ensureKey, keys_addPaths, mem_keys_ensureKey, or_assoc]
    simp [hCanonical, hSpelling]

end PathAliasIndex

/-- The paths and names that a device is known by, blank ones aside. -/
def spellings (dev : BlockDevice) : List Text :=
  dev.aliases.filter fun spelling => normalizeDevPath spelling ≠ []

section

variable {blockDevices : List BlockDevice} {dev : BlockDevice} {spelling key : Text}

theorem mem_keys_foldl_add (canonical : Text) (texts : List Text) (index : PathAliasIndex) :
    key ∈ (texts.foldl (fun index text => index.add canonical text) index).keys ↔
      key ∈ index.keys ∨ ∃ text ∈ texts, normalizeDevPath canonical ≠ [] ∧
        normalizeDevPath text ≠ [] ∧
          (key = normalizeDevPath canonical ∨ key = normalizeDevPath text) := by
  induction texts generalizing index with
  | nil => simp
  | cons text texts ih =>
    rw [List.foldl_cons, ih, PathAliasIndex.mem_keys_add, or_assoc]
    simp only [List.mem_cons, exists_eq_or_imp]

theorem mem_keys_of_spelling (hDev : dev ∈ blockDevices) (hPath : normalizeDevPath dev.path ≠ [])
    (hSpelling : spelling ∈ spellings dev) :
    normalizeDevPath spelling ∈ (buildPathAliasIndex blockDevices).keys := by
  obtain ⟨hAlias, hNamed⟩ := List.mem_filter.mp hSpelling
  have hKeep : ∀ (devices : List BlockDevice) (index : PathAliasIndex), ∀ k ∈ index.keys,
      k ∈ (devices.foldl (fun index dev =>
        dev.aliases.foldl (fun index text => index.add dev.path text) index) index).keys := by
    intro devices
    induction devices with
    | nil => exact fun _ _ hk => hk
    | cons first devices ih =>
      intro index k hk
      exact ih _ k ((mem_keys_foldl_add first.path first.aliases index).mpr (Or.inl hk))
  obtain ⟨before, after, rfl⟩ := List.append_of_mem hDev
  rw [buildPathAliasIndex, List.foldl_append, List.foldl_cons]
  apply hKeep
  exact (mem_keys_foldl_add _ _ _).mpr
    (Or.inr ⟨spelling, hAlias, hPath, of_decide_eq_true hNamed, Or.inr rfl⟩)

theorem resolveCanonicalPath_of_mem_keys {index : PathAliasIndex} (hIndex : index.WellFormed)
    (h : normalizeDevPath spelling ∈ index.keys) :
    resolveCanonicalPath spelling index = normalizeDevPath spelling := by
  obtain ⟨entry, hEntry, hKey⟩ := List.mem_map.mp h
  obtain ⟨aliases, hLookup⟩ := exists_lookup_of_mem hEntry
  rw [hKey] at hLookup
  simp only [resolveCanonicalPath, hLookup]
  rw [(hIndex _ (mem_of_lookup hLookup)).1]
  rfl

end

/-- Devices with paths of their own, none of which is known by a spelling of another. -/
structure SeparateDevices (blockDevices : List BlockDevice) : Prop where
  named : ∀ dev ∈ blockDevices, normalizeDevPath dev.path ≠ []
  paths : (blockDevices.map (·.path)).Nodup
  disjoint : blockDevices.Pairwise fun dev other => ∀ s ∈ spellings dev, s ∉ spellings other

structure ResolvesToDevices (blockDevices : List BlockDevice) : Prop where
  ownPath : ∀ dev ∈ blockDevices, ∀ s ∈ spellings dev,
    resolveCanonicalPath s (buildPathAliasIndex blockDevices) = dev.path
  sameDevice : ∀ dev ∈ blockDevices, ∀ other ∈ blockDevices,
    ∀ s ∈ spellings dev, ∀ t ∈ spellings other,
      (resolveCanonicalPath s (buildPathAliasIndex blockDevices) =
        resolveCanonicalPath t (buildPathAliasIndex blockDevices) ↔ dev = other)
  resolved : ∀ dev ∈ blockDevices, ∀ s ∈ spellings dev,
    resolveCanonicalPath (resolveCanonicalPath s (buildPathAliasIndex blockDevices))
        (buildPathAliasIndex blockDevices) =
      resolveCanonicalPath s (buildPathAliasIndex blockDevices)

/-- Only devices without a second spelling are resolved to themselves. -/
theorem resolvesToDevices_iff {blockDevices : List BlockDevice}
    (hDevices : SeparateDevices blockDevices) :
    ResolvesToDevices blockDevices ↔
      ∀ dev ∈ blockDevices, ∀ s ∈ spellings dev, normalizeDevPath s = dev.path := by
  have hSelf : ∀ dev ∈ blockDevices, ∀ s ∈ spellings dev,
      resolveCanonicalPath s (buildPathAliasIndex blockDevices) = normalizeDevPath s :=
    fun dev hDev s hs => resolveCanonicalPath_of_mem_keys (wellFormed_buildPathAliasIndex _)
      (mem_keys_of_spelling hDev (hDevices.named dev hDev) hs)
  constructor
  · intro h dev hDev s hs
    rw [← hSelf dev hDev s hs, h.ownPath dev hDev s hs]
  · intro h
    refine ⟨fun dev hDev s hs => (hSelf dev hDev s hs).trans (h dev hDev s hs), ?_, ?_⟩
    · intro dev hDev other hOther s hs t ht
      rw [hSelf dev hDev s hs, hSelf other hOther t ht, h dev hDev s hs, h other hOther t ht]
      constructor
      · exact fun hPath => List.inj_on_of_nodup_map hDevices.paths hDev hOther hPath
      · exact fun hSame => congrArg (·.path) hSame
    · exact fun dev _ s _ => resolveCanonicalPath_idem (wellFormed_buildPathAliasIndex _) s

def diskSda (byIdPaths : List Text) : BlockDevice where
  path := "/dev/sda".toList
  name := "sda".toList
  type := .disk
  byIdPaths := some byIdPaths

theorem separateDevices_diskSda (byIdPaths : List Text) : SeparateDevices [diskSda byIdPaths] where
  named := by
    intro dev hDev
    rw [List.mem_singleton.mp hDev]
    show normalizeDevPath "/dev/sda".toList ≠ []
    decide
  paths := List.nodup_singleton _
  disjoint := List.pairwise_singleton _ _

theorem resolvesToDevices_diskSda : ResolvesToDevices [diskSda []] := by
  refine (resolvesToDevices_iff (separateDevices_diskSda [])).mpr ?_
  intro dev hDev s hs
  rw [List.mem_singleton.mp hDev] at hs ⊢
  have hAll : (spellings (diskSda [])).all (normalizeDevPath · = (diskSda []).path) = true := by
    decide
  exact of_decide_eq_true (List.all_eq_true.mp hAll s hs)

/-- The link to a disk is resolved to the link. -/
theorem link_not_resolved :
    ¬ ∀ blockDevices, SeparateDevices blockDevices → ResolvesToDevices blockDevices := by
  intro hAll
  have hOwn := (hAll _ (separateDevices_diskSda ["/dev/disk/by-id/wwn-0x5".toList])).ownPath _
    (List.mem_singleton_self _) "/dev/disk/by-id/wwn-0x5".toList (by decide)
  revert hOwn
  decide

end EsosWebui.Fs
