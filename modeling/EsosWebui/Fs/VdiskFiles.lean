import EsosWebui.Fs.FileioConflicts

/-! The files on the mounts, which of them are used by devices, and the checks before one of them is
deleted or a mount is taken away. -/
namespace EsosWebui.Fs

open Js
open Esos (ProtectionSnapshot isFilePathEsosProtected isMountPointEsosProtected
  isEsosProtectionDetectionFailed)

structure VdiskEntry extends VDiskFile where
  mountPoint : Text

structure FileOverview extends FsOverview where
  vdiskFiles : List VdiskEntry := []

/-- What the scanners have found; `scanned` are the paths that `find` prints. -/
structure VdiskSources where
  mounts : List FileSystemMount := []
  vdiskMountRoots : List Text := []
  pathToDevices : List (Text × List Text) := []
  lunDeviceNames : List Text := []
  fileioDevices : List FileioDeviceRef := []
  scanned : List Text := []

def longestMountPrefix (path : Text) (mounts : List FileSystemMount) : Text :=
  mounts.foldl (fun best m =>
    if startsWith path (m.mountPoint ++ ['/']) && utf16Length best < utf16Length m.mountPoint then
      m.mountPoint
    else best) []

namespace VdiskSources

variable (s : VdiskSources)

def namesFor (path : Text) (fileioDeviceName : Option Text) : List Text :=
  let names := (s.pathToDevices.lookup path).getD []
  match fileioDeviceName.filter (· ≠ []) with
  | some name => if names.contains name then names else names ++ [name]
  | none => names

def entryOf (found : Text × Option Text) : VdiskEntry :=
  let names := s.namesFor found.1 found.2
  { path := found.1
    mountPoint := orElseText (longestMountPrefix found.1 s.mounts)
      (orElseText (s.vdiskMountRoots.headD []) ['/'])
    scstDeviceNames := names
    mapped := names ≠ [] || names.any s.lunDeviceNames.contains
    fileioDeviceName := found.2 }

def add (files : List VdiskEntry) (found : Text × Option Text) : List VdiskEntry :=
  if found.1 = [] ∨ files.any (·.path = found.1) then files else files ++ [s.entryOf found]

/-- The files of the devices, the paths of the devices in use, and what is scanned. -/
def found : List (Text × Option Text) :=
  s.fileioDevices.map (fun d => (d.filename, some d.name)) ++
    (((s.pathToDevices.map (·.1)).filter (startsWith · ['/'])) ++ s.scanned).map (·, none)

def buildVdiskInventory : List VdiskEntry := s.found.foldl s.add []

end VdiskSources

def esosProtectedFileBlocker (filePath : Text) : Text :=
  "Fichier protégé (volume système ESOS) : ".toList ++ filePath

def preflightDeleteVdisk (overview : FileOverview) (path : Text) : FsPreflightResult :=
  let blockers := esosBlockers overview.toFsOverview ++
    (if overview.systemProtection.isSome &&
        isFilePathEsosProtected path overview.systemProtection then
      [esosProtectedFileBlocker path]
    else []) ++
    match overview.vdiskFiles.find? (·.path = path) with
    | none => ["Fichier introuvable".toList]
    | some vdisk =>
      if vdisk.mapped then ["Utilisé par SCST — supprimer le device d'abord".toList] else []
  { ok := blockers = []
    commands := ["rm -f ".toList ++ path]
    blockers
    requiredConfirmation := some ("DELETE_VDISK ".toList ++ path) }

def preflightUnmount (overview : FileOverview) (mountPoint : Text) : FsPreflightResult :=
  let vdisks := overview.vdiskFiles.filter (·.mountPoint = mountPoint)
  let blockers := esosBlockers overview.toFsOverview ++
    (if overview.systemProtection.isSome &&
        isMountPointEsosProtected mountPoint overview.systemProtection then
      [esosProtectedMountBlocker mountPoint]
    else []) ++
    (if overview.mounts.any (·.mountPoint = mountPoint) then []
      else ["Montage introuvable".toList]) ++
    (if vdisks = [] then [] else ["Fichiers vdisk présents sous ce montage".toList]) ++
    (if vdisks.any (·.mapped) then ["VDisk mappés SCST".toList] else [])
  { ok := blockers = []
    commands := ["umount ".toList ++ mountPoint]
    blockers
    requiredConfirmation := some ("UNMOUNT ".toList ++ mountPoint) }

/-- A device has the file, in the configuration or live. -/
def VdiskSources.Uses (s : VdiskSources) (path : Text) : Prop :=
  (∃ d ∈ s.fileioDevices, d.filename = path) ∨ (s.pathToDevices.lookup path).getD [] ≠ []

/-- The detection has worked, if there is a snapshot, and what is asked about is not protected. -/
def FileOverview.Unprotected (overview : FileOverview)
    (isProtected : Option ProtectionSnapshot → Bool) : Prop :=
  ∀ snapshot, overview.systemProtection = some snapshot →
    isEsosProtectionDetectionFailed snapshot = false ∧ isProtected (some snapshot) = false

section

variable {s : VdiskSources} {path : Text}

theorem find?_foldl_add (found : List (Text × Option Text)) (files : List VdiskEntry) :
    (found.foldl s.add files).find? (·.path = path) = (files.find? (·.path = path)).or
      (if path = [] then none else (found.find? (·.1 = path)).map s.entryOf) := by
  induction found generalizing files with
  | nil => simp
  | cons e found ih =>
    rw [List.foldl_cons, ih, VdiskSources.add]
    by_cases hSame : e.1 = path
    · subst hSame
      by_cases hEmpty : e.1 = []
      · simp [hEmpty]
      · by_cases hKnown : files.any (·.path = e.1)
        · obtain ⟨v, hFound⟩ : ∃ v, files.find? (·.path = e.1) = some v := by
            simpa [← Option.isSome_iff_exists, List.find?_isSome] using hKnown
          simp [hKnown, hFound]
        · have hNone : files.find? (·.path = e.1) = none := by
            simpa [List.find?_eq_none] using hKnown
          simp [hKnown, hEmpty, List.find?_append, hNone, VdiskSources.entryOf]
    · split <;> simp [List.find?_append, hSame, VdiskSources.entryOf]

theorem mapped_entryOf_iff {e : Text × Option Text}
    (hNames : ∀ d ∈ s.fileioDevices, d.name ≠ [])
    (h : s.found.find? (·.1 = path) = some e) : (s.entryOf e).mapped = true ↔ s.Uses path := by
  have hPath : e.1 = path := by simpa using List.find?_some h
  have hMapped : (s.entryOf e).mapped = true ↔ s.namesFor path e.2 ≠ [] := by
    rw [VdiskSources.entryOf, hPath]
    cases s.namesFor path e.2 <;> simp
  rw [hMapped, VdiskSources.Uses, VdiskSources.namesFor]
  rw [VdiskSources.found, List.find?_append, Option.or_eq_some_iff] at h
  rcases h with hDevice | ⟨hNone, hOther⟩
  · obtain ⟨d, hd, rfl⟩ := List.mem_map.mp (List.mem_of_find?_eq_some hDevice)
    have hUsed : ∃ d ∈ s.fileioDevices, d.filename = path := ⟨d, hd, hPath⟩
    have hName := hNames d hd
    simp only [hUsed, true_or, iff_true, Option.filter_some, hName, ne_eq, not_false_eq_true,
      decide_true, if_true]
    split
    · rename_i hIn
      exact List.ne_nil_of_mem (List.contains_iff_mem.mp hIn)
    · simp
  · obtain ⟨p, -, rfl⟩ := List.mem_map.mp (List.mem_of_find?_eq_some hOther)
    have hUnused : ¬ ∃ d ∈ s.fileioDevices, d.filename = path := by
      simpa using hNone
    simp [hUnused]

theorem blockers_eq_nil_iff {overview : FileOverview} {protects : Option ProtectionSnapshot → Bool}
    {blocker : Text} :
    esosBlockers overview.toFsOverview ++
      (if overview.systemProtection.isSome && protects overview.systemProtection then [blocker]
       else []) = [] ↔ overview.Unprotected protects := by
  unfold esosBlockers FileOverview.Unprotected
  cases overview.systemProtection with
  | none => simp
  | some snapshot =>
    cases hFailed : isEsosProtectionDetectionFailed snapshot <;>
      cases hProtects : protects (some snapshot) <;> simp [hFailed, hProtects]

/-- A file is deleted exactly if it is in the inventory, no device has it, and the protection, if it
is known, has worked and leaves the file out. -/
theorem delete_ok_iff (s : VdiskSources) (hNames : ∀ d ∈ s.fileioDevices, d.name ≠ [])
    {overview : FileOverview} (hFiles : overview.vdiskFiles = s.buildVdiskInventory) (path : Text) :
    (preflightDeleteVdisk overview path).ok = true ↔
      path ≠ [] ∧ path ∈ s.found.map (·.1) ∧ ¬ s.Uses path ∧
        overview.Unprotected (isFilePathEsosProtected path) := by
  rw [preflightDeleteVdisk, hFiles, VdiskSources.buildVdiskInventory]
  dsimp only
  rw [decide_eq_true_iff, List.append_eq_nil_iff, blockers_eq_nil_iff, find?_foldl_add]
  by_cases hPath : path = []
  · rw [if_pos hPath]
    exact iff_of_false (fun h => List.cons_ne_nil _ _ h.2) fun h => h.1 hPath
  · rw [if_neg hPath]
    cases hFound : s.found.find? (·.1 = path) with
    | none =>
      refine iff_of_false (fun h => List.cons_ne_nil _ _ h.2) fun h => ?_
      obtain ⟨e, he, hIs⟩ := List.mem_map.mp h.2.1
      exact List.find?_eq_none.mp hFound e he (decide_eq_true hIs)
    | some e =>
      have hKnown : path ∈ s.found.map (·.1) :=
        List.mem_map.mpr
          ⟨e, List.mem_of_find?_eq_some hFound, by simpa using List.find?_some hFound⟩
      have hMapped := mapped_entryOf_iff hNames hFound
      by_cases hUses : s.Uses path
      · refine iff_of_false (fun h => ?_) fun h => h.2.2.1 hUses
        exact List.cons_ne_nil _ _ ((if_pos (hMapped.mpr hUses)).symm.trans h.2)
      · exact ⟨fun h => ⟨hPath, hKnown, hUses, h.1⟩,
          fun h => ⟨h.2.2.2, if_neg (mt hMapped.mp hUses)⟩⟩

/-- A mount is taken away only if it is known, the protection leaves it out, and no file that is
known lies on it. -/
theorem unmount_spares_files (s : VdiskSources) {overview : FileOverview}
    (hFiles : overview.vdiskFiles = s.buildVdiskInventory) {mountPoint : Text}
    (h : (preflightUnmount overview mountPoint).ok = true) :
    (∃ m ∈ overview.mounts, m.mountPoint = mountPoint) ∧
      overview.Unprotected (isMountPointEsosProtected mountPoint) ∧
      ∀ found ∈ s.found, found.1 ≠ [] → (s.entryOf found).mountPoint ≠ mountPoint := by
  rw [preflightUnmount, hFiles, VdiskSources.buildVdiskInventory] at h
  dsimp only at h
  rw [decide_eq_true_iff, List.append_eq_nil_iff, List.append_eq_nil_iff, List.append_eq_nil_iff,
    blockers_eq_nil_iff] at h
  obtain ⟨⟨⟨hProtection, hMount⟩, hNone⟩, -⟩ := h
  refine ⟨?_, hProtection, fun found hFound hPath hHere => ?_⟩
  · by_contra hUnknown
    rw [if_neg (by simpa using hUnknown)] at hMount
    cases hMount
  · obtain ⟨first, hFirst⟩ : ∃ first, s.found.find? (·.1 = found.1) = some first := by
      rw [← Option.isSome_iff_exists, List.find?_isSome]
      exact ⟨found, hFound, decide_eq_true rfl⟩
    have hEntry : (s.found.foldl s.add []).find? (·.path = found.1) = _ :=
      find?_foldl_add s.found []
    rw [if_neg hPath, hFirst] at hEntry
    have hSame : first.1 = found.1 := by simpa using List.find?_some hFirst
    have hIn : s.entryOf first ∈ (s.found.foldl s.add []).filter (·.mountPoint = mountPoint) := by
      refine List.mem_filter.mpr ⟨List.mem_of_find?_eq_some hEntry, decide_eq_true ?_⟩
      rw [← hHere, VdiskSources.entryOf, VdiskSources.entryOf, hSame]
    rw [if_neg (List.ne_nil_of_mem hIn)] at hNone
    cases hNone

end

def usedFileSources : VdiskSources where
  mounts := [⟨"/mnt/vdisks/a".toList, true⟩]
  fileioDevices := [{ name := "d".toList, filename := "/mnt/vdisks/a/x".toList }]
  scanned := ["/mnt/vdisks/a/x".toList, "/mnt/vdisks/a/y".toList]

def usedFileOverview : FileOverview where
  mounts := [⟨"/mnt/empty".toList, true⟩]
  vdiskFiles := usedFileSources.buildVdiskInventory

theorem delete_ok_iff_usedFile :
    (preflightDeleteVdisk usedFileOverview "/mnt/vdisks/a/y".toList).ok = true ∧
      ¬ (preflightDeleteVdisk usedFileOverview "/mnt/vdisks/a/x".toList).ok = true :=
  have hNames : ∀ d ∈ usedFileSources.fileioDevices, d.name ≠ [] := by decide
  ⟨(delete_ok_iff usedFileSources hNames rfl _).mpr (by
      refine ⟨by decide, by decide, ?_, nofun⟩
      simp [VdiskSources.Uses, usedFileSources]),
    fun h => ((delete_ok_iff usedFileSources hNames rfl _).mp h).2.2.1
      (Or.inl ⟨_, List.mem_cons_self, rfl⟩)⟩

theorem unmount_spares_files_empty :
    (usedFileSources.entryOf ("/mnt/vdisks/a/y".toList, none)).mountPoint ≠ "/mnt/empty".toList :=
  (@unmount_spares_files usedFileSources usedFileOverview rfl _ (by decide)).2.2 _ (by decide)
    (by decide)

end EsosWebui.Fs
