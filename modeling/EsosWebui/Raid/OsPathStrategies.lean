import EsosWebui.Js.Arrays
import EsosWebui.Raid.OsPaths
import EsosWebui.Turns.Passes

/-! What the identifiers, sizes and mounts give a drive, and what of it remains when more paths are
used. -/
namespace EsosWebui.Raid.OsPaths

open Js
open Inventory (BlockDevice LogicalDrive normalizeOsPath)

variable {lang : Language} {ctx : Context}

def idHit (lang : Language) (ld : LogicalDrive) (dev : BlockDevice) : Option Hit :=
  if sizeMatch lang ld.sizeBytes (some dev.sizeBytes) then
    (idMatch lang ld dev).map fun method => ⟨dev.path, method, .high, none⟩
  else none

theorem scanPool_eq (ld : LogicalDrive) (pool : List BlockDevice) :
    (scanPool lang ld pool).2 = pool.findSome? (idHit lang ld) := by
  induction pool with
  | nil => rfl
  | cons dev pool ih =>
    unfold scanPool
    rw [List.findSome?_cons, idHit]
    cases sizeMatch lang ld.sizeBytes (some dev.sizeBytes) with
    | false => exact ih
    | true =>
      cases hId : idMatch lang ld dev with
      | none => exact ih
      | some method => cases method <;> rfl

variable {dev : BlockDevice}

theorem path_of_idHit {ld : LogicalDrive} {hit : Hit} (h : idHit lang ld dev = some hit) :
    hit.path = dev.path := by
  unfold idHit at h
  split at h
  · obtain ⟨method, -, rfl⟩ := Option.map_eq_some_iff.mp h
    rfl
  · cases h

theorem idMatch_ne_order (ld : LogicalDrive) (dev : BlockDevice) :
    idMatch lang ld dev ≠ some .order := by
  unfold idMatch
  dsimp only
  split
  · simp
  · split <;> simp

theorem method_of_idHit {ld : LogicalDrive} {hit : Hit} (h : idHit lang ld dev = some hit) :
    hit.method ≠ .order := by
  unfold idHit at h
  split at h
  · obtain ⟨method, hMethod, rfl⟩ := Option.map_eq_some_iff.mp h
    rintro rfl
    exact idMatch_ne_order ld dev hMethod
  · cases h

def sizeHit (lang : Language) (ld : LogicalDrive) (pool : List BlockDevice) : Option Hit :=
  match pool.filter fun dev => sizeMatch lang ld.sizeBytes (some dev.sizeBytes) with
  | [dev] => some ⟨dev.path, .sizeVendor, .medium, none⟩
  | _ => none

theorem sizeHit_eq_some {ld : LogicalDrive} {pool : List BlockDevice} {hit : Hit} :
    sizeHit lang ld pool = some hit ↔ ∃ dev,
      pool.filter (fun dev => sizeMatch lang ld.sizeBytes (some dev.sizeBytes)) = [dev] ∧
        hit = ⟨dev.path, .sizeVendor, .medium, none⟩ := by
  unfold sizeHit
  split
  · rename_i dev hOne
    simp [hOne, eq_comm]
  · rename_i hNot
    simp only [reduceCtorEq, false_iff]
    rintro ⟨dev, hOne, -⟩
    exact hNot dev hOne

theorem matchFromBlockDevices_eq (ld : LogicalDrive) (used : List Text) :
    matchFromBlockDevices lang ctx ld used =
      ((blockPool lang ctx used).findSome? (idHit lang ld)).or
        (sizeHit lang ld (blockPool lang ctx used)) := by
  unfold matchFromBlockDevices
  dsimp only
  rw [scanPool_eq]
  rfl

/-- The path of an exposed disk is that of its name. -/
def NamedByPath (lang : Language) (ctx : Context) : Prop :=
  ∀ dev ∈ ctx.blockDevices, isRaidExposedDisk lang dev = true →
    "/dev/".toList ++ dev.name = dev.path

section

variable {ld : LogicalDrive} {used : List Text} {m : FileSystemMount} {hit : Hit}

theorem mountHit_eq_some : mountHit lang ctx ld used m = some hit ↔ m.mounted = true ∧
    ∃ path dev, normalizeOsPath (some (m.linkedBackendPath.getD m.backingDevice)) = some path ∧
      path ∉ used ∧ deviceNamed ctx path = some dev ∧
      isRaidExposedDisk lang dev = true ∧ sizeMatch lang ld.sizeBytes (some dev.sizeBytes) = true ∧
        hit = ⟨dev.path, .mountBacking, .medium, none⟩ := by
  unfold mountHit
  cases m.mounted with
  | false => simp
  | true =>
    cases normalizeOsPath (some (m.linkedBackendPath.getD m.backingDevice)) with
    | none => simp
    | some path =>
      by_cases hUsed : path ∈ used
      · simp [hUsed]
      · cases hFind : deviceNamed ctx path with
        | none => simp [hUsed, hFind]
        | some dev =>
          simp only [hUsed, hFind, Bool.not_true, Bool.false_eq_true, if_false,
            List.contains_iff_mem, Option.some.injEq, true_and, Bool.and_eq_true]
          rw [Option.ite_none_right_eq_some, and_assoc, Option.some.injEq]
          constructor
          · rintro ⟨hDisk, hSize, hHit⟩
            exact ⟨path, dev, rfl, hUsed, hFind, hDisk, hSize, hHit.symm⟩
          · rintro ⟨_, _, rfl, -, hFound, hDisk, hSize, rfl⟩
            cases hFind.symm.trans hFound
            exact ⟨hDisk, hSize, rfl⟩

theorem path_of_mount (hNamed : NamedByPath lang ctx) {path : Text}
    (hFind : deviceNamed ctx path = some dev) (hDisk : isRaidExposedDisk lang dev) :
    dev.path = path := by
  have hNames := List.find?_some hFind
  rw [Bool.or_eq_true, decide_eq_true_eq, decide_eq_true_eq] at hNames
  rcases hNames with hPath | hName
  · exact hPath
  · rw [← hNamed dev (List.mem_of_find?_eq_some hFind) hDisk]
    exact hName

end

variable {candidates : List KernelCandidate}

theorem mem_of_best {b : KernelCandidate} (h : best candidates = some b) : b ∈ candidates := by
  induction candidates generalizing b with
  | nil => cases h
  | cons c candidates ih =>
    unfold best at h
    split at h
    · rename_i b' hBest
      split at h
      · cases h
        exact List.mem_cons_of_mem _ (ih hBest)
      · cases h
        exact List.mem_cons_self
    · cases h
      exact List.mem_cons_self

section

variable {used used' : List Text} {ld : LogicalDrive}

def unused (used : List Text) (hit : Hit) : Bool := !used.contains hit.path

theorem cliHit_narrowed (hSub : used ⊆ used') :
    cliHit ld used' = (cliHit ld used).filter (unused used') := by
  unfold cliHit
  cases cliOsPath ld with
  | none => rfl
  | some path =>
    by_cases hUsed : path ∈ used
    · simp [Option.filter, hUsed, hSub hUsed]
    · by_cases hNew : path ∈ used' <;> simp [Option.filter, unused, hUsed, hNew]

theorem kernelCandidates_narrowed (hSub : used ⊆ used') : kernelCandidates lang ctx ld used' =
    (kernelCandidates lang ctx ld used).filter fun c => !used'.contains c.path := by
  unfold kernelCandidates
  rw [List.filter_filterMap]
  apply List.filterMap_congr
  intro k _
  cases normalizeOsPath k.devicePath with
  | none => rfl
  | some path =>
    by_cases hUsed : path ∈ used
    · simp [hUsed, hSub hUsed]
    · by_cases hNew : path ∈ used' <;>
        cases hScore : kernelScore lang ctx ld k path <;>
          simp [hUsed, hNew, hScore, Option.filter]

theorem blockPool_narrowed (hSub : used ⊆ used') : blockPool lang ctx used' =
    (blockPool lang ctx used).filter fun dev => !used'.contains dev.path := by
  unfold blockPool
  rw [List.filter_filter]
  apply List.filter_congr
  intro dev _
  by_cases hUsed : dev.path ∈ used
  · simp [hUsed, hSub hUsed]
  · simp [hUsed, Bool.and_comm]

theorem mountHit_narrowed (hNamed : NamedByPath lang ctx) (hSub : used ⊆ used')
    (m : FileSystemMount) :
    mountHit lang ctx ld used' m = (mountHit lang ctx ld used m).filter (unused used') := by
  apply Option.ext
  intro hit
  rw [Option.filter_eq_some_iff, mountHit_eq_some, mountHit_eq_some]
  constructor
  · rintro ⟨hMounted, path, dev, hPath, hNew, hFind, hDisk, hSize, rfl⟩
    refine ⟨⟨hMounted, path, dev, hPath, fun hUsed => hNew (hSub hUsed), hFind, hDisk, hSize, rfl⟩,
      ?_⟩
    rw [unused, path_of_mount hNamed hFind hDisk]
    simpa using hNew
  · rintro ⟨⟨hMounted, path, dev, hPath, -, hFind, hDisk, hSize, rfl⟩, hUnused⟩
    rw [unused, path_of_mount hNamed hFind hDisk] at hUnused
    exact ⟨hMounted, path, dev, hPath, by simpa using hUnused, hFind, hDisk, hSize, rfl⟩

theorem best_eq_none : best candidates = none ↔ candidates = [] := by
  cases candidates with
  | nil => simp [best]
  | cons c candidates =>
    unfold best
    split
    · split <;> simp
    · simp

theorem score_le_of_best {b c : KernelCandidate} (h : best candidates = some b)
    (hc : c ∈ candidates) : c.score ≤ b.score := by
  induction candidates generalizing b with
  | nil => cases hc
  | cons first candidates ih =>
    unfold best at h
    split at h
    · rename_i b' hBest
      have hRest (hIn : c ∈ candidates) : c.score ≤ b'.score := ih hBest hIn
      split at h
      · rename_i hLess
        cases h
        rcases List.mem_cons.mp hc with rfl | hIn
        · exact Nat.le_of_lt hLess
        · exact hRest hIn
      · rename_i hNot
        cases h
        rcases List.mem_cons.mp hc with rfl | hIn
        · exact Nat.le_refl _
        · exact (hRest hIn).trans (Nat.le_of_not_lt hNot)
    · rename_i hNone
      cases h
      rw [best_eq_none.mp hNone, List.mem_singleton] at hc
      exact hc ▸ Nat.le_refl _

theorem best_filter {b : KernelCandidate} {p : KernelCandidate → Bool}
    (h : best candidates = some b) (hKept : p b) : best (candidates.filter p) = some b := by
  induction candidates with
  | nil => cases h
  | cons c candidates ih =>
    have hCons : best (c :: candidates) = some b := h
    unfold best at h
    split at h
    · rename_i b' hBest
      split at h
      · rename_i hLess
        cases h
        cases hFirst : p c with
        | false =>
          rw [List.filter_cons_of_neg (by simp [hFirst])]
          exact ih hBest
        | true =>
          rw [List.filter_cons_of_pos hFirst, best, ih hBest]
          exact if_pos hLess
      · cases h
        rw [List.filter_cons_of_pos hKept, best]
        cases hRest : best (candidates.filter p) with
        | none => rfl
        | some b'' =>
          have hIn := (List.mem_filter.mp (mem_of_best hRest)).1
          have hLe := score_le_of_best hCons (List.mem_cons_of_mem _ hIn)
          exact if_neg (Nat.not_lt.mpr hLe)
    · rename_i hNone
      cases h
      rw [best_eq_none.mp hNone, List.filter_cons_of_pos hKept]
      rfl

end

variable {used used' : List Text} {ld : LogicalDrive} {hit : Hit}

theorem cliHit_kept (h : cliHit ld used = some hit) (hSub : used ⊆ used')
    (hNew : unused used' hit) : cliHit ld used' = some hit := by
  rw [cliHit_narrowed hSub, h]
  simp [Option.filter, hNew]

theorem cliHit_none (h : cliHit ld used = none) (hSub : used ⊆ used') :
    cliHit ld used' = none := by
  rw [cliHit_narrowed hSub, h]
  rfl

theorem matchFromKernel_kept (h : matchFromKernel lang ctx ld used = some hit)
    (hSub : used ⊆ used') (hNew : unused used' hit) :
    matchFromKernel lang ctx ld used' = some hit := by
  obtain ⟨b, hBest, rfl⟩ := Option.map_eq_some_iff.mp h
  unfold matchFromKernel
  rw [kernelCandidates_narrowed hSub, best_filter hBest hNew]
  rfl

theorem matchFromKernel_none (h : matchFromKernel lang ctx ld used = none)
    (hSub : used ⊆ used') : matchFromKernel lang ctx ld used' = none := by
  have hNone := best_eq_none.mp (Option.map_eq_none_iff.mp h)
  unfold matchFromKernel
  rw [kernelCandidates_narrowed hSub, hNone]
  rfl

theorem sizeHit_narrowed {pool : List BlockDevice} {p : BlockDevice → Bool}
    (hOne : pool.filter (fun dev => sizeMatch lang ld.sizeBytes (some dev.sizeBytes)) = [dev])
    (hKept : p dev) :
    (pool.filter p).filter (fun dev => sizeMatch lang ld.sizeBytes (some dev.sizeBytes)) =
      [dev] := by
  rw [List.filter_comm, hOne, List.filter_cons_of_pos hKept]
  rfl

theorem matchFromBlockDevices_kept (h : matchFromBlockDevices lang ctx ld used = some hit)
    (hSub : used ⊆ used') (hNew : unused used' hit) :
    matchFromBlockDevices lang ctx ld used' = some hit := by
  rw [matchFromBlockDevices_eq] at h ⊢
  rw [blockPool_narrowed hSub]
  rcases Option.or_eq_some_iff.mp h with hScan | ⟨hScan, hSize⟩
  · rw [findSome?_filter hScan fun dev hDev => ?_, Option.some_or]
    rw [← path_of_idHit hDev]
    exact hNew
  · obtain ⟨dev, hOne, rfl⟩ := sizeHit_eq_some.mp hSize
    rw [findSome?_filter_eq_none hScan, Option.none_or]
    exact sizeHit_eq_some.mpr ⟨dev, sizeHit_narrowed hOne hNew, rfl⟩

theorem path_of_block_of_mount (h : matchFromBlockDevices lang ctx ld used = none)
    (hMount : matchFromMounts lang ctx ld used = some hit) (hSub : used ⊆ used')
    (hNew : unused used' hit) {hit' : Hit}
    (hBlock : matchFromBlockDevices lang ctx ld used' = some hit') : hit'.path = hit.path := by
  rw [matchFromBlockDevices_eq] at h hBlock
  obtain ⟨hScan, -⟩ := Option.or_eq_none_iff.mp h
  rw [blockPool_narrowed hSub, findSome?_filter_eq_none hScan, Option.none_or,
    ← blockPool_narrowed hSub] at hBlock
  obtain ⟨only, hOne, rfl⟩ := sizeHit_eq_some.mp hBlock
  obtain ⟨m, -, hHit⟩ := List.exists_of_findSome?_eq_some hMount
  obtain ⟨-, path, dev, -, -, hFind, hDisk, hSize, rfl⟩ := mountHit_eq_some.mp hHit
  have hPool : dev ∈ blockPool lang ctx used' := by
    refine List.mem_filter.mpr ⟨List.mem_of_find?_eq_some hFind, ?_⟩
    rw [hDisk, Bool.true_and]
    exact hNew
  have hOnly : dev ∈ [only] := hOne ▸ List.mem_filter.mpr ⟨hPool, hSize⟩
  rw [List.mem_singleton.mp hOnly]

theorem matchFromMounts_kept (h : matchFromMounts lang ctx ld used = some hit)
    (hSub : used ⊆ used') (hNamed : NamedByPath lang ctx) (hNew : unused used' hit) :
    matchFromMounts lang ctx ld used' = some hit := by
  unfold matchFromMounts at h ⊢
  rw [funext (mountHit_narrowed hNamed hSub)]
  exact findSome?_narrowed h hNew

theorem strategies_cases (h : strategies lang ctx used ld = some hit) :
    cliHit ld used = some hit ∨ matchFromKernel lang ctx ld used = some hit ∨
      matchFromBlockDevices lang ctx ld used = some hit ∨
        matchFromMounts lang ctx ld used = some hit := by
  rcases Option.or_eq_some_iff.mp h with hCli | ⟨-, h⟩
  · exact Or.inl hCli
  · rcases Option.or_eq_some_iff.mp h with hKernel | ⟨-, h⟩
    · exact Or.inr (Or.inl hKernel)
    · rcases Option.or_eq_some_iff.mp h with hBlock | ⟨-, hMount⟩
      · exact Or.inr (Or.inr (Or.inl hBlock))
      · exact Or.inr (Or.inr (Or.inr hMount))

theorem path_notMem_of_kernelCandidates {c : KernelCandidate}
    (h : c ∈ kernelCandidates lang ctx ld used) : c.path ∉ used := by
  obtain ⟨k, -, hCandidate⟩ := List.mem_filterMap.mp h
  split at hCandidate
  · split at hCandidate
    · cases hCandidate
    · rename_i hUsed
      obtain ⟨score, -, rfl⟩ := Option.map_eq_some_iff.mp hCandidate
      simpa using hUsed
  · cases hCandidate

theorem path_notMem_of_blockPool (h : dev ∈ blockPool lang ctx used) : dev.path ∉ used := by
  have hBoth := (List.mem_filter.mp h).2
  rw [Bool.and_eq_true] at hBoth
  simpa using hBoth.2

theorem mem_blockPool_of_hit (h : matchFromBlockDevices lang ctx ld used = some hit) :
    ∃ dev ∈ blockPool lang ctx used, hit.path = dev.path := by
  rw [matchFromBlockDevices_eq] at h
  rcases Option.or_eq_some_iff.mp h with hScan | ⟨-, hSize⟩
  · obtain ⟨dev, hDev, hHit⟩ := List.exists_of_findSome?_eq_some hScan
    exact ⟨dev, hDev, path_of_idHit hHit⟩
  · obtain ⟨dev, hOne, rfl⟩ := sizeHit_eq_some.mp hSize
    have hDev : dev ∈ (blockPool lang ctx used).filter fun dev =>
        sizeMatch lang ld.sizeBytes (some dev.sizeBytes) := hOne ▸ List.mem_singleton_self dev
    exact ⟨dev, (List.mem_filter.mp hDev).1, rfl⟩

theorem path_notMem_of_strategies (hNamed : NamedByPath lang ctx)
    (h : strategies lang ctx used ld = some hit) : hit.path ∉ used := by
  rcases strategies_cases h with hCli | hKernel | hBlock | hMount
  · obtain ⟨path, hPath, rfl⟩ := Option.map_eq_some_iff.mp hCli
    have hFree := (Option.filter_eq_some_iff.mp hPath).2
    simpa using hFree
  · obtain ⟨b, hBest, rfl⟩ := Option.map_eq_some_iff.mp hKernel
    exact path_notMem_of_kernelCandidates (mem_of_best hBest)
  · obtain ⟨dev, hDev, hPath⟩ := mem_blockPool_of_hit hBlock
    exact hPath ▸ path_notMem_of_blockPool hDev
  · obtain ⟨m, -, hHit⟩ := List.exists_of_findSome?_eq_some hMount
    obtain ⟨-, path, dev, -, hFree, hFind, hDisk, -, rfl⟩ := mountHit_eq_some.mp hHit
    exact path_of_mount hNamed hFind hDisk ▸ hFree

theorem stable_strategies (hNamed : NamedByPath lang ctx) :
    Turns.Stable Hit.path (strategies lang ctx) where
  fresh := path_notMem_of_strategies hNamed
  keeps {used used' ld hit} h hSub hNew := by
    have hUnused : unused used' hit = true := by simpa [unused] using hNew
    unfold strategies at h ⊢
    rcases Option.or_eq_some_iff.mp h with hCli | ⟨hCli, h⟩
    · exact ⟨hit, by rw [cliHit_kept hCli hSub hUnused, Option.some_or], rfl⟩
    · rw [cliHit_none hCli hSub, Option.none_or]
      rcases Option.or_eq_some_iff.mp h with hKernel | ⟨hKernel, h⟩
      · exact ⟨hit, by rw [matchFromKernel_kept hKernel hSub hUnused, Option.some_or], rfl⟩
      · rw [matchFromKernel_none hKernel hSub, Option.none_or]
        rcases Option.or_eq_some_iff.mp h with hBlock | ⟨hBlock, hMount⟩
        · exact ⟨hit, by rw [matchFromBlockDevices_kept hBlock hSub hUnused, Option.some_or], rfl⟩
        · cases hNow : matchFromBlockDevices lang ctx ld used' with
          | some hit' => exact ⟨hit', rfl, path_of_block_of_mount hBlock hMount hSub hUnused hNow⟩
          | none => exact ⟨hit, matchFromMounts_kept hMount hSub hNamed hUnused, rfl⟩

theorem method_of_strategies (h : strategies lang ctx used ld = some hit) :
    hit.method ≠ .order := by
  rcases strategies_cases h with hCli | hKernel | hBlock | hMount
  · obtain ⟨path, -, rfl⟩ := Option.map_eq_some_iff.mp hCli
    exact fun hOrder => by cases hOrder
  · obtain ⟨b, -, rfl⟩ := Option.map_eq_some_iff.mp hKernel
    exact fun hOrder => by cases hOrder
  · rw [matchFromBlockDevices_eq] at hBlock
    rcases Option.or_eq_some_iff.mp hBlock with hScan | ⟨-, hSize⟩
    · obtain ⟨dev, -, hHit⟩ := List.exists_of_findSome?_eq_some hScan
      exact method_of_idHit hHit
    · obtain ⟨dev, -, rfl⟩ := sizeHit_eq_some.mp hSize
      exact fun hOrder => by cases hOrder
  · obtain ⟨m, -, hHit⟩ := List.exists_of_findSome?_eq_some hMount
    obtain ⟨-, path, dev, -, -, -, -, -, rfl⟩ := mountHit_eq_some.mp hHit
    exact fun hOrder => by cases hOrder

end EsosWebui.Raid.OsPaths
