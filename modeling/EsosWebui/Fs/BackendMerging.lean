import EsosWebui.Fs.Backends

/-! What is found under the path of a backend: all that was pushed there, each with its reasons. -/
namespace EsosWebui.Fs

open Js
open Raid.Inventory (BlockDevice)

namespace BackendInput

variable {input : BackendInput}

theorem canonical_canonical (path : Text) :
    input.canonical (input.canonical path) = input.canonical path :=
  resolveCanonicalPath_idem (wellFormed_buildPathAliasIndex input.blockDevices) path

@[simp] theorem backendKey_backendKey (path : Text) :
    input.backendKey (input.backendKey path) = input.backendKey path := by
  by_cases hHw : startsWith path "hw:".toList = true
  · have hSame : input.backendKey path = path := by rw [backendKey, if_pos hHw]
    rw [hSame, hSame]
  · have hSame : input.backendKey path = input.canonical path := by rw [backendKey, if_neg hHw]
    rw [hSame, backendKey, canonical_canonical, ite_self]

structure Pushed (input : BackendInput) (pushed : List FsBackendRef) (inventory : FsInventory) :
    Prop where
  seen : inventory.seen = inventory.backends.map (·.path)
  keys : ∀ key, key ∈ inventory.seen ↔ ∃ b ∈ pushed, input.backendKey b.path = key
  canonical : ∀ x ∈ inventory.backends, input.backendKey x.path = x.path
  distinct : inventory.seen.Nodup
  reasons : ∀ x ∈ inventory.backends, ∀ r, r ∈ x.reasons ↔
    ∃ b ∈ pushed, input.backendKey b.path = x.path ∧ r ∈ b.reasons
  eligibility : ∀ x ∈ inventory.backends,
    x.eligibility = some (classifyBackendEligibility x.reasons) ∧
      x.eligible = decide (classifyBackendEligibility x.reasons ≠ .blocked)

theorem pushed_nil : Pushed input [] {} :=
  ⟨rfl, by simp, nofun, List.nodup_nil, nofun, nofun⟩

variable {inventory : FsInventory} {pushed : List FsBackendRef}

theorem Pushed.push_new (h : Pushed input pushed inventory) {b : FsBackendRef}
    (hNone : b.eligibility = none) (hNew : input.backendKey b.path ∉ inventory.seen) :
    Pushed input (pushed ++ [b]) (input.push inventory b) := by
  have hKeys : ∀ key, key ∈ inventory.seen ++ [input.backendKey b.path] ↔
      ∃ x ∈ pushed ++ [b], input.backendKey x.path = key := by
    intro key
    rw [List.mem_append, h.keys, List.mem_singleton]
    simp [or_and_right, exists_or, eq_comm]
  simp only [push, if_neg hNew, hNone, Option.getD_none]
  refine ⟨?_, hKeys, ?_, ?_, ?_, ?_⟩
  · rw [List.map_append, h.seen]
    rfl
  · intro x hx
    rcases List.mem_append.mp hx with hx | hx
    · exact h.canonical x hx
    · obtain rfl := List.mem_singleton.mp hx
      exact backendKey_backendKey b.path
  · exact List.nodup_append.mpr ⟨h.distinct, List.nodup_singleton _, by
      intro key hKey key' hKey' hSame
      obtain rfl := List.mem_singleton.mp hKey'
      exact hNew (hSame ▸ hKey)⟩
  · intro x hx r
    rcases List.mem_append.mp hx with hx | hx
    · rw [h.reasons x hx]
      have hOther : input.backendKey b.path ≠ x.path := by
        intro hSame
        exact hNew (hSame ▸ h.seen ▸ List.mem_map_of_mem hx)
      simp [or_and_right, exists_or, hOther]
    · obtain rfl := List.mem_singleton.mp hx
      have hNoOther : ∀ y ∈ pushed, input.backendKey y.path ≠ input.backendKey b.path :=
        fun y hy hSame => hNew ((h.keys _).mpr ⟨y, hy, hSame⟩)
      constructor
      · exact fun hr => ⟨b, by simp, rfl, hr⟩
      · rintro ⟨y, hy, hSame, hr⟩
        rcases List.mem_append.mp hy with hy | hy
        · exact absurd hSame (hNoOther y hy)
        · obtain rfl := List.mem_singleton.mp hy
          exact hr
  · intro x hx
    rcases List.mem_append.mp hx with hx | hx
    · exact h.eligibility x hx
    · obtain rfl := List.mem_singleton.mp hx
      exact ⟨rfl, rfl⟩

theorem Pushed.push_seen (h : Pushed input pushed inventory) {b : FsBackendRef}
    (hNone : b.eligibility = none) (hSeen : input.backendKey b.path ∈ inventory.seen) :
    Pushed input (pushed ++ [b]) (input.push inventory b) := by
  simp only [push, if_pos hSeen, hNone, Option.getD_none]
  have hFound : ∃ x ∈ inventory.backends,
      decide (input.backendKey x.path = input.backendKey b.path) = true := by
    obtain ⟨x, hx, hPath⟩ := List.mem_map.mp (h.seen ▸ hSeen)
    exact ⟨x, hx, decide_eq_true ((h.canonical x hx).trans hPath)⟩
  generalize hNormalized : ({ b with
      eligibility := some (classifyBackendEligibility b.reasons)
      eligible := decide (classifyBackendEligibility b.reasons ≠ .blocked) } : FsBackendRef) =
    normalized
  have hReasons : normalized.reasons = b.reasons := by rw [← hNormalized]
  obtain ⟨before, e, after, hList, he, hModify⟩ :=
    modify_findIdx_split (merge · normalized) hFound
  have hMem : e ∈ inventory.backends := hList ▸ List.mem_append_right _ List.mem_cons_self
  have hPath : e.path = input.backendKey b.path :=
    (h.canonical e hMem).symm.trans (of_decide_eq_true he)
  have hPaths : (before.map (·.path) ++ e.path :: after.map (·.path)).Nodup := by
    have hDistinct := h.distinct
    rwa [h.seen, hList, List.map_append, List.map_cons] at hDistinct
  have hOthers : ∀ x, x ∈ before ∨ x ∈ after → x ∈ inventory.backends ∧ x.path ≠ e.path := by
    intro x hx
    have hNotMem := (List.nodup_cons.mp (List.perm_middle.nodup_iff.mp hPaths)).1
    refine ⟨?_, fun hSame => hNotMem ?_⟩
    · rw [hList, List.mem_append, List.mem_cons]
      tauto
    · rw [← hSame, List.mem_append]
      exact hx.imp List.mem_map_of_mem List.mem_map_of_mem
  have hCases : ∀ x ∈ before ++ merge e normalized :: after,
      x = merge e normalized ∨ (x ∈ before ∨ x ∈ after) := by
    intro x hx
    rw [List.mem_append, List.mem_cons] at hx
    tauto
  rw [hModify]
  refine ⟨?_, ?_, ?_, h.distinct, ?_, ?_⟩
  · rw [h.seen, hList, List.map_append, List.map_append]
    rfl
  · intro key
    rw [h.keys]
    constructor
    · rintro ⟨x, hx, hKey⟩
      exact ⟨x, List.mem_append_left _ hx, hKey⟩
    · rintro ⟨x, hx, hKey⟩
      rcases List.mem_append.mp hx with hx | hx
      · exact ⟨x, hx, hKey⟩
      · obtain rfl := List.mem_singleton.mp hx
        exact hKey ▸ (h.keys _).mp hSeen
  · intro x hx
    rcases hCases x hx with rfl | hx
    · exact h.canonical e hMem
    · exact h.canonical x (hOthers x hx).1
  · intro x hx r
    rcases hCases x hx with rfl | hx
    · show r ∈ unique (e.reasons ++ normalized.reasons) ↔
        ∃ y ∈ pushed ++ [b], input.backendKey y.path = e.path ∧ r ∈ y.reasons
      rw [mem_unique, List.mem_append, h.reasons e hMem, hReasons, hPath]
      simp [or_and_right, exists_or]
    · obtain ⟨hOld, hOther⟩ := hOthers x hx
      rw [h.reasons x hOld]
      have hNot : input.backendKey b.path ≠ x.path :=
        fun hSame => hOther (hSame.symm.trans hPath.symm)
      simp [or_and_right, exists_or, hNot]
  · intro x hx
    rcases hCases x hx with rfl | hx
    · exact ⟨rfl, rfl⟩
    · exact h.eligibility x (hOthers x hx).1

theorem Pushed.push (h : Pushed input pushed inventory) {b : FsBackendRef}
    (hNone : b.eligibility = none) : Pushed input (pushed ++ [b]) (input.push inventory b) := by
  by_cases hSeen : input.backendKey b.path ∈ inventory.seen
  · exact h.push_seen hNone hSeen
  · exact h.push_new hNone hSeen

theorem Pushed.foldl {pushed backends : List FsBackendRef} (h : Pushed input pushed inventory)
    (hNone : ∀ b ∈ backends, b.eligibility = none) :
    Pushed input (pushed ++ backends) (backends.foldl input.push inventory) := by
  induction backends generalizing pushed inventory with
  | nil => simpa using h
  | cons b backends ih =>
    have hRest := ih (h.push (hNone b List.mem_cons_self))
      fun x hx => hNone x (List.mem_cons_of_mem _ hx)
    rwa [List.append_assoc] at hRest

def rawDisks (input : BackendInput) (seen : List Text) : List BlockDevice → List BlockDevice
  | [] => []
  | dev :: devices =>
    if dev.type ≠ .disk ∨ dev.path ∈ input.pvs ∨ input.canonical dev.path ∈ seen then
      rawDisks input seen devices
    else dev :: rawDisks input (seen ++ [input.canonical dev.path]) devices

theorem backendKey_diskBackend (dev : BlockDevice) :
    input.backendKey (input.diskBackend dev).path = input.canonical dev.path := by
  show input.backendKey (input.canonical dev.path) = _
  rw [backendKey, canonical_canonical, ite_self]

theorem foldl_pushDisk (devices : List BlockDevice) (inventory : FsInventory) :
    devices.foldl input.pushDisk inventory =
      ((rawDisks input inventory.seen devices).map input.diskBackend).foldl input.push
        inventory := by
  induction devices generalizing inventory with
  | nil => rfl
  | cons dev devices ih =>
    rw [List.foldl_cons, rawDisks, pushDisk]
    split
    · exact ih inventory
    next hTaken =>
      have hNew : input.backendKey (input.diskBackend dev).path ∉ inventory.seen := by
        rw [backendKey_diskBackend]
        exact fun hSeen => hTaken (Or.inr (Or.inr hSeen))
      have hSeen : (input.push inventory (input.diskBackend dev)).seen =
          inventory.seen ++ [input.canonical dev.path] := by
        rw [← backendKey_diskBackend]
        simp only [push, if_neg hNew]
      rw [ih, hSeen, List.map_cons, List.foldl_cons]

theorem rawDisks_congr {seen seen' : List Text} (h : ∀ key, key ∈ seen ↔ key ∈ seen')
    (devices : List BlockDevice) : rawDisks input seen devices = rawDisks input seen' devices := by
  induction devices generalizing seen seen' with
  | nil => rfl
  | cons dev devices ih =>
    have hRest : rawDisks input (seen ++ [input.canonical dev.path]) devices =
        rawDisks input (seen' ++ [input.canonical dev.path]) devices := by
      apply ih
      intro key
      rw [List.mem_append, List.mem_append, h]
    simp only [rawDisks, h, ih h, hRest]

def newDisks (input : BackendInput) : List BlockDevice :=
  if input.allowRawDisk then
    rawDisks input (input.foundBackends.map (input.backendKey ·.path)) input.blockDevices
  else []

theorem eligibility_foundBackends : ∀ b ∈ input.foundBackends, b.eligibility = none := by
  intro b hb
  rcases List.mem_append.mp hb with hb | hb
  · rcases List.mem_append.mp hb with hb | hb
    · obtain ⟨lv, -, rfl⟩ := List.mem_map.mp hb
      rfl
    · obtain ⟨arr, -, rfl⟩ := List.mem_map.mp hb
      rfl
  · obtain ⟨ctrl, -, hb⟩ := List.mem_flatMap.mp hb
    obtain ⟨ld, -, rfl⟩ := List.mem_map.mp hb
    rw [ldBackend]
    split
    · rfl
    · rfl

def pushedBackends (input : BackendInput) : List FsBackendRef :=
  input.foundBackends ++ input.newDisks.map input.diskBackend

theorem pushed_inventory : Pushed input input.pushedBackends input.inventory := by
  have hFound : Pushed input ([] ++ input.foundBackends)
      (input.foundBackends.foldl input.push {}) :=
    pushed_nil.foldl eligibility_foundBackends
  rw [List.nil_append] at hFound
  rw [pushedBackends, newDisks, inventory]
  split
  · have hSeen : rawDisks input (input.foundBackends.foldl input.push {}).seen
        input.blockDevices =
        rawDisks input (input.foundBackends.map (input.backendKey ·.path)) input.blockDevices := by
      apply rawDisks_congr
      intro key
      rw [hFound.keys, List.mem_map]
    rw [foldl_pushDisk, hSeen]
    apply hFound.foldl
    intro b hb
    obtain ⟨dev, -, rfl⟩ := List.mem_map.mp hb
    rfl
  · simpa using hFound

end BackendInput

end EsosWebui.Fs

