import EsosWebui.Js.Text
import Mathlib.Data.List.Nodup

/-! The `Map` of the language, which enumerates its keys in the order in which they were first
set. -/
namespace Js

/-- A `Map`. -/
@[ext] structure OrderedMap (K V : Type) where
  entries : List (K × V)
  nodup : (entries.map Prod.fst).Nodup

namespace OrderedMap

variable {K V : Type}

/-- `new Map()` -/
def empty : OrderedMap K V := ⟨[], List.nodup_nil⟩

/-- `[...map.keys()]` -/
def keys (m : OrderedMap K V) : List K := m.entries.map Prod.fst

variable [DecidableEq K]

/-- `map.get(key)` -/
def get (m : OrderedMap K V) (key : K) : Option V :=
  (m.entries.find? fun e => e.1 = key).map Prod.snd

/-- An entry under its new value. -/
def updated (key : K) (value : V) (e : K × V) : K × V := if e.1 = key then (key, value) else e

omit [DecidableEq K] in
theorem mem_keys {m : OrderedMap K V} {key : K} : key ∈ m.keys ↔ ∃ v, (key, v) ∈ m.entries := by
  simp [keys]

@[simp] theorem fst_updated (key : K) (value : V) (e : K × V) : (updated key value e).1 = e.1 := by
  unfold updated
  split
  · rename_i h
    exact h.symm
  · rfl

/-- `map.set(key, value)` -/
def set (m : OrderedMap K V) (key : K) (value : V) : OrderedMap K V :=
  if h : key ∈ m.keys then
    ⟨m.entries.map (updated key value), by
      rw [List.map_map]
      have hKeys : Prod.fst ∘ updated key value = Prod.fst := funext (fst_updated key value)
      rw [hKeys]
      exact m.nodup⟩
  else
    ⟨m.entries ++ [(key, value)], by
      rw [List.map_append]
      exact m.nodup.append (List.nodup_singleton _) (by simpa [keys] using h)⟩

/-- `map.delete(key)` -/
def delete (m : OrderedMap K V) (key : K) : OrderedMap K V :=
  ⟨m.entries.filter (·.1 ≠ key), m.nodup.sublist (List.filter_sublist.map _)⟩

def modify (m : OrderedMap K V) (key : K) (f : V → V) : OrderedMap K V :=
  match m.get key with
  | some value => m.set key (f value)
  | none => m

def setAll (m : OrderedMap K V) (entries : List (K × V)) : OrderedMap K V :=
  entries.foldl (fun m e => m.set e.1 e.2) m

variable {m : OrderedMap K V} {key other : K} {value : V}

theorem get_eq_some_iff : m.get key = some value ↔ (key, value) ∈ m.entries := by
  unfold get
  constructor
  · intro h
    obtain ⟨e, he, rfl⟩ := Option.map_eq_some_iff.mp h
    obtain rfl : e.1 = key := by simpa using List.find?_some he
    exact List.mem_of_find?_eq_some he
  · intro h
    have hFind : m.entries.find? (fun e => e.1 = key) = some (key, value) := by
      cases hf : m.entries.find? fun e => e.1 = key with
      | none =>
        have hOther := List.find?_eq_none.mp hf _ h
        simp at hOther
      | some e =>
        have hKey : e.1 = key := by simpa using List.find?_some hf
        exact congrArg some
          (List.inj_on_of_nodup_map m.nodup (List.mem_of_find?_eq_some hf) h hKey)
    rw [hFind]
    rfl

theorem get_eq_none_iff : m.get key = none ↔ key ∉ m.keys := by
  rw [Option.eq_none_iff_forall_ne_some, mem_keys]
  simp [get_eq_some_iff]

theorem mem_keys_iff_get : key ∈ m.keys ↔ ∃ v, m.get key = some v := by
  simp only [mem_keys, get_eq_some_iff]

theorem mem_entries_set {e : K × V} :
    e ∈ (m.set key value).entries ↔ e = (key, value) ∨ (e.1 ≠ key ∧ e ∈ m.entries) := by
  unfold set
  split
  · rename_i h
    obtain ⟨old, hOld⟩ := mem_keys.mp h
    rw [List.mem_map]
    constructor
    · rintro ⟨e, he, rfl⟩
      by_cases hKey : e.1 = key
      · exact Or.inl (if_pos hKey)
      · refine Or.inr ⟨by rwa [fst_updated], ?_⟩
        rwa [updated, if_neg hKey]
    · rintro (rfl | ⟨hKey, he⟩)
      · exact ⟨_, hOld, if_pos rfl⟩
      · exact ⟨e, he, if_neg hKey⟩
  · rename_i h
    rw [List.mem_append, List.mem_singleton]
    constructor
    · rintro (he | rfl)
      · refine Or.inr ⟨?_, he⟩
        rintro rfl
        exact h (mem_keys.mpr ⟨e.2, he⟩)
      · exact Or.inl rfl
    · rintro (rfl | ⟨-, he⟩)
      · exact Or.inr rfl
      · exact Or.inl he

theorem mem_entries_delete {e : K × V} :
    e ∈ (m.delete key).entries ↔ e.1 ≠ key ∧ e ∈ m.entries := by
  simp [delete, and_comm]

@[simp] theorem get_empty : (empty : OrderedMap K V).get key = none := rfl

@[simp] theorem get_set_self : (m.set key value).get key = some value :=
  get_eq_some_iff.mpr (mem_entries_set.mpr (Or.inl rfl))

theorem get_set_of_ne (h : other ≠ key) : (m.set key value).get other = m.get other := by
  ext v
  rw [get_eq_some_iff, get_eq_some_iff, mem_entries_set]
  simp [h]

theorem get_set :
    (m.set key value).get other = if other = key then some value else m.get other := by
  split
  · rename_i h
    rw [h, get_set_self]
  · rename_i h
    exact get_set_of_ne h

@[simp] theorem get_delete_self : (m.delete key).get key = none := by
  rw [get_eq_none_iff, mem_keys]
  simp [mem_entries_delete]

theorem get_delete_of_ne (h : other ≠ key) : (m.delete key).get other = m.get other := by
  ext v
  rw [get_eq_some_iff, get_eq_some_iff, mem_entries_delete]
  simp [h]

theorem mem_keys_set : other ∈ (m.set key value).keys ↔ other = key ∨ other ∈ m.keys := by
  simp only [mem_keys_iff_get, get_set]
  split
  · rename_i h
    simp [h]
  · rename_i h
    simp [h]

theorem get_modify (f : V → V) :
    (m.modify key f).get other = if other = key then (m.get key).map f else m.get other := by
  unfold modify
  split
  · rename_i old hOld
    rw [get_set, hOld]
    rfl
  · rename_i hNone
    split
    · rename_i hEq
      rw [hEq, hNone]
      rfl
    · rfl

theorem mem_keys_modify (f : V → V) : other ∈ (m.modify key f).keys ↔ other ∈ m.keys := by
  simp only [mem_keys_iff_get, get_modify]
  split
  · rename_i hEq
    simp [hEq]
  · exact Iff.rfl

theorem entries_set_of_not_mem (h : key ∉ m.keys) :
    (m.set key value).entries = m.entries ++ [(key, value)] := by
  rw [set, dif_neg h]

theorem entries_set_of_mem (h : key ∈ m.keys) :
    (m.set key value).entries = m.entries.map (updated key value) := by
  rw [set, dif_pos h]

/-- The last entry is changed in its place. -/
theorem modify_set_of_not_mem (h : key ∉ m.keys) (f : V → V) :
    (m.set key value).modify key f = m.set key (f value) := by
  ext1
  rw [modify, get_set_self]
  dsimp only
  rw [entries_set_of_mem (mem_keys_set.mpr (Or.inl rfl)), entries_set_of_not_mem h,
    entries_set_of_not_mem h, List.map_append]
  have hKeep : m.entries.map (updated key (f value)) = m.entries := by
    conv_rhs => rw [← List.map_id m.entries]
    refine List.map_congr_left fun e he => if_neg ?_
    rintro rfl
    exact h (mem_keys.mpr ⟨e.2, he⟩)
  rw [hKeep, List.map_singleton, updated, if_pos rfl]

theorem mem_keys_setAll {entries : List (K × V)} :
    other ∈ (m.setAll entries).keys ↔ other ∈ m.keys ∨ other ∈ entries.map Prod.fst := by
  induction entries generalizing m with
  | nil => simp [setAll]
  | cons e entries ih =>
    have hStep : m.setAll (e :: entries) = (m.set e.1 e.2).setAll entries := rfl
    rw [hStep, ih, mem_keys_set, List.map_cons, List.mem_cons, or_comm (a := other = e.1),
      or_assoc]

theorem mem_entries_of_setAll {entries : List (K × V)} {e : K × V}
    (h : e ∈ (m.setAll entries).entries) : e ∈ m.entries ∨ e ∈ entries := by
  induction entries generalizing m with
  | nil => exact .inl h
  | cons first entries ih =>
    rcases ih (m := m.set first.1 first.2) h with hOld | hMore
    · rcases mem_entries_set.mp hOld with rfl | ⟨-, hOld⟩
      · exact .inr List.mem_cons_self
      · exact .inl hOld
    · exact .inr (List.mem_cons_of_mem _ hMore)

theorem entries_setAll {entries : List (K × V)} (hNodup : (entries.map Prod.fst).Nodup)
    (hNew : ∀ e ∈ entries, e.1 ∉ m.keys) :
    (m.setAll entries).entries = m.entries ++ entries := by
  induction entries generalizing m with
  | nil => simp [setAll]
  | cons e entries ih =>
    rw [List.map_cons, List.nodup_cons] at hNodup
    obtain ⟨hFirst, hRest⟩ := List.forall_mem_cons.mp hNew
    have hStep : m.setAll (e :: entries) = (m.set e.1 e.2).setAll entries := rfl
    rw [hStep, ih hNodup.2, entries_set_of_not_mem hFirst, List.append_assoc,
      List.singleton_append]
    intro d hd hMem
    rcases mem_keys_set.mp hMem with hEq | hMem
    · exact hNodup.1 (hEq ▸ List.mem_map_of_mem hd)
    · exact hRest d hd hMem

theorem setAll_entries (m : OrderedMap K V) : empty.setAll m.entries = m := by
  ext1
  rw [entries_setAll m.nodup]
  · rfl
  · simp [empty, keys]

end OrderedMap

end Js
