import EsosWebui.Js.Arrays
import Mathlib.Algebra.Order.BigOperators.Group.List
import Mathlib.Data.List.Basic

/-! One element of an array is changed or removed, and every element that matches is: they come
to the same exactly if there is one match. Matches are counted with weights, so that they may
stand below the elements. -/
namespace Js

variable {α : Type} {l : List α} {i : Nat} {a : α} {w : α → Nat}

theorem sum_map_at (hAt : l[i]? = some a) :
    (l.map w).sum = w a + ((l.eraseIdx i).map w).sum := by
  have hPerm := flatMap_perm (g := fun x => [w x]) hAt
  rw [← List.map_eq_flatMap, ← List.map_eq_flatMap] at hPerm
  exact hPerm.sum_eq

theorem sum_map_eq_zero_iff : (l.map w).sum = 0 ↔ ∀ x ∈ l, w x = 0 := by
  rw [List.sum_eq_zero_iff, List.forall_mem_map]

theorem sum_map_filter (p : α → Bool) :
    ((l.filter p).map w).sum = (l.map fun x => if p x = true then w x else 0).sum := by
  induction l with
  | nil => rfl
  | cons x l ih => cases hp : p x <;> simp [hp, ih]

theorem sum_map_flatMap {β : Type} (g : β → List α) (xs : List β) :
    ((xs.flatMap g).map w).sum = (xs.map fun x => ((g x).map w).sum).sum := by
  induction xs with
  | nil => rfl
  | cons x xs ih => simp [ih]

theorem countP_eq_sum (p : α → Bool) : l.countP p = (l.map fun x => (p x).toNat).sum := by
  induction l with
  | nil => rfl
  | cons x l ih =>
    rw [List.countP_cons, ih, List.map_cons, List.sum_cons, Nat.add_comm]
    cases p x <;> rfl

theorem filterMap_eraseIdx {F : α → Option α} (hAt : l[i]? = some a) (hNone : F a = none) :
    (l.eraseIdx i).filterMap F = l.filterMap F := by
  induction l generalizing i with
  | nil => rfl
  | cons x l ih =>
    cases i with
    | zero =>
      obtain rfl := Option.some.inj hAt
      rw [List.filterMap_cons_none hNone, List.eraseIdx_cons_zero]
    | succ i =>
      rw [List.eraseIdx_cons_succ, List.filterMap_cons, List.filterMap_cons, ih hAt]

section

variable {β : Type} [DecidableEq β] {k : α → β} {b : β}

/-- Removing the element at a position removes every element of its key. -/
theorem eraseIdx_eq_filter_iff (hAt : l[i]? = some a) (ha : k a = b) :
    l.eraseIdx i = l.filter (k · ≠ b) ↔ l.countP (k · = b) = 1 := by
  have hCount : l.countP (k · = b) = 1 + (l.eraseIdx i).countP (k · = b) := by
    have hPerm := flatMap_perm (g := fun x => [x]) hAt
    rw [List.flatMap_singleton', List.flatMap_singleton'] at hPerm
    rw [hPerm.countP_eq, List.singleton_append, List.countP_cons_of_pos (by simpa using ha),
      Nat.add_comm]
  have hFilter : (l.eraseIdx i).filter (k · ≠ b) = l.filter (k · ≠ b) := by
    rw [← List.filterMap_eq_filter]
    exact filterMap_eraseIdx hAt (by simp [Option.guard, ha])
  rw [← hFilter, hCount, eq_comm, List.filter_eq_self]
  simp [List.countP_eq_zero]

theorem filter_eq_self_iff_countP : l.filter (k · ≠ b) = l ↔ l.countP (k · = b) = 0 := by
  simp [List.filter_eq_self, List.countP_eq_zero]

theorem filter_eq_self_iff_any :
    l.filter (k · ≠ b) = l ↔ (l.any (k · = b)).toNat = 0 := by
  simp [List.filter_eq_self]

end

theorem filterMap_eq_self_iff {F : α → Option α} :
    l.filterMap F = l ↔ ∀ x ∈ l, F x = some x := by
  simpa using List.filterMap_eq_map_iff_forall_eq_some (f := F) (g := id) (l := l)

/-- The element at a position is the only one that is not kept. -/
theorem eraseIdx_eq_filterMap_iff {F : α → Option α} (hAt : l[i]? = some a) (hNone : F a = none) :
    l.eraseIdx i = l.filterMap F ↔ ∀ x ∈ l.eraseIdx i, F x = some x := by
  rw [← filterMap_eraseIdx hAt hNone, eq_comm, filterMap_eq_self_iff]

/-- The element at a position is the only one that changes. -/
theorem modify_eq_filterMap_iff {f : α → α} {F : α → Option α} (hAt : l[i]? = some a) :
    l.modify i f = l.filterMap F ↔ F a = some (f a) ∧ ∀ x ∈ l.eraseIdx i, F x = some x := by
  induction l generalizing i with
  | nil => cases hAt
  | cons x l ih =>
    cases i with
    | zero =>
      obtain rfl := Option.some.inj hAt
      rw [List.modify_zero_cons, List.eraseIdx_cons_zero, List.filterMap_cons]
      cases hx : F x with
      | none =>
        have hShort := List.length_filterMap_le F l
        refine iff_of_false (fun hEq => ?_) nofun
        have hLength := congrArg List.length hEq
        rw [List.length_cons] at hLength
        dsimp only at hLength
        omega
      | some y =>
        rw [List.cons_eq_cons, Option.some_inj, eq_comm (a := f x), eq_comm (a := l),
          filterMap_eq_self_iff]
    | succ i =>
      rw [List.modify_succ_cons, List.eraseIdx_cons_succ, List.filterMap_cons,
        List.forall_mem_cons]
      cases hx : F x with
      | none =>
        have hShort := List.length_filterMap_le F l
        refine iff_of_false (fun hEq => ?_) nofun
        have hLength := congrArg List.length hEq
        rw [List.length_cons, List.length_modify] at hLength
        dsimp only at hLength
        omega
      | some y =>
        rw [List.cons_eq_cons, ih hAt, Option.some_inj, eq_comm (a := x)]
        exact and_left_comm

variable {f : α → α}

/-- An element is removed or changed as its match asks for, and no other has a match. -/
theorem forall_eraseIdx_iff_sum {F : α → Option α} (hAt : l[i]? = some a)
    (hSelf : ∀ x, F x = some x ↔ w x = 0) (hPos : 0 < w a) :
    (w a = 1 ∧ ∀ x ∈ l.eraseIdx i, F x = some x) ↔ (l.map w).sum = 1 := by
  rw [sum_map_at hAt]
  simp only [hSelf, ← sum_map_eq_zero_iff]
  omega

theorem eraseIdx_eq_filterMap_iff_sum {F : α → Option α} (hAt : l[i]? = some a)
    (hSelf : ∀ x, F x = some x ↔ w x = 0) (hNone : F a = none) (hOne : w a = 1) :
    l.eraseIdx i = l.filterMap F ↔ (l.map w).sum = 1 := by
  rw [eraseIdx_eq_filterMap_iff hAt hNone,
    ← forall_eraseIdx_iff_sum hAt hSelf (by omega), and_iff_right hOne]

theorem modify_eq_filterMap_iff_sum {F : α → Option α} (hAt : l[i]? = some a)
    (hSelf : ∀ x, F x = some x ↔ w x = 0) (hPos : 0 < w a) (hOne : F a = some (f a) ↔ w a = 1) :
    l.modify i f = l.filterMap F ↔ (l.map w).sum = 1 := by
  rw [modify_eq_filterMap_iff hAt, hOne, forall_eraseIdx_iff_sum hAt hSelf hPos]

theorem modify_eq_map_iff_sum {F : α → α} (hAt : l[i]? = some a)
    (hSelf : ∀ x, F x = x ↔ w x = 0) (hPos : 0 < w a) (hOne : f a = F a ↔ w a = 1) :
    l.modify i f = l.map F ↔ (l.map w).sum = 1 := by
  rw [← List.filterMap_eq_map]
  apply modify_eq_filterMap_iff_sum hAt _ hPos
  · rw [← hOne, Function.comp_apply, Option.some_inj, eq_comm]
  · exact fun x => by rw [Function.comp_apply, Option.some_inj, hSelf]

theorem map_eq_self_iff_sum {F : α → α} (hSelf : ∀ x, F x = x ↔ w x = 0) :
    l.map F = l ↔ (l.map w).sum = 0 := by
  rw [sum_map_eq_zero_iff]
  constructor
  · intro h x hx
    exact (hSelf x).mp (List.map_eq_map_iff.mp (h.trans (List.map_id l).symm) x hx)
  · intro h
    exact (List.map_congr_left fun x hx => (hSelf x).mpr (h x hx)).trans (List.map_id l)

end Js
