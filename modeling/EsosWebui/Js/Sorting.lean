import Mathlib.Data.List.Pairwise
import Mathlib.Order.Compare
import Mathlib.Order.Lattice

/-! The sort of the language, which is stable where the comparator is consistent and otherwise up
to the engine. -/
namespace Js

variable {α : Type}

/-- What the language asks of a comparator for the elements of a list. -/
structure ConsistentOn (order : α → α → Ordering) (l : List α) : Prop where
  refl : ∀ a ∈ l, order a a = .eq
  symm : ∀ a ∈ l, ∀ b ∈ l, order a b = .eq → order b a = .eq
  trans : ∀ a ∈ l, ∀ b ∈ l, ∀ c ∈ l, ∀ o, order a b = o → order b c = o → order a c = o

/-- `array.sort(order)`, of some engine. -/
structure SortsArrays (sort : (α → α → Ordering) → List α → List α) : Prop where
  perm : ∀ order l, (sort order l).Perm l
  stable : ∀ order l, ConsistentOn order l → sort order l = l.mergeSort fun a b => order a b != .gt

def stableSort (order : α → α → Ordering) (l : List α) : List α :=
  l.mergeSort fun a b => order a b != .gt

theorem stableSort_sorts : SortsArrays (stableSort : (α → α → Ordering) → List α → List α) :=
  ⟨fun _ _ => List.mergeSort_perm _ _, fun _ _ _ => rfl⟩

open Classical in
/-- The engine that does nothing where the comparator is not consistent. -/
noncomputable def lazySort (order : α → α → Ordering) (l : List α) : List α :=
  if ConsistentOn order l then stableSort order l else l

theorem lazySort_sorts : SortsArrays (lazySort : (α → α → Ordering) → List α → List α) := by
  refine ⟨fun order l => ?_, fun order l h => if_pos h⟩
  unfold lazySort
  split
  · exact List.mergeSort_perm _ _
  · exact List.Perm.refl l

theorem stableSort_of_eq {order : α → α → Ordering} {l : List α}
    (h : ∀ a ∈ l, ∀ b ∈ l, order a b = .eq) : stableSort order l = l := by
  refine List.mergeSort_of_pairwise (List.pairwise_of_forall_mem_list fun a ha b hb => ?_)
  rw [h a ha b hb]
  rfl

variable {κ : Type} [LinearOrder κ] {key : α → κ} {order : α → α → Ordering} {l : List α}

/-- The comparator puts the greater keys first. -/
def Descends (key : α → κ) (order : α → α → Ordering) (l : List α) : Prop :=
  ∀ a ∈ l, ∀ b ∈ l, order a b = cmp (key b) (key a)

theorem Descends.consistent (h : Descends key order l) : ConsistentOn order l := by
  refine ⟨fun a ha => ?_, fun a ha b hb => ?_, fun a ha b hb c hc o => ?_⟩
  · rw [h a ha a ha, cmp_self_eq_eq]
  · rw [h a ha b hb, h b hb a ha, cmp_eq_eq_iff, cmp_eq_eq_iff]
    exact Eq.symm
  · rw [h a ha b hb, h b hb c hc, h a ha c hc]
    cases o with
    | lt =>
      rw [cmp_eq_lt_iff, cmp_eq_lt_iff, cmp_eq_lt_iff]
      exact fun hAB hBC => hBC.trans hAB
    | eq =>
      rw [cmp_eq_eq_iff, cmp_eq_eq_iff, cmp_eq_eq_iff]
      exact fun hAB hBC => hBC.trans hAB
    | gt =>
      rw [cmp_eq_gt_iff, cmp_eq_gt_iff, cmp_eq_gt_iff]
      exact fun hAB hBC => hAB.trans hBC

theorem Descends.sort_eq (h : Descends key order l) :
    stableSort order l = l.mergeSort fun a b => decide (key b ≤ key a) := by
  have hMap := List.map_mergeSort (f := id) (r := fun a b => order a b != .gt)
    (s := fun a b => decide (key b ≤ key a)) (l := l) fun a ha b hb => by
      rw [h a ha b hb]
      cases hCmp : cmp (key b) (key a) with
      | lt => exact (decide_eq_true ((cmp_eq_lt_iff _ _).mp hCmp).le).symm
      | eq => exact (decide_eq_true ((cmp_eq_eq_iff _ _).mp hCmp).le).symm
      | gt => exact (decide_eq_false (not_le.mpr ((cmp_eq_gt_iff _ _).mp hCmp))).symm
  rwa [List.map_id, List.map_id] at hMap

theorem key_trans (key : α → κ) (a b c : α) (hAB : decide (key b ≤ key a))
    (hBC : decide (key c ≤ key b)) : decide (key c ≤ key a) :=
  decide_eq_true ((of_decide_eq_true hBC).trans (of_decide_eq_true hAB))

theorem key_total (key : α → κ) (a b : α) :
    (decide (key b ≤ key a) || decide (key a ≤ key b)) := by
  rcases le_total (key b) (key a) with h | h
  · simp [h]
  · simp [h]

theorem Descends.key_le_head (h : Descends key order l) {a b : α}
    (hHead : (stableSort order l).head? = some a) (hMem : b ∈ l) : key b ≤ key a := by
  rw [h.sort_eq] at hHead
  have hSorted := List.pairwise_mergeSort (key_trans key) (key_total key) l
  have hPerm := (List.mergeSort_perm l fun a b => decide (key b ≤ key a)).mem_iff.mpr hMem
  cases hList : l.mergeSort fun a b => decide (key b ≤ key a) with
  | nil => rw [hList] at hHead; cases hHead
  | cons first rest =>
    rw [hList] at hHead hSorted hPerm
    obtain rfl := Option.some.inj hHead
    rcases List.mem_cons.mp hPerm with rfl | hRest
    · exact le_refl _
    · exact of_decide_eq_true (List.rel_of_pairwise_cons hSorted hRest)

theorem Descends.head_of_first {a : α} (h : Descends key order (a :: l))
    (hMax : ∀ b ∈ l, key b ≤ key a) : (stableSort order (a :: l)).head? = some a := by
  rw [h.sort_eq]
  obtain ⟨before, after, hSplit, hRest, hBefore⟩ :=
    List.mergeSort_cons (key_trans key) (key_total key) a l
  have hNil : before = [] := by
    refine List.eq_nil_iff_forall_not_mem.mpr fun b hb => ?_
    have hMem : b ∈ l := by
      refine (List.mergeSort_perm l fun a b => decide (key b ≤ key a)).mem_iff.mp ?_
      rw [hRest]
      exact List.mem_append_left _ hb
    simpa [hMax b hMem] using hBefore b hb
  rw [hSplit, hNil]
  rfl

end Js
