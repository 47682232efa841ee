import Mathlib.Algebra.Order.Ring.Nat
import Mathlib.Data.List.Flatten
import Mathlib.Data.List.Nodup
import Mathlib.Data.List.Perm.Basic
import Mathlib.Data.List.TakeWhile
import Mathlib.Tactic.SplitIfs
import Mathlib.Tactic.Tauto

/-! Arrays whose elements are changed in place, by position. -/
namespace Js

variable {α : Type} {i : Nat}

theorem modify_congr {f g : α → α} {l : List α} (h : ∀ x ∈ l[i]?, f x = g x) :
    l.modify i f = l.modify i g := by
  apply List.ext_getElem?
  intro j
  rw [List.getElem?_modify, List.getElem?_modify]
  by_cases hij : i = j
  · subst hij
    cases hx : l[i]? with
    | none => rfl
    | some x => simp [h x (by simp [hx])]
  · simp [hij]

variable {f : α → α}

theorem modify_same (h : ∀ x, f x = x) (i : Nat) (l : List α) : l.modify i f = l := by
  rw [show f = id from funext h, List.modify_id]

theorem exists_split_at {l : List α} {a : α} (hAt : l[i]? = some a) :
    ∃ before after, l = before ++ a :: after ∧ l.eraseIdx i = before ++ after := by
  induction l generalizing i with
  | nil => cases hAt
  | cons x l ih =>
    cases i with
    | zero =>
      obtain rfl := Option.some.inj hAt
      exact ⟨[], l, rfl, rfl⟩
    | succ i =>
      obtain ⟨before, after, hList, hErase⟩ := ih hAt
      exact ⟨x :: before, after, by rw [hList, List.cons_append],
        by rw [List.eraseIdx_cons_succ, hErase, List.cons_append]⟩

theorem modify_append_length (f : α → α) (l : List α) (x : α) :
    (l ++ [x]).modify l.length f = l ++ [f x] := by
  induction l with
  | nil => rfl
  | cons y l ih => simpa using ih

variable {x : α}

theorem mem_modify {l : List α} (h : x ∈ l.modify i f) : x ∈ l ∨ ∃ y ∈ l, x = f y := by
  obtain ⟨j, hj⟩ := List.mem_iff_getElem?.mp h
  rw [List.getElem?_modify] at hj
  obtain ⟨y, hy, hx⟩ := Option.map_eq_some_iff.mp hj
  have hMem := List.mem_of_getElem? hy
  split at hx
  · exact Or.inr ⟨y, hMem, hx.symm⟩
  · exact Or.inl (hx ▸ hMem)

theorem forall_mem_modify_iff {P : α → Prop} {l : List α} (hf : ∀ x, P (f x) ↔ P x) :
    (∀ x ∈ l.modify i f, P x) ↔ ∀ x ∈ l, P x := by
  induction l generalizing i with
  | nil => simp
  | cons x l ih =>
    cases i with
    | zero => simp [hf]
    | succ i => simp [ih]

theorem forall_mem_modify_and_iff {P : α → Prop} {Q : Prop} {l : List α} {a : α}
    (ha : l[i]? = some a) (hf : P (f a) ↔ P a ∧ Q) :
    (∀ x ∈ l.modify i f, P x) ↔ (∀ x ∈ l, P x) ∧ Q := by
  induction l generalizing i with
  | nil => simp at ha
  | cons x l ih =>
    cases i with
    | zero =>
      obtain rfl : x = a := by simpa using ha
      simp only [List.modify_zero_cons, List.forall_mem_cons, hf]
      tauto
    | succ i =>
      simp only [List.modify_succ_cons, List.forall_mem_cons, ih (by simpa using ha)]
      tauto

theorem forall_mem_modify_at {P : α → Prop} {l : List α} (h : ∀ x ∈ l, P x)
    (hf : ∀ a, l[i]? = some a → P (f a)) : ∀ x ∈ l.modify i f, P x := by
  intro x hx
  obtain ⟨j, hj⟩ := List.mem_iff_getElem?.mp hx
  rw [List.getElem?_modify] at hj
  obtain ⟨y, hy, hxy⟩ := Option.map_eq_some_iff.mp hj
  split at hxy
  · rename_i hij
    exact hxy ▸ hf y (hij ▸ hy)
  · exact hxy ▸ h y (List.mem_of_getElem? hy)

variable {β : Type}

theorem map_modify_same {g : α → β} (h : ∀ a, g (f a) = g a) (i : Nat) (l : List α) :
    (l.modify i f).map g = l.map g := by
  induction l generalizing i with
  | nil => simp
  | cons x l ih => cases i <;> simp [h, ih]

theorem getElem?_concat_eq_some {l : List α} {a b : α} :
    (l ++ [a])[i]? = some b ↔ l[i]? = some b ∨ (i = l.length ∧ a = b) := by
  rcases Nat.lt_trichotomy i l.length with hLt | rfl | hGt
  · rw [List.getElem?_append_left hLt]
    constructor
    · exact Or.inl
    · rintro (h | ⟨rfl, -⟩)
      · exact h
      · omega
  · simp
  · rw [List.getElem?_eq_none (by simp; omega), List.getElem?_eq_none (by omega)]
    simp
    omega

theorem find?_eq_some_of_nodup {κ : Type} [DecidableEq κ] {key : α → κ} {l : List α} {a : α}
    (hUnique : (l.map key).Nodup) (ha : a ∈ l) : l.find? (fun b => key b = key a) = some a := by
  cases hFind : l.find? (fun b => key b = key a) with
  | none => simpa using List.find?_eq_none.mp hFind a ha
  | some b =>
    have hSame : key b = key a := by simpa using List.find?_some hFind
    exact congrArg some
      (List.inj_on_of_nodup_map hUnique (List.mem_of_find?_eq_some hFind) ha hSame)

section

variable {β : Type} {f : α → α} {g : α → List β} {i : Nat} {l : List α}

theorem flatMap_modify_perm {a : α} (ha : l[i]? = some a) :
    ((l.modify i f).flatMap g).Perm (g (f a) ++ (l.eraseIdx i).flatMap g) := by
  induction l generalizing i with
  | nil => simp at ha
  | cons x l ih =>
    cases i with
    | zero =>
      obtain rfl : x = a := by simpa using ha
      simp
    | succ i =>
      simp only [List.modify_succ_cons, List.flatMap_cons, List.eraseIdx_cons_succ]
      refine ((ih (by simpa using ha)).append_left (g x)).trans ?_
      rw [← List.append_assoc, ← List.append_assoc]
      exact List.perm_append_comm.append_right _

theorem flatMap_perm {a : α} (ha : l[i]? = some a) :
    (l.flatMap g).Perm (g a ++ (l.eraseIdx i).flatMap g) := by
  simpa using flatMap_modify_perm (f := id) (g := g) ha

theorem flatMap_modify_sublist (h : ∀ a, (g (f a)).Sublist (g a)) :
    ((l.modify i f).flatMap g).Sublist (l.flatMap g) := by
  induction l generalizing i with
  | nil => simp
  | cons x l ih =>
    cases i with
    | zero => exact (h x).append (List.Sublist.refl _)
    | succ i => exact (List.Sublist.refl _).append ih

end

theorem sum_modify_le {weight : α → Nat} {k : Nat} (h : ∀ x, weight (f x) ≤ weight x + k) (i : Nat)
    (l : List α) : ((l.modify i f).map weight).sum ≤ (l.map weight).sum + k := by
  induction l generalizing i with
  | nil => simp
  | cons x l ih =>
    cases i with
    | zero =>
      have := h x
      simp only [List.modify_zero_cons, List.map_cons, List.sum_cons]
      omega
    | succ i =>
      have := ih i
      simp only [List.modify_succ_cons, List.map_cons, List.sum_cons]
      omega

theorem sum_modify_lt {weight : α → Nat} {k i : Nat} {l : List α} (hx : l[i]? = some x)
    (h : weight (f x) < weight x + k) :
    ((l.modify i f).map weight).sum < (l.map weight).sum + k := by
  induction l generalizing i with
  | nil => simp at hx
  | cons y l ih =>
    cases i with
    | zero =>
      obtain rfl : y = x := by simpa using hx
      simp only [List.modify_zero_cons, List.map_cons, List.sum_cons]
      omega
    | succ i =>
      have := ih (i := i) (by simpa using hx)
      simp only [List.modify_succ_cons, List.map_cons, List.sum_cons]
      omega

theorem countP_modify {p : α → Bool} {l : List α} (hx : l[i]? = some x) :
    (l.modify i f).countP p + (p x).toNat = l.countP p + (p (f x)).toNat := by
  induction l generalizing i with
  | nil => simp at hx
  | cons y l ih =>
    cases i with
    | zero =>
      obtain rfl : y = x := by simpa using hx
      rw [List.modify_zero_cons, List.countP_cons, List.countP_cons]
      cases p y <;> cases p (f y) <;> simp
    | succ i =>
      have := ih (i := i) (by simpa using hx)
      rw [List.modify_succ_cons, List.countP_cons, List.countP_cons]
      omega

/-- Either all elements satisfy a predicate or there is a first one that does not. -/
theorem forall_or_exists_first (P : α → Prop) (l : List α) :
    (∀ x ∈ l, P x) ∨ ∃ pre x post, l = pre ++ x :: post ∧ (∀ y ∈ pre, P y) ∧ ¬ P x := by
  induction l with
  | nil => simp
  | cons a l ih =>
    by_cases ha : P a
    · rcases ih with hAll | ⟨pre, x, post, rfl, hPre, hx⟩
      · exact Or.inl (by simpa using ⟨ha, hAll⟩)
      · exact Or.inr ⟨a :: pre, x, post, rfl, by simpa using ⟨ha, hPre⟩, hx⟩
    · exact Or.inr ⟨[], a, l, rfl, by simp, ha⟩

/-- The elements before the first one that satisfies a predicate, and those after it. -/
def others (p : α → Bool) (l : List α) : List α × List α :=
  (l.takeWhile (!p ·), (l.dropWhile (!p ·)).tail)

/-- An element takes the place of the first one that satisfies a predicate, or comes last. -/
def put (p : α → Bool) (x : α) (l : List α) : List α := (others p l).1 ++ x :: (others p l).2

theorem put_of_findIdx?_none {p : α → Bool} {l : List α} (h : l.findIdx? p = none) :
    put p x l = l ++ [x] := by
  have hAll : ∀ a ∈ l, (!p a) = true := by simpa using List.findIdx?_eq_none_iff.mp h
  have hTake : l.takeWhile (!p ·) = l := List.takeWhile_eq_self_iff.mpr hAll
  have hDrop : l.dropWhile (!p ·) = [] := List.dropWhile_eq_nil_iff.mpr hAll
  simp [put, others, hTake, hDrop]

theorem put_of_findIdx?_some {p : α → Bool} {l : List α} (h : l.findIdx? p = some i) :
    put p x l = l.set i x := by
  induction l generalizing i with
  | nil => cases h
  | cons a l ih =>
    rw [List.findIdx?_cons] at h
    by_cases ha : p a = true
    · rw [if_pos ha] at h
      obtain rfl := Option.some.inj h
      simp [put, others, ha]
    · rw [if_neg ha] at h
      obtain ⟨j, hj, rfl⟩ := Option.map_eq_some_iff.mp h
      have hRest := ih hj
      simpa [put, others, ha] using hRest

theorem put_eq_put_iff {p : α → Bool} {l l' : List α} (hx : p x) :
    put p x l = put p x l' ↔ others p l = others p l' := by
  constructor
  · intro h
    have hTake (l : List α) : (put p x l).takeWhile (!p ·) = (others p l).1 := by
      have hOthers : ∀ a ∈ (others p l).1, (!p a) = true := fun a ha =>
        List.mem_takeWhile_imp (p := (!p ·)) ha
      rw [put, List.takeWhile_append_of_pos hOthers, List.takeWhile_cons_of_neg (by simp [hx]),
        List.append_nil]
    have hFirst : (others p l).1 = (others p l').1 := by rw [← hTake l, ← hTake l', h]
    have hSecond : (others p l).2 = (others p l').2 := by
      rw [put, put, hFirst] at h
      exact (List.cons.inj (List.append_cancel_left h)).2
    exact Prod.ext hFirst hSecond
  · intro h
    rw [put, put, h]

/-- A `flatMap` to one value each keeps the positions. -/
theorem getElem?_filterMap_of_isSome {α β : Type} {f : α → Option β} {l : List α}
    (h : ∀ a ∈ l, (f a).isSome = true) (i : Nat) : (l.filterMap f)[i]? = (l[i]?).bind f := by
  induction l generalizing i with
  | nil => simp
  | cons a l ih =>
    obtain ⟨b, hb⟩ := Option.isSome_iff_exists.mp (h a List.mem_cons_self)
    rw [List.filterMap_cons_some hb]
    cases i with
    | zero => simp [hb]
    | succ i => simpa using ih (fun x hx => h x (List.mem_cons_of_mem a hx)) i

theorem modify_findIdx_split {α : Type} {p : α → Bool} (f : α → α) {l : List α}
    (h : ∃ x ∈ l, p x = true) :
    ∃ before x after, l = before ++ x :: after ∧ p x = true ∧
      l.modify (l.findIdx p) f = before ++ f x :: after := by
  induction l with
  | nil => simp at h
  | cons a l ih =>
    rw [List.findIdx_cons]
    cases ha : p a with
    | true => exact ⟨[], a, l, rfl, ha, rfl⟩
    | false =>
      have hRest : ∃ x ∈ l, p x = true := by simpa [ha] using h
      obtain ⟨before, x, after, hList, hx, hModify⟩ := ih hRest
      refine ⟨a :: before, x, after, by rw [hList, List.cons_append], hx, ?_⟩
      simpa using hModify

theorem forall₂_mapIdx {α β : Type} {R : α → β → Prop} {P : α → Prop} {l : List α}
    {f : Nat → α → β} (h : ∀ i, ∀ a ∈ l, R a (f i a) ↔ P a) :
    List.Forall₂ R l (l.mapIdx f) ↔ ∀ a ∈ l, P a := by
  induction l generalizing f with
  | nil => simp
  | cons a l ih =>
    rw [List.mapIdx_cons, List.forall₂_cons, h 0 a List.mem_cons_self, List.forall_mem_cons]
    exact and_congr_right fun _ => ih fun i b hb => h (i + 1) b (List.mem_cons_of_mem _ hb)

variable {κ β : Type} [BEq κ] [LawfulBEq κ] {l : List (κ × β)}

theorem mem_of_lookup {key : κ} {value : β} (h : l.lookup key = some value) : (key, value) ∈ l := by
  obtain ⟨before, after, rfl, -⟩ := List.lookup_eq_some_iff.mp h
  exact List.mem_append_right _ List.mem_cons_self

/-- Where keys are different, each value is found by its key. -/
theorem lookup_of_mem (hNodup : (l.map (·.1)).Nodup) {entry : κ × β} (h : entry ∈ l) :
    l.lookup entry.1 = some entry.2 := by
  obtain ⟨before, after, rfl⟩ := List.append_of_mem h
  refine List.lookup_eq_some_iff.mpr ⟨before, after, rfl, fun other hOther => ?_⟩
  rw [List.map_append, List.nodup_append'] at hNodup
  rw [bne_iff_ne]
  intro hSame
  exact hNodup.2.2 (List.mem_map_of_mem hOther) (hSame ▸ List.mem_cons_self)

end Js

/-! Rules that are tried in order. The first one that applies decides, and a rule that none applies
to is allowed. -/
namespace Js

variable {α : Type} {applies applies' allows : α → Bool} {l l' : List α} {a : α}

theorem find?_filter_of_forall {kept : α → Bool}
    (h : ∀ a ∈ l, applies a = (kept a && applies' a)) :
    (l.filter kept).find? applies' = l.find? applies := by
  induction l with
  | nil => rfl
  | cons a l ih =>
    have hRest := ih fun b hb => h b (List.mem_cons_of_mem a hb)
    have hApplies := h a List.mem_cons_self
    cases hKept : kept a with
    | true =>
      rw [hKept, Bool.true_and] at hApplies
      rw [List.filter_cons_of_pos hKept, List.find?_cons, List.find?_cons, hRest, hApplies]
    | false =>
      rw [hKept, Bool.false_and] at hApplies
      rw [List.filter_cons_of_neg (by simp [hKept]),
        List.find?_cons_of_neg (by simp [hApplies]), hRest]

def firstAllows (applies allows : α → Bool) (l : List α) : Bool := (l.find? applies).all allows

theorem firstAllows_cons :
    firstAllows applies allows (a :: l) =
      if applies a then allows a else firstAllows applies allows l := by
  cases h : applies a <;> simp [firstAllows, h]

theorem firstAllows_append :
    firstAllows applies allows (l ++ l') =
      if l.any applies then firstAllows applies allows l else firstAllows applies allows l' := by
  induction l with
  | nil => rfl
  | cons a l ih =>
    rw [List.cons_append, firstAllows_cons, firstAllows_cons, ih, List.any_cons]
    cases applies a <;> simp

theorem firstAllows_of_forall (h : ∀ a ∈ l, applies a = true → allows a = true) :
    firstAllows applies allows l := by
  rw [firstAllows, Option.all_eq_true]
  intro a ha
  exact h a (List.mem_of_find?_eq_some ha) (List.find?_some ha)

theorem firstAllows_eq_false_of_forall (h : ∀ a ∈ l, allows a = false) :
    firstAllows applies allows l = !l.any applies := by
  induction l with
  | nil => rfl
  | cons a l ih =>
    rw [firstAllows_cons, ih fun b hb => h b (List.mem_cons_of_mem a hb),
      h a List.mem_cons_self, List.any_cons]
    cases applies a <;> simp

theorem firstAllows_mono {allows' : α → Bool} (h : ∀ a ∈ l, allows a = true → allows' a = true)
    (hAllows : firstAllows applies allows l) : firstAllows applies allows' l := by
  rw [firstAllows, Option.all_eq_true] at hAllows ⊢
  intro a ha
  exact h a (List.mem_of_find?_eq_some ha) (hAllows a ha)

theorem findSome?_filter {f : α → Option β} {p : α → Bool} {b : β} (h : l.findSome? f = some b)
    (hKept : ∀ a, f a = some b → p a = true) : (l.filter p).findSome? f = some b := by
  induction l with
  | nil => cases h
  | cons a l ih =>
    rw [List.findSome?_cons] at h
    cases hHead : f a with
    | some b' =>
      rw [hHead] at h
      cases h
      rw [List.filter_cons_of_pos (hKept a hHead), List.findSome?_cons, hHead]
    | none =>
      rw [hHead] at h
      cases hp : p a with
      | true =>
        rw [List.filter_cons_of_pos hp, List.findSome?_cons, hHead]
        exact ih h
      | false =>
        rw [List.filter_cons_of_neg (by simp [hp])]
        exact ih h

theorem findSome?_filter_eq_none {f : α → Option β} {p : α → Bool} (h : l.findSome? f = none) :
    (l.filter p).findSome? f = none := by
  rw [List.findSome?_eq_none_iff] at h ⊢
  exact fun a ha => h a (List.mem_filter.mp ha).1

theorem findSome?_narrowed {f : α → Option β} {p : β → Bool} {b : β} (h : l.findSome? f = some b)
    (hKept : p b) : l.findSome? (fun a => (f a).filter p) = some b := by
  induction l with
  | nil => cases h
  | cons a l ih =>
    rw [List.findSome?_cons] at h ⊢
    cases hHead : f a with
    | some b' =>
      rw [hHead] at h
      cases h
      simp [Option.filter, hKept]
    | none =>
      rw [hHead] at h
      exact ih h

theorem findSome?_eq_some_of_forall {f : α → Option β} {b : β}
    (hAll : ∀ a ∈ l, f a = none ∨ f a = some b) (hSome : ∃ a ∈ l, f a = some b) :
    l.findSome? f = some b := by
  cases hFound : l.findSome? f with
  | none =>
    obtain ⟨a, ha, hEq⟩ := hSome
    rw [List.findSome?_eq_none_iff.mp hFound a ha] at hEq
    cases hEq
  | some found =>
    obtain ⟨a, ha, hEq⟩ := List.exists_of_findSome?_eq_some hFound
    rcases hAll a ha with hNone | hSame
    · rw [hNone] at hEq
      cases hEq
    · exact hEq.symm.trans hSame

end Js
