import EsosWebui.Js.Text
import Mathlib.Algebra.BigOperators.Group.List.Basic
import Mathlib.Algebra.Ring.Int.Defs

/-! Absolute paths, and the directory that is reached along one. -/
namespace Posix

open Js

def parentSegment : Text := "..".toList

/-- The parts of a path, without those that stand for the directory itself. -/
def segments (path : Text) : List Text := (path.splitOn '/').filter fun s => s ≠ [] ∧ s ≠ ['.']

def enter (dir : List Text) (segment : Text) : List Text :=
  if segment = parentSegment then dir.dropLast else dir ++ [segment]

/-- The directory that a walk from the root ends in, as the names on the way to it. -/
def walk (steps : List Text) : List Text := steps.foldl enter []

def resolve (path : Text) : List Text := walk (segments path)

theorem walk_concat (steps : List Text) (s : Text) : walk (steps ++ [s]) = enter (walk steps) s := by
  rw [walk, List.foldl_concat]
  rfl

def climb (s : Text) : Int := if s = parentSegment then -1 else 1

/-- How many more names than parents there are. -/
def height (steps : List Text) : Int := (steps.map climb).sum

@[simp] theorem height_concat (steps : List Text) (s : Text) :
    height (steps ++ [s]) = height steps + climb s := by
  rw [height, List.map_append, List.sum_append, List.map_singleton, List.sum_singleton]
  rfl

/-- The walk never goes above the directory that it begins in. -/
def StaysBelow (steps : List Text) : Prop := ∀ before, before <+: steps → 0 ≤ height before

/-- No name is left that a parent after it does not cancel. -/
def EndsAtRoot (steps : List Text) : Prop := ∀ rest, rest <:+ steps → height rest ≤ 0

theorem staysBelow_concat_iff (steps : List Text) (s : Text) :
    StaysBelow (steps ++ [s]) ↔ StaysBelow steps ∧ 0 ≤ height steps + climb s := by
  constructor
  · intro h
    refine ⟨fun before hBefore => h before (hBefore.trans (List.prefix_append _ _)), ?_⟩
    rw [← height_concat]
    exact h _ (List.prefix_refl _)
  · rintro ⟨hSteps, hLast⟩ before hBefore
    rcases List.prefix_concat_iff.mp hBefore with rfl | hShort
    · rwa [height_concat]
    · exact hSteps before hShort

theorem length_walk {steps : List Text} (h : StaysBelow steps) :
    ((walk steps).length : Int) = height steps := by
  induction steps using List.reverseRecOn with
  | nil => rfl
  | append_singleton steps s ih =>
    obtain ⟨hSteps, hLast⟩ := (staysBelow_concat_iff steps s).mp h
    have hLength := ih hSteps
    rw [walk_concat, height_concat, enter]
    rw [climb] at hLast ⊢
    split
    · rw [if_pos (by assumption)] at hLast
      rw [List.length_dropLast]
      omega
    · rw [List.length_append, List.length_singleton]
      omega

theorem foldl_enter {steps : List Text} (h : StaysBelow steps) (dir : List Text) :
    steps.foldl enter dir = dir ++ walk steps := by
  induction steps using List.reverseRecOn with
  | nil => exact (List.append_nil dir).symm
  | append_singleton steps s ih =>
    obtain ⟨hSteps, hLast⟩ := (staysBelow_concat_iff steps s).mp h
    rw [List.foldl_concat, ih hSteps, walk_concat, enter, enter]
    rw [climb] at hLast
    split
    · rw [if_pos (by assumption), ← length_walk hSteps] at hLast
      have hNames : walk steps ≠ [] := by
        intro hNil
        rw [hNil] at hLast
        exact absurd hLast (by decide)
      rw [List.dropLast_append_of_ne_nil hNames]
    · rw [List.append_assoc]

theorem walk_append {before after : List Text} (h : StaysBelow after) :
    walk (before ++ after) = walk before ++ walk after := by
  rw [walk, List.foldl_append, ← walk, foldl_enter h]

theorem length_walk_eq_max (steps : List Text) :
    (∀ rest, rest <:+ steps → height rest ≤ (walk steps).length) ∧
      ∃ rest, rest <:+ steps ∧ height rest = (walk steps).length := by
  induction steps using List.reverseRecOn with
  | nil =>
    refine ⟨fun rest hRest => ?_, [], List.suffix_refl _, rfl⟩
    rw [List.suffix_nil.mp hRest]
    exact le_refl _
  | append_singleton steps s ih =>
    obtain ⟨hBound, top, hTop, hHeight⟩ := ih
    have hLength : ((walk (steps ++ [s])).length : Int) =
        max 0 ((walk steps).length + climb s) := by
      rw [walk_concat, enter, climb]
      split
      · rw [List.length_dropLast]
        omega
      · rw [List.length_append, List.length_singleton]
        omega
    rw [hLength]
    constructor
    · intro rest hRest
      rcases List.suffix_concat_iff.mp hRest with rfl | ⟨tail, rfl, hTail⟩
      · exact le_max_left _ _
      · rw [height_concat]
        exact le_max_of_le_right (Int.add_le_add_right (hBound tail hTail) _)
    · rcases le_total 0 (((walk steps).length : Int) + climb s) with hUp | hDown
      · refine ⟨top ++ [s], List.suffix_concat_iff.mpr (Or.inr ⟨top, rfl, hTop⟩), ?_⟩
        rw [height_concat, hHeight, max_eq_right hUp]
      · exact ⟨[], List.nil_suffix, (max_eq_left hDown).symm⟩

theorem walk_eq_nil_iff (steps : List Text) : walk steps = [] ↔ EndsAtRoot steps := by
  obtain ⟨hBound, top, hTop, hHeight⟩ := length_walk_eq_max steps
  constructor
  · intro hNil rest hRest
    have hRestBound := hBound rest hRest
    rwa [hNil] at hRestBound
  · intro hRoot
    have hLow := hRoot top hTop
    rw [hHeight] at hLow
    exact List.length_eq_zero_iff.mp (by omega)

/-- The names lead into one another: what stands before a name ends at the root of the walk to
it, and what stands after it stays below. -/
def Enters : List Text → List Text → Prop
  | [], _ => True
  | name :: base, steps =>
    ∃ before after, steps = before ++ name :: after ∧ EndsAtRoot before ∧ StaysBelow after ∧
      Enters base after

theorem exists_entry {steps rest : List Text} {name : Text} (h : walk steps = name :: rest) :
    ∃ before after, steps = before ++ name :: after ∧ EndsAtRoot before ∧ StaysBelow after ∧
      walk after = rest := by
  induction steps using List.reverseRecOn generalizing rest with
  | nil => exact absurd h (List.cons_ne_nil _ _).symm
  | append_singleton steps s ih =>
    rw [walk_concat, enter] at h
    split at h
    next hParent =>
      -- the walk was one name deeper before
      have hNe : walk steps ≠ [] := by
        intro hNil
        rw [hNil] at h
        exact absurd h (List.cons_ne_nil _ _).symm
      have hSteps : walk steps = name :: (rest ++ [(walk steps).getLast hNe]) := by
        rw [← List.cons_append, ← h, List.dropLast_append_getLast]
      obtain ⟨before, after, rfl, hBefore, hAfter, hWalk⟩ := ih hSteps
      refine ⟨before, after ++ [s], by simp, hBefore, ?_, ?_⟩
      · refine (staysBelow_concat_iff after s).mpr ⟨hAfter, ?_⟩
        rw [← length_walk hAfter, hWalk, climb, if_pos hParent, List.length_append,
          List.length_singleton]
        omega
      · rw [walk_concat, enter, if_pos hParent, hWalk, List.dropLast_concat]
    next hName =>
      cases hDir : walk steps with
      | nil =>
        rw [hDir] at h
        obtain ⟨rfl, rfl⟩ := List.cons.inj h
        refine ⟨steps, [], rfl, (walk_eq_nil_iff steps).mp hDir, ?_, rfl⟩
        intro before hBefore
        rw [List.prefix_nil.mp hBefore]
        exact le_refl _
      | cons first dir =>
        rw [hDir, List.cons_append] at h
        obtain ⟨rfl, rfl⟩ := List.cons.inj h
        obtain ⟨before, after, rfl, hBefore, hAfter, hWalk⟩ := ih hDir
        refine ⟨before, after ++ [s], by simp, hBefore, ?_, ?_⟩
        · refine (staysBelow_concat_iff after s).mpr ⟨hAfter, ?_⟩
          rw [← length_walk hAfter, climb, if_neg hName]
          omega
        · rw [walk_concat, enter, if_neg hName, hWalk]

theorem prefix_walk_iff {base : List Text} (hNames : parentSegment ∉ base) (steps : List Text) :
    base <+: walk steps ↔ Enters base steps := by
  induction base generalizing steps with
  | nil => exact iff_of_true List.nil_prefix trivial
  | cons name base ih =>
    rw [List.mem_cons, not_or] at hNames
    obtain ⟨hName, hBase⟩ := hNames
    constructor
    · rintro ⟨rest, hWalk⟩
      obtain ⟨before, after, hSteps, hBefore, hAfter, hRest⟩ := exists_entry hWalk.symm
      refine ⟨before, after, hSteps, hBefore, hAfter, (ih hBase after).mp ?_⟩
      rw [hRest]
      exact List.prefix_append _ _
    · rintro ⟨before, after, rfl, hBefore, hAfter, hEnters⟩
      have hWalk : walk (before ++ name :: after) = name :: walk after := by
        rw [List.append_cons, walk_append hAfter, walk_concat, (walk_eq_nil_iff before).mpr hBefore,
          enter, if_neg (Ne.symm hName)]
        rfl
      rw [hWalk]
      exact List.cons_prefix_cons.mpr ⟨rfl, (ih hBase after).mpr hEnters⟩

end Posix
