import Mathlib.Data.List.Basic
import Mathlib.Data.List.Count

/-! Items that take paths one after the other, each by what is picked for it from what is not
taken, and a fallback for those that nothing is picked for. -/
namespace Turns

variable {δ η π : Type}

section

variable (path : η → π) (pick : List π → δ → Option η)

def assign : List π → List δ → List (Option η)
  | _, [] => []
  | taken, d :: ds =>
    match pick taken d with
    | some hit => some hit :: assign (path hit :: taken) ds
    | none => none :: assign taken ds

def takenAfter : List π → List δ → List π
  | taken, [] => taken
  | taken, d :: ds =>
    match pick taken d with
    | some hit => takenAfter (path hit :: taken) ds
    | none => takenAfter taken ds

def misses : List π → List δ → List (List π × δ)
  | _, [] => []
  | taken, d :: ds =>
    match pick taken d with
    | some hit => misses (path hit :: taken) ds
    | none => (taken, d) :: misses taken ds

/-- A second pass: who has something keeps it. -/
def retry : List π → List (δ × Option η) → List (Option η)
  | _, [] => []
  | taken, (_, some hit) :: entries => some hit :: retry taken entries
  | taken, (d, none) :: entries =>
    match pick taken d with
    | some hit => some hit :: retry (path hit :: taken) entries
    | none => none :: retry taken entries

end

def orElse (pick fallback : List π → δ → Option η) (taken : List π) (d : δ) : Option η :=
  (pick taken d).or (fallback taken d)

def without (entries : List (δ × Option η)) : List δ :=
  (entries.filter fun entry => entry.2.isNone).map Prod.fst

def resultsOf (before after : List (Option η)) : List (Option η) :=
  ((before.zip after).filter fun entry => entry.1.isNone).map Prod.snd

def twoPasses (path : η → π) (pick : List π → δ → Option η)
    (fallback : List δ → List π → δ → Option η) (counted ds : List δ) : List (Option η) :=
  let first := assign path (orElse pick (fallback counted)) [] ds
  let left := without (ds.zip first)
  if left.length ≤ 1 then first
  else retry path (orElse pick (fallback left))
    (takenAfter path (orElse pick (fallback counted)) [] ds) (ds.zip first)

variable {path : η → π} {pick : List π → δ → Option η} {taken : List π} {ds : List δ}

theorem length_assign : (assign path pick taken ds).length = ds.length := by
  induction ds generalizing taken with
  | nil => rfl
  | cons d ds ih =>
    unfold assign
    split <;> simp [ih]

theorem takenAfter_append (before after : List δ) : takenAfter path pick taken (before ++ after) =
    takenAfter path pick (takenAfter path pick taken before) after := by
  induction before generalizing taken with
  | nil => rfl
  | cons d before ih =>
    rw [List.cons_append, takenAfter, takenAfter]
    split <;> exact ih

theorem assign_append (before after : List δ) : assign path pick taken (before ++ after) =
    assign path pick taken before ++
      assign path pick (takenAfter path pick taken before) after := by
  induction before generalizing taken with
  | nil => rfl
  | cons d before ih =>
    rw [List.cons_append, assign, assign, takenAfter]
    split <;> simp [ih]

theorem misses_append (before after : List δ) : misses path pick taken (before ++ after) =
    misses path pick taken before ++
      misses path pick (takenAfter path pick taken before) after := by
  induction before generalizing taken with
  | nil => rfl
  | cons d before ih =>
    rw [List.cons_append, misses, misses, takenAfter]
    split <;> simp [ih]

theorem subset_takenAfter : taken ⊆ takenAfter path pick taken ds := by
  induction ds generalizing taken with
  | nil => exact List.Subset.refl _
  | cons d ds ih =>
    unfold takenAfter
    split
    · exact List.Subset.trans (List.subset_cons_self _ _) ih
    · exact ih

theorem subset_of_mem_misses {miss : List π × δ} (h : miss ∈ misses path pick taken ds) :
    taken ⊆ miss.1 := by
  induction ds generalizing taken with
  | nil => cases h
  | cons d ds ih =>
    unfold misses at h
    split at h
    · exact List.Subset.trans (List.subset_cons_self _ _) (ih h)
    · rcases List.mem_cons.mp h with rfl | h
      · exact List.Subset.refl _
      · exact ih h

theorem without_assign : without (ds.zip (assign path pick taken ds)) =
    (misses path pick taken ds).map Prod.snd := by
  induction ds generalizing taken with
  | nil => rfl
  | cons d ds ih =>
    unfold assign misses
    split
    · exact ih
    · exact congrArg (d :: ·) ih

theorem countP_assign_pick {fromFallback : η → Bool}
    (hPicked : ∀ taken d hit, pick taken d = some hit → fromFallback hit = false) :
    (assign path pick taken ds).countP (·.any fromFallback) = 0 := by
  induction ds generalizing taken with
  | nil => rfl
  | cons d ds ih =>
    unfold assign
    cases hPick : pick taken d with
    | some hit => simpa [hPicked taken d hit hPick] using ih
    | none => simpa using ih

variable {entries : List (δ × Option η)}

theorem countP_retry (f : Option η → Bool) (hNone : f none = false) :
    (retry path pick taken entries).countP f =
      (entries.map Prod.snd).countP f + (assign path pick taken (without entries)).countP f := by
  induction entries generalizing taken with
  | nil => rfl
  | cons entry entries ih =>
    obtain ⟨d, result⟩ := entry
    cases result with
    | some hit =>
      have hLeft : without ((d, some hit) :: entries) = without entries := rfl
      simp only [retry, hLeft, List.countP_cons, ih, List.map_cons]
      omega
    | none =>
      have hLeft : without ((d, none) :: entries) = d :: without entries := rfl
      rw [retry, hLeft, assign]
      cases pick taken d with
      | some hit =>
        simp only [List.countP_cons, List.map_cons, ih, hNone, Bool.false_eq_true, if_false]
        omega
      | none =>
        simp only [List.countP_cons, List.map_cons, ih, hNone, Bool.false_eq_true, if_false]
        omega

theorem resultsOf_retry : resultsOf (entries.map Prod.snd) (retry path pick taken entries) =
    assign path pick taken (without entries) := by
  induction entries generalizing taken with
  | nil => rfl
  | cons entry entries ih =>
    obtain ⟨d, result⟩ := entry
    cases result with
    | some hit => exact ih
    | none =>
      have hLeft : without ((d, none) :: entries) = d :: without entries := rfl
      rw [retry, hLeft, assign]
      cases pick taken d with
      | some hit => exact congrArg (some hit :: ·) ih
      | none => exact congrArg (none :: ·) ih

theorem length_retry : (retry path pick taken entries).length = entries.length := by
  induction entries generalizing taken with
  | nil => rfl
  | cons entry entries ih =>
    obtain ⟨d, result⟩ := entry
    cases result with
    | some hit => simp [retry, ih]
    | none =>
      rw [retry]
      split <;> simp [ih]

theorem getElem?_retry {i : Nat} {d : δ} {hit : η} (h : entries[i]? = some (d, some hit)) :
    (retry path pick taken entries)[i]? = some (some hit) := by
  induction entries generalizing taken i with
  | nil => cases h
  | cons entry entries ih =>
    cases i with
    | zero =>
      cases h
      rfl
    | succ i =>
      rw [List.getElem?_cons_succ] at h
      obtain ⟨d', result⟩ := entry
      cases result with
      | some hit' =>
        rw [retry, List.getElem?_cons_succ]
        exact ih h
      | none =>
        rw [retry]
        split
        · rw [List.getElem?_cons_succ]
          exact ih h
        · rw [List.getElem?_cons_succ]
          exact ih h

structure Stable (path : η → π) (pick : List π → δ → Option η) : Prop where
  fresh : ∀ {taken d hit}, pick taken d = some hit → path hit ∉ taken
  keeps : ∀ {taken taken' d hit}, pick taken d = some hit → taken ⊆ taken' →
    path hit ∉ taken' → ∃ hit', pick taken' d = some hit' ∧ path hit' = path hit

theorem isNone_assign_of_stable (hStable : Stable path pick) {taken taken' : List π} {p : π}
    (hSub : taken ⊆ taken') (hOnly : ∀ q ∈ taken', q ∈ taken ∨ q = p)
    (hFree : p ∉ takenAfter path pick taken ds)
    (hLeft : ∀ i : Nat, (assign path pick taken ds)[i]? = some none →
      (assign path pick taken' ds)[i]? = some none) :
    (assign path pick taken' ds).countP Option.isNone =
      (assign path pick taken ds).countP Option.isNone := by
  induction ds generalizing taken taken' with
  | nil => rfl
  | cons d ds ih =>
    cases hPick : pick taken d with
    | some hit =>
      rw [takenAfter, hPick] at hFree
      have hOther : path hit ≠ p := fun hSame =>
        hFree (hSame ▸ subset_takenAfter List.mem_cons_self)
      have hNew : path hit ∉ taken' := fun hIn =>
        (hOnly _ hIn).elim (hStable.fresh hPick) hOther
      obtain ⟨hit', hPick', hPath⟩ := hStable.keeps hPick hSub hNew
      rw [assign, assign, hPick, hPick'] at hLeft ⊢
      rw [List.countP_cons, List.countP_cons]
      congr 1
      apply ih _ _ hFree fun i hi => hLeft (i + 1) hi
      · rw [hPath]
        exact List.cons_subset_cons _ hSub
      · intro q hq
        rw [hPath] at hq
        rcases List.mem_cons.mp hq with rfl | hq
        · exact Or.inl List.mem_cons_self
        · exact (hOnly q hq).imp_left (List.mem_cons_of_mem _)
    | none =>
      rw [takenAfter, hPick] at hFree
      have hHere := hLeft 0 (by rw [assign, hPick]; rfl)
      cases hPick' : pick taken' d with
      | some hit' =>
        rw [assign, hPick'] at hHere
        cases hHere
      | none =>
        rw [assign, assign, hPick, hPick'] at hLeft ⊢
        rw [List.countP_cons, List.countP_cons]
        congr 1
        exact ih hSub hOnly hFree fun i hi => hLeft (i + 1) hi

theorem length_without {entries : List (δ × Option η)} : (without entries).length =
    (entries.map Prod.snd).countP Option.isNone := by
  rw [without, List.length_map, ← List.countP_eq_length_filter, List.countP_map]
  rfl

def pathsOf (path : η → π) (results : List (Option η)) : List π :=
  results.filterMap fun result => result.map path

theorem nodup_retry (hFresh : ∀ {taken d hit}, pick taken d = some hit → path hit ∉ taken)
    {taken : List π} {entries : List (δ × Option η)}
    (hKept : (pathsOf path (entries.map Prod.snd)).Nodup)
    (hTaken : pathsOf path (entries.map Prod.snd) ⊆ taken) :
    (pathsOf path (retry path pick taken entries)).Nodup ∧
      ∀ p ∈ pathsOf path (retry path pick taken entries),
        p ∈ pathsOf path (entries.map Prod.snd) ∨ p ∉ taken := by
  induction entries generalizing taken with
  | nil => exact ⟨List.nodup_nil, nofun⟩
  | cons entry entries ih =>
    obtain ⟨d, result⟩ := entry
    cases result with
    | some hit =>
      obtain ⟨hNew, hKept⟩ := List.nodup_cons.mp hKept
      obtain ⟨hHere, hTaken⟩ := List.cons_subset.mp hTaken
      obtain ⟨hNodup, hMem⟩ := ih hKept hTaken
      refine ⟨List.nodup_cons.mpr ⟨fun hIn => ?_, hNodup⟩, List.forall_mem_cons.mpr
        ⟨Or.inl List.mem_cons_self, fun p hp => (hMem p hp).imp_left (List.mem_cons_of_mem _)⟩⟩
      exact (hMem _ hIn).elim hNew fun hFree => hFree hHere
    | none =>
      rw [retry]
      cases hPick : pick taken d with
      | none => exact ih hKept hTaken
      | some hit =>
        obtain ⟨hNodup, hMem⟩ := ih hKept (List.subset_cons_of_subset _ hTaken)
        refine ⟨List.nodup_cons.mpr ⟨fun hIn => ?_, hNodup⟩, List.forall_mem_cons.mpr
          ⟨Or.inr (hFresh hPick), fun p hp =>
            (hMem p hp).imp_right fun hFree hIn => hFree (List.mem_cons_of_mem _ hIn)⟩⟩
        exact (hMem _ hIn).elim (fun hOld => hFresh hPick (hTaken hOld))
          fun hFree => hFree List.mem_cons_self

theorem assign_eq_retry (taken : List π) (ds : List δ) :
    assign path pick taken ds = retry path pick taken (ds.map (·, none)) := by
  induction ds generalizing taken with
  | nil => rfl
  | cons d ds ih =>
    rw [List.map_cons, assign, retry]
    split <;> rw [ih]

theorem pathsOf_assign_subset (taken : List π) (ds : List δ) :
    pathsOf path (assign path pick taken ds) ⊆ takenAfter path pick taken ds := by
  induction ds generalizing taken with
  | nil => exact List.nil_subset _
  | cons d ds ih =>
    unfold assign takenAfter
    split
    · exact List.cons_subset.mpr ⟨subset_takenAfter List.mem_cons_self, ih _⟩
    · exact ih _

/-- Picks of what is free only take no path twice, in two passes. -/
theorem nodup_twoPasses {fallback : List δ → List π → δ → Option η} {counted ds : List δ}
    (hPick : ∀ {taken d hit}, pick taken d = some hit → path hit ∉ taken)
    (hFallback : ∀ {counted taken d hit}, fallback counted taken d = some hit →
      path hit ∉ taken) :
    (pathsOf path (twoPasses path pick fallback counted ds)).Nodup := by
  have hFresh : ∀ {counted taken d hit}, orElse pick (fallback counted) taken d = some hit →
      path hit ∉ taken := by
    intro counted taken d hit h
    rcases Option.or_eq_some_iff.mp h with h | ⟨-, h⟩
    · exact hPick h
    · exact hFallback h
  have hNone (ds : List δ) : pathsOf path ((ds.map fun d => (d, (none : Option η))).map Prod.snd) =
      [] := by
    simp [pathsOf, Function.comp_def]
  have hFirst : (pathsOf path (assign path (orElse pick (fallback counted)) [] ds)).Nodup := by
    rw [assign_eq_retry]
    exact (nodup_retry hFresh (by rw [hNone]; exact List.nodup_nil)
      (by rw [hNone]; exact List.Subset.refl _)).1
  unfold twoPasses
  dsimp only
  split
  · exact hFirst
  · have hKept : (ds.zip (assign path (orElse pick (fallback counted)) [] ds)).map Prod.snd =
        assign path (orElse pick (fallback counted)) [] ds :=
      List.map_snd_zip (Nat.le_of_eq length_assign)
    refine (nodup_retry hFresh ?_ ?_).1
    · rwa [hKept]
    · rw [hKept]
      exact pathsOf_assign_subset _ _

end Turns
