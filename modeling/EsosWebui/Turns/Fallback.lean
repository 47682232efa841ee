import EsosWebui.Turns.Passes

/-! A fallback that gives paths while a fixed number of them is left: what it serves in one pass
and in two. -/
namespace Turns

variable {δ η π : Type}

variable {before after : List δ}

section

variable {path : η → π} {pick fallback : List π → δ → Option η} {taken : List π} {ds : List δ}

/-- The fallback gives nothing at the turns at which nothing is picked. -/
def Silent (path : η → π) (pick fallback : List π → δ → Option η) (taken : List π)
    (ds : List δ) : Prop :=
  ∀ miss ∈ misses path pick taken ds, fallback miss.1 miss.2 = none

theorem assign_of_silent (h : Silent path pick fallback taken ds) :
    assign path (orElse pick fallback) taken ds = assign path pick taken ds ∧
      takenAfter path (orElse pick fallback) taken ds = takenAfter path pick taken ds := by
  induction ds generalizing taken with
  | nil => exact ⟨rfl, rfl⟩
  | cons d ds ih =>
    unfold Silent misses at h
    unfold assign takenAfter orElse
    cases hPick : pick taken d with
    | some hit =>
      rw [hPick] at h
      obtain ⟨hAssign, hTaken⟩ := ih h
      exact ⟨congrArg (some hit :: ·) hAssign, hTaken⟩
    | none =>
      rw [hPick] at h
      obtain ⟨hHere, hRest⟩ := List.forall_mem_cons.mp h
      rw [Option.none_or, hHere]
      obtain ⟨hAssign, hTaken⟩ := ih hRest
      exact ⟨congrArg (none :: ·) hAssign, hTaken⟩

/-- The first turn at which the fallback gives something. -/
structure FirstHit (path : η → π) (pick fallback : List π → δ → Option η) (taken : List π)
    (ds before : List δ) (d : δ) (after : List δ) (hit : η) : Prop where
  split : ds = before ++ d :: after
  silent : Silent path pick fallback taken before
  missed : pick (takenAfter path pick taken before) d = none
  given : fallback (takenAfter path pick taken before) d = some hit

theorem silent_or_firstHit (path : η → π) (pick fallback : List π → δ → Option η)
    (taken : List π) (ds : List δ) : Silent path pick fallback taken ds ∨
      ∃ before d after hit, FirstHit path pick fallback taken ds before d after hit := by
  induction ds generalizing taken with
  | nil => exact Or.inl fun miss hMiss => absurd hMiss List.not_mem_nil
  | cons d ds ih =>
    have hNow {hit : η} (hPick : pick taken d = none) (hGiven : fallback taken d = some hit) :
        FirstHit path pick fallback taken (d :: ds) [] d ds hit :=
      ⟨rfl, fun miss hMiss => absurd hMiss List.not_mem_nil, hPick, hGiven⟩
    cases hPick : pick taken d with
    | some hit =>
      have hStep (ds : List δ) : misses path pick taken (d :: ds) =
          misses path pick (path hit :: taken) ds := by rw [misses, hPick]
      rcases ih (path hit :: taken) with hSilent | ⟨before, d', after, hit', h⟩
      · left
        rw [Silent, hStep]
        exact hSilent
      · right
        have hTaken : takenAfter path pick taken (d :: before) =
            takenAfter path pick (path hit :: taken) before := by rw [takenAfter, hPick]
        refine ⟨d :: before, d', after, hit', by rw [h.split, List.cons_append], ?_, ?_, ?_⟩
        · rw [Silent, hStep]
          exact h.silent
        · rw [hTaken]
          exact h.missed
        · rw [hTaken]
          exact h.given
    | none =>
      cases hGiven : fallback taken d with
      | some hit => exact Or.inr ⟨[], d, ds, hit, hNow hPick hGiven⟩
      | none =>
        have hStep (ds : List δ) : misses path pick taken (d :: ds) =
            (taken, d) :: misses path pick taken ds := by rw [misses, hPick]
        rcases ih taken with hSilent | ⟨before, d', after, hit', h⟩
        · left
          rw [Silent, hStep]
          exact List.forall_mem_cons.mpr ⟨hGiven, hSilent⟩
        · right
          have hTaken : takenAfter path pick taken (d :: before) =
              takenAfter path pick taken before := by rw [takenAfter, hPick]
          refine ⟨d :: before, d', after, hit', by rw [h.split, List.cons_append], ?_, ?_, ?_⟩
          · rw [Silent, hStep]
            exact List.forall_mem_cons.mpr ⟨hGiven, h.silent⟩
          · rw [hTaken]
            exact h.missed
          · rw [hTaken]
            exact h.given

/-- The fallback gives paths that are not taken, while a fixed number of them is left. -/
structure Counted [DecidableEq π] (path : η → π) (fallback : List π → δ → Option η)
    (paths : List π) (count : Nat) : Prop where
  mem : ∀ {taken d hit}, fallback taken d = some hit → path hit ∈ paths ∧ path hit ∉ taken
  count : ∀ {taken d hit}, fallback taken d = some hit →
    (paths.filter fun p => p ∉ taken).length = count

variable [DecidableEq π] {paths : List π} {count : Nat}

/-- What it gives changes the number, so that it gives nothing more. -/
theorem Counted.silent_after (h : Counted path fallback paths count) {d : δ} {hit : η}
    (hGiven : fallback taken d = some hit) {taken' : List π} (hTaken : path hit :: taken ⊆ taken')
    (d' : δ) : fallback taken' d' = none := by
  cases hAgain : fallback taken' d' with
  | none => rfl
  | some hit' =>
    have hSame := (h.count hAgain).trans (h.count hGiven).symm
    have hFilter : paths.filter (fun p => p ∉ taken') =
        (paths.filter fun p => p ∉ taken).filter fun p => p ∉ taken' := by
      rw [List.filter_filter]
      apply List.filter_congr
      intro p _
      by_cases hp : p ∈ taken'
      · simp [hp]
      · have hp' : p ∉ taken := fun hIn => hp (hTaken (List.mem_cons_of_mem _ hIn))
        simp [hp, hp']
    obtain ⟨hMem, hNew⟩ := h.mem hGiven
    have hLess : ((paths.filter fun p => p ∉ taken).filter fun p => p ∉ taken').length <
        (paths.filter fun p => p ∉ taken).length := by
      rw [List.length_filter_lt_length_iff_exists]
      refine ⟨path hit, List.mem_filter.mpr ⟨hMem, by simpa using hNew⟩, ?_⟩
      have hIn : path hit ∈ taken' := hTaken List.mem_cons_self
      simpa using hIn
    rw [← hFilter, hSame] at hLess
    exact absurd hLess (Nat.lt_irrefl _)

theorem FirstHit.assign_eq (hCounted : Counted path fallback paths count) {d : δ} {hit : η}
    (h : FirstHit path pick fallback taken ds before d after hit) :
    assign path (orElse pick fallback) taken ds =
      assign path pick taken before ++ some hit ::
        assign path pick (path hit :: takenAfter path pick taken before) after ∧
    takenAfter path (orElse pick fallback) taken ds =
      takenAfter path pick (path hit :: takenAfter path pick taken before) after := by
  obtain ⟨hBefore, hTaken⟩ := assign_of_silent h.silent
  have hHere : orElse pick fallback (takenAfter path pick taken before) d = some hit := by
    rw [orElse, h.missed, Option.none_or, h.given]
  have hAfter : Silent path pick fallback
      (path hit :: takenAfter path pick taken before) after := fun miss hMiss =>
    hCounted.silent_after h.given (subset_of_mem_misses hMiss) _
  obtain ⟨hRest, hTakenRest⟩ := assign_of_silent hAfter
  constructor
  · rw [h.split, assign_append, hBefore, hTaken, assign, hHere]
    exact congrArg (_ ++ some hit :: ·) hRest
  · rw [h.split, takenAfter_append, hTaken, takenAfter, hHere]
    exact hTakenRest

/-- Results of which it shows whether they come from the fallback. -/
structure Marked (fromFallback : η → Bool) (pick fallback : List π → δ → Option η) : Prop where
  picked : ∀ {taken d hit}, pick taken d = some hit → fromFallback hit = false
  given : ∀ {taken d hit}, fallback taken d = some hit → fromFallback hit = true

variable {fromFallback : η → Bool}

theorem countP_assign_le (hMarked : Marked fromFallback pick fallback)
    (hCounted : Counted path fallback paths count) :
    (assign path (orElse pick fallback) taken ds).countP (·.any fromFallback) ≤ 1 := by
  have hPicked (taken : List π) (d : δ) (hit : η) (h : pick taken d = some hit) :
      fromFallback hit = false := hMarked.picked h
  rcases silent_or_firstHit path pick fallback taken ds with hSilent |
    ⟨before, d, after, hit, hFirst⟩
  · rw [(assign_of_silent hSilent).1, countP_assign_pick hPicked]
    exact Nat.zero_le 1
  · rw [(hFirst.assign_eq hCounted).1, List.countP_append, countP_assign_pick hPicked,
      List.countP_cons, countP_assign_pick hPicked]
    split <;> omega

end

section

variable {before after : List (Option η)}

theorem mem_resultsOf {result : Option η} : result ∈ resultsOf before after ↔
    ∃ i : Nat, before[i]? = some none ∧ after[i]? = some result := by
  constructor
  · intro h
    obtain ⟨⟨was, is⟩, hEntry, rfl⟩ := List.mem_map.mp h
    obtain ⟨hZip, hNone⟩ := List.mem_filter.mp hEntry
    obtain ⟨i, hi⟩ := List.mem_iff_getElem?.mp hZip
    obtain ⟨hWas, hIs⟩ := List.getElem?_zip_eq_some.mp hi
    rw [Option.isNone_iff_eq_none.mp hNone] at hWas
    exact ⟨i, hWas, hIs⟩
  · rintro ⟨i, hWas, hIs⟩
    have hZip : (none, result) ∈ before.zip after :=
      List.mem_iff_getElem?.mpr ⟨i, List.getElem?_zip_eq_some.mpr ⟨hWas, hIs⟩⟩
    exact List.mem_map.mpr ⟨(none, result), List.mem_filter.mpr ⟨hZip, rfl⟩, rfl⟩

theorem countP_resultsOf_le (f : Option η → Bool) (hLength : before.length = after.length) :
    (resultsOf before after).countP f ≤ after.countP f := by
  have hSnd : (before.zip after).map Prod.snd = after :=
    List.map_snd_zip (Nat.le_of_eq hLength.symm)
  have hSub : (resultsOf before after).Sublist after := by
    have hMap := (List.filter_sublist (l := before.zip after)
      (p := fun entry => entry.1.isNone)).map Prod.snd
    rwa [hSnd] at hMap
  exact hSub.countP_le

theorem length_resultsOf (hLength : before.length = after.length) :
    (resultsOf before after).length = before.countP Option.isNone := by
  have hFst : (before.zip after).map Prod.fst = before :=
    List.map_fst_zip (Nat.le_of_eq hLength)
  rw [resultsOf, List.length_map, ← List.countP_eq_length_filter, ← hFst, List.countP_map, hFst]
  rfl

end

variable {fromFallback : η → Bool}

variable {path : η → π} {pick : List π → δ → Option η} {fallback : List δ → List π → δ → Option η}
  {counted ds : List δ}

theorem countP_isNone_assign {taken : List π} : (assign path pick taken ds).countP Option.isNone =
    (misses path pick taken ds).length := by
  induction ds generalizing taken with
  | nil => rfl
  | cons d ds ih =>
    unfold assign misses
    split
    · simpa using ih
    · simpa using ih

theorem length_twoPasses : (twoPasses path pick fallback counted ds).length = ds.length := by
  unfold twoPasses
  dsimp only
  split
  · exact length_assign
  · rw [length_retry, List.length_zip, length_assign, Nat.min_self]

/-- What the first pass gives is kept. -/
theorem getElem?_twoPasses {i : Nat} {hit : η}
    (h : (assign path (orElse pick (fallback counted)) [] ds)[i]? = some (some hit)) :
    (twoPasses path pick fallback counted ds)[i]? = some (some hit) := by
  unfold twoPasses
  dsimp only
  split
  · exact h
  · obtain ⟨hi, -⟩ := List.getElem?_eq_some_iff.mp h
    rw [length_assign] at hi
    have hItem : ds[i]? = some (ds[i]) := List.getElem?_eq_getElem hi
    exact getElem?_retry (List.getElem?_zip_eq_some.mpr ⟨hItem, h⟩)

def leftResults (path : η → π) (pick : List π → δ → Option η)
    (fallback : List δ → List π → δ → Option η) (counted ds : List δ) : List (Option η) :=
  resultsOf (assign path pick [] ds) (twoPasses path pick fallback counted ds)

theorem length_leftResults : (leftResults path pick fallback counted ds).length =
    (misses path pick [] ds).length := by
  rw [leftResults, length_resultsOf (by rw [length_assign, length_twoPasses]),
    countP_isNone_assign]

section

variable {before after : List δ} {d : δ} {hit : η} {n : Nat}

theorem FirstHit.misses_eq (h : FirstHit path pick (fallback counted) [] ds before d after hit) :
    misses path pick [] ds = misses path pick [] before ++
      (takenAfter path pick [] before, d) ::
        misses path pick (takenAfter path pick [] before) after := by
  rw [h.split, misses_append, misses, h.missed]

theorem FirstHit.assign_pick_eq
    (h : FirstHit path pick (fallback counted) [] ds before d after hit) :
    assign path pick [] ds = assign path pick [] before ++
      none :: assign path pick (takenAfter path pick [] before) after := by
  rw [h.split, assign_append, assign, h.missed]

theorem FirstHit.mem_leftResults [DecidableEq π] {paths : List π}
    (hCounted : Counted path (fallback counted) paths n)
    (h : FirstHit path pick (fallback counted) [] ds before d after hit) :
    some hit ∈ leftResults path pick fallback counted ds := by
  have hIndex {l m : List (Option η)} {x : Option η} (hLength : l.length = before.length) :
      (l ++ x :: m)[before.length]? = some x := by
    rw [← hLength]
    simp
  refine mem_resultsOf.mpr ⟨before.length, ?_, getElem?_twoPasses ?_⟩
  · rw [h.assign_pick_eq]
    exact hIndex length_assign
  · rw [(h.assign_eq hCounted).1]
    exact hIndex length_assign

end

theorem FirstHit.not_silent {d : δ} {hit : η} {fallback : List π → δ → Option η} {taken : List π}
    (h : FirstHit path pick fallback taken ds before d after hit) :
    ¬ Silent path pick fallback taken ds := by
  intro hSilent
  have hMem : (takenAfter path pick taken before, d) ∈ misses path pick taken ds := by
    rw [h.split, misses_append, misses, h.missed]
    exact List.mem_append_right _ List.mem_cons_self
  have hNone := hSilent _ hMem
  rw [h.given] at hNone
  cases hNone

/-- When nothing comes from the fallback in the first pass, the second one is over what it left. -/
theorem leftResults_of_silent (hSilent : Silent path pick (fallback counted) [] ds) :
    leftResults path pick fallback counted ds =
      if (misses path pick [] ds).length ≤ 1 then
        List.replicate (misses path pick [] ds).length none
      else assign path (orElse pick (fallback ((misses path pick [] ds).map Prod.snd)))
        (takenAfter path pick [] ds) ((misses path pick [] ds).map Prod.snd) := by
  obtain ⟨hFirst, hTaken⟩ := assign_of_silent hSilent
  have hEntries : (ds.zip (assign path pick [] ds)).map Prod.snd = assign path pick [] ds :=
    List.map_snd_zip (Nat.le_of_eq length_assign)
  unfold leftResults twoPasses
  dsimp only
  rw [hFirst, hTaken, without_assign, List.length_map]
  split
  · apply List.eq_replicate_iff.mpr
    constructor
    · rw [length_resultsOf rfl, countP_isNone_assign]
    · intro result hResult
      obtain ⟨i, hWas, hIs⟩ := mem_resultsOf.mp hResult
      exact (Option.some.inj (hIs.symm.trans hWas))
  · have hRetry := @resultsOf_retry δ η π path
      (orElse pick (fallback ((misses path pick [] ds).map Prod.snd))) (takenAfter path pick [] ds)
      (ds.zip (assign path pick [] ds))
    rwa [hEntries, without_assign] at hRetry

variable [DecidableEq π] {paths : List π}

theorem leftResults_of_one {miss : List π × δ} {n : Nat}
    (hCounted : Counted path (fallback counted) paths n)
    (hOne : misses path pick [] ds = [miss]) :
    leftResults path pick fallback counted ds = [fallback counted miss.1 miss.2] := by
  have hLength : (leftResults path pick fallback counted ds).length = 1 := by
    rw [length_leftResults, hOne, List.length_singleton]
  obtain ⟨result, hResult⟩ := List.length_eq_one_iff.mp hLength
  rcases silent_or_firstHit path pick (fallback counted) [] ds with hSilent |
    ⟨before, d, after, hit, hFirst⟩
  · rw [leftResults_of_silent hSilent, hOne, hSilent miss (hOne ▸ List.mem_cons_self)]
    rfl
  · have hMem := hFirst.mem_leftResults hCounted
    have hMisses := hFirst.misses_eq
    rw [hOne] at hMisses
    have hHere : miss = (takenAfter path pick [] before, d) := by
      cases hBefore : misses path pick [] before with
      | nil =>
        rw [hBefore, List.nil_append] at hMisses
        exact (List.cons.inj hMisses).1
      | cons first rest =>
        rw [hBefore] at hMisses
        have hLengths := congrArg List.length hMisses
        simp at hLengths
    rw [hResult, List.mem_singleton] at hMem
    rw [hResult, ← hMem, hHere, hFirst.given]

theorem assign_fromFallback_iff {fallback : List π → δ → Option η} {taken : List π} {n : Nat}
    (hMarked : Marked fromFallback pick fallback) (hCounted : Counted path fallback paths n) :
    (∀ result ∈ assign path (orElse pick fallback) taken ds,
      result.any fromFallback = false) ↔ Silent path pick fallback taken ds := by
  rcases silent_or_firstHit path pick fallback taken ds with hSilent |
    ⟨before, d, after, hit, hFirst⟩
  · refine iff_of_true (fun result hResult => ?_) hSilent
    rw [(assign_of_silent hSilent).1] at hResult
    have hZero : (assign path pick taken ds).countP (·.any fromFallback) = 0 :=
      countP_assign_pick fun _ _ _ h => hMarked.picked h
    simpa using List.countP_eq_zero.mp hZero result hResult
  · refine iff_of_false (fun hAll => ?_) hFirst.not_silent
    have hMem : some hit ∈ assign path (orElse pick fallback) taken ds := by
      rw [(hFirst.assign_eq hCounted).1]
      exact List.mem_append_right _ List.mem_cons_self
    have hNot := hAll _ hMem
    rw [Option.any_some, hMarked.given hFirst.given] at hNot
    cases hNot

theorem none_fromFallback_iff (hMarked : ∀ left, Marked fromFallback pick (fallback left))
    (hCounted : ∀ left, Counted path (fallback left) paths left.length) :
    (∀ result ∈ leftResults path pick fallback counted ds, result.any fromFallback = false) ↔
      Silent path pick (fallback counted) [] ds ∧
        (2 ≤ (misses path pick [] ds).length →
          Silent path pick (fallback ((misses path pick [] ds).map Prod.snd))
            (takenAfter path pick [] ds) ((misses path pick [] ds).map Prod.snd)) := by
  rcases silent_or_firstHit path pick (fallback counted) [] ds with hSilent |
    ⟨before, d, after, hit, hFirst⟩
  · rw [leftResults_of_silent hSilent]
    split
    · refine iff_of_true (fun result hResult => ?_) ⟨hSilent, fun hMany => by omega⟩
      rw [(List.mem_replicate.mp hResult).2]
      rfl
    · rw [assign_fromFallback_iff (hMarked _) (hCounted _)]
      constructor
      · exact fun hSecond => ⟨hSilent, fun _ => hSecond⟩
      · exact fun hBoth => hBoth.2 (by omega)
  · refine iff_of_false (fun hAll => ?_) fun hBoth => hFirst.not_silent hBoth.1
    have hNot := hAll _ (hFirst.mem_leftResults (hCounted counted))
    rw [Option.any_some, (hMarked counted).given hFirst.given] at hNot
    cases hNot

theorem FirstHit.left_of_left {d : δ} {hit : η}
    (hMarked : ∀ left, Marked fromFallback pick (fallback left))
    (hCounted : ∀ left, Counted path (fallback left) paths left.length)
    (h : FirstHit path pick (fallback counted) [] ds before d after hit)
    (hAll : ∀ result ∈ leftResults path pick fallback counted ds, ∃ hit, result = some hit ∧
      fromFallback hit = true)
    (i : Nat) (hLeft : (assign path pick (takenAfter path pick [] before) after)[i]? = some none) :
    (assign path pick (path hit :: takenAfter path pick [] before) after)[i]? = some none := by
  have hIndex {l m : List (Option η)} {x : Option η} (hLength : l.length = before.length) :
      (l ++ x :: m)[before.length + (i + 1)]? = m[i]? := by
    rw [← hLength, List.getElem?_append_right (Nat.le_add_right _ _), Nat.add_sub_cancel_left,
      List.getElem?_cons_succ]
  obtain ⟨hi, -⟩ := List.getElem?_eq_some_iff.mp hLeft
  rw [length_assign] at hi
  have hBound : i < (assign path pick (path hit :: takenAfter path pick [] before) after).length :=
    by rwa [length_assign]
  cases hNow : (assign path pick (path hit :: takenAfter path pick [] before) after)[i] with
  | none => rw [List.getElem?_eq_getElem hBound, hNow]
  | some hit' =>
    have hGot : (assign path pick (path hit :: takenAfter path pick [] before) after)[i]? =
        some (some hit') := by rw [List.getElem?_eq_getElem hBound, hNow]
    have hMem : some hit' ∈ leftResults path pick fallback counted ds := by
      refine mem_resultsOf.mpr ⟨before.length + (i + 1), ?_, getElem?_twoPasses ?_⟩
      · rw [h.assign_pick_eq, hIndex length_assign, hLeft]
      · rw [(h.assign_eq (hCounted counted)).1, hIndex length_assign, hGot]
    obtain ⟨_, hSame, hFrom⟩ := hAll _ hMem
    cases hSame
    have hZero : (assign path pick (path hit :: takenAfter path pick [] before) after).countP
        (·.any fromFallback) = 0 := countP_assign_pick fun _ _ _ h => (hMarked counted).picked h
    have hNot := List.countP_eq_zero.mp hZero _ (List.mem_of_getElem? hGot)
    exact absurd hFrom hNot

/-- The fallback does not serve two items or more that are left, as each pass serves one and there
is no second pass for one item. -/
theorem not_all_fromFallback (hMarked : ∀ left, Marked fromFallback pick (fallback left))
    (hCounted : ∀ left, Counted path (fallback left) paths left.length)
    (hMany : 2 ≤ (misses path pick [] ds).length)
    (hStable : (misses path pick [] ds).length = 2 → Stable path pick) :
    ¬ ∀ result ∈ leftResults path pick fallback counted ds, ∃ hit, result = some hit ∧
      fromFallback hit = true ∧ path hit ∉ takenAfter path pick [] ds := by
  intro hAll
  have hLength := @length_leftResults δ η π path pick fallback counted ds
  have hSome : (leftResults path pick fallback counted ds).countP (·.any fromFallback) =
      (misses path pick [] ds).length := by
    rw [← hLength]
    apply List.countP_eq_length.mpr
    intro result hResult
    obtain ⟨hit, rfl, hHit, -⟩ := hAll result hResult
    exact hHit
  have hLe : (leftResults path pick fallback counted ds).countP (·.any fromFallback) ≤
      (twoPasses path pick fallback counted ds).countP (·.any fromFallback) :=
    countP_resultsOf_le _ (by rw [length_assign, length_twoPasses])
  rw [hSome] at hLe
  have hFirstPass : (assign path (orElse pick (fallback counted)) [] ds).countP
      (·.any fromFallback) ≤ 1 := countP_assign_le (hMarked counted) (hCounted counted)
  have hEntries : (ds.zip (assign path (orElse pick (fallback counted)) [] ds)).map Prod.snd =
      assign path (orElse pick (fallback counted)) [] ds :=
    List.map_snd_zip (Nat.le_of_eq length_assign)
  by_cases hFew : (without (ds.zip (assign path (orElse pick (fallback counted)) [] ds))).length ≤ 1
  · have hSame : twoPasses path pick fallback counted ds =
        assign path (orElse pick (fallback counted)) [] ds := if_pos hFew
    rw [hSame] at hLe
    omega
  · have hSecond : twoPasses path pick fallback counted ds =
        retry path (orElse pick (fallback (without (ds.zip
          (assign path (orElse pick (fallback counted)) [] ds)))))
          (takenAfter path (orElse pick (fallback counted)) [] ds)
          (ds.zip (assign path (orElse pick (fallback counted)) [] ds)) := if_neg hFew
    have hSecondPass (taken : List π) (left : List δ) :
        (assign path (orElse pick (fallback left)) taken left).countP (·.any fromFallback) ≤ 1 :=
      countP_assign_le (hMarked left) (hCounted left)
    rw [hSecond, countP_retry _ rfl, hEntries] at hLe
    have hTwo : (misses path pick [] ds).length = 2 := by
      have hSecondOne := hSecondPass (takenAfter path (orElse pick (fallback counted)) [] ds)
        (without (ds.zip (assign path (orElse pick (fallback counted)) [] ds)))
      omega
    rw [length_without, hEntries] at hFew
    have hNones : (assign path pick [] ds).countP Option.isNone = 2 :=
      countP_isNone_assign.trans hTwo
    rcases silent_or_firstHit path pick (fallback counted) [] ds with hSilent |
      ⟨before, d, after, hit, hFirst⟩
    · have hZero : (assign path pick [] ds).countP (·.any fromFallback) = 0 :=
        countP_assign_pick fun _ _ _ h => (hMarked counted).picked h
      rw [← (assign_of_silent hSilent).1] at hZero
      have hSecondOne := hSecondPass (takenAfter path (orElse pick (fallback counted)) [] ds)
        (without (ds.zip (assign path (orElse pick (fallback counted)) [] ds)))
      omega
    · obtain ⟨hit', hHit, -, hFree⟩ := hAll _ (hFirst.mem_leftResults (hCounted counted))
      cases hHit
      have hTaken : takenAfter path pick [] ds =
          takenAfter path pick (takenAfter path pick [] before) after := by
        rw [hFirst.split, takenAfter_append, takenAfter, hFirst.missed]
      rw [hTaken] at hFree
      have hServed : ∀ result ∈ leftResults path pick fallback counted ds, ∃ hit,
          result = some hit ∧ fromFallback hit = true := fun result hResult =>
        (hAll result hResult).imp fun _ h => ⟨h.1, h.2.1⟩
      have hCount := isNone_assign_of_stable (hStable hTwo) (List.subset_cons_self (path hit) _)
        (fun q hq => (List.mem_cons.mp hq).symm) hFree
        (hFirst.left_of_left hMarked hCounted hServed)
      rw [(hFirst.assign_eq (hCounted counted)).1, List.countP_append, List.countP_cons,
        hCount] at hFew
      rw [hFirst.assign_pick_eq, List.countP_append, List.countP_cons] at hNones
      simp at hFew hNones
      omega

end Turns
