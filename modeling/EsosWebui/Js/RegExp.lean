import EsosWebui.Js.Text

/-! Regular expressions as the language runs them. The ways in which a pattern matches at a place
are tried in a fixed order, so its results are a list, and what is found is the first of them. -/
namespace Js

/-- A pattern. The flag of `start` and `stop` tells whether they stand for the ends of every line,
as `^` and `$` do under the flag `m`, or for those of the whole text only. -/
inductive RegExp where
  | literal (text : Text)
  | one (charClass : Char → Bool)
  | star (charClass : Char → Bool)
  | starLazy (charClass : Char → Bool)
  | seq (first second : RegExp)
  | either (first second : RegExp)
  | group (inner : RegExp)
  /-- `(?=inner)`, of a pattern without groups -/
  | ahead (inner : RegExp)
  | start (multiline : Bool)
  | stop (multiline : Bool)

namespace RegExp

/-- `[class]+` -/
def plus (charClass : Char → Bool) : RegExp := .seq (.one charClass) (.star charClass)

/-- `[class]+?` -/
def plusLazy (charClass : Char → Bool) : RegExp := .seq (.one charClass) (.starLazy charClass)

def chain (parts : List RegExp) : RegExp := parts.foldr .seq (.literal [])

/-- `.` -/
def dot (c : Char) : Bool := !isLineTerminator c

/-- One way to match: the characters read, what follows them, and the groups. -/
structure Found where
  read : Text
  rest : Text
  captures : List Text := []

def runs (charClass : Char → Bool) : Text → List Found
  | [] => [⟨[], [], []⟩]
  | c :: rest =>
    ⟨[], c :: rest, []⟩ ::
      if charClass c then (runs charClass rest).map fun f => { f with read := c :: f.read }
      else []

def lastOf (before : Option Char) (read : Text) : Option Char := read.getLast?.or before

def endsLine (multiline : Bool) (c : Option Char) : Bool :=
  c.isNone || (multiline && c.any isLineTerminator)

/-- A condition on a place, which reads nothing. -/
def here (holds : Bool) (text : Text) : List Found := if holds then [⟨[], text, []⟩] else []

/-- The ways in which a pattern matches at the start of a text, in the order of preference. -/
def results : RegExp → Option Char → Text → List Found
  | literal l, _, text => if l.isPrefixOf text then [⟨l, text.drop l.length, []⟩] else []
  | one charClass, _, text =>
    match text with
    | [] => []
    | c :: rest => if charClass c then [⟨[c], rest, []⟩] else []
  | star charClass, _, text => (runs charClass text).reverse
  | starLazy charClass, _, text => runs charClass text
  | seq first second, before, text =>
    (first.results before text).flatMap fun f =>
      (second.results (lastOf before f.read) f.rest).map fun g =>
        ⟨f.read ++ g.read, g.rest, f.captures ++ g.captures⟩
  | either first second, before, text => first.results before text ++ second.results before text
  | group inner, before, text =>
    (inner.results before text).map fun f => { f with captures := f.read :: f.captures }
  | ahead inner, before, text => here (!(inner.results before text).isEmpty) text
  | start multiline, before, text => here (endsLine multiline before) text
  | stop multiline, _, text => here (endsLine multiline text.head?) text

/-- The groups of the first match in a text, from left to right. -/
def search (r : RegExp) : Option Char → Text → Option (List Text)
  | before, [] => (r.results before []).head?.map (·.captures)
  | before, c :: rest =>
    ((r.results before (c :: rest)).head?.map (·.captures)).or (search r (some c) rest)

/-- `text.match(r)?.slice(1)` -/
def «match» (r : RegExp) (text : Text) : Option (List Text) := r.search none text

/-- A pattern can read a text between a character and a rest, with these groups. -/
def Reads : RegExp → Option Char → Text → Text → List Text → Prop
  | literal l, _, read, _, captures => read = l ∧ captures = []
  | one charClass, _, read, _, captures =>
    (∃ c, charClass c = true ∧ read = [c]) ∧ captures = []
  | star charClass, _, read, _, captures
  | starLazy charClass, _, read, _, captures =>
    (∀ c ∈ read, charClass c = true) ∧ captures = []
  | seq first second, before, read, rest, captures =>
    ∃ x y xs ys, read = x ++ y ∧ captures = xs ++ ys ∧ first.Reads before x (y ++ rest) xs ∧
      second.Reads (lastOf before x) y rest ys
  | either first second, before, read, rest, captures =>
    first.Reads before read rest captures ∨ second.Reads before read rest captures
  | group inner, before, read, rest, captures =>
    ∃ xs, captures = read :: xs ∧ inner.Reads before read rest xs
  | ahead inner, before, read, rest, captures =>
    read = [] ∧ captures = [] ∧ ∃ x y xs, rest = x ++ y ∧ inner.Reads before x y xs
  | start multiline, before, read, _, captures =>
    read = [] ∧ captures = [] ∧ endsLine multiline before = true
  | stop multiline, _, read, rest, captures =>
    read = [] ∧ captures = [] ∧ endsLine multiline rest.head? = true

theorem mem_here {holds : Bool} {text : Text} {f : Found} :
    f ∈ here holds text ↔
      f.read ++ f.rest = text ∧ f.read = [] ∧ f.captures = [] ∧ holds = true := by
  obtain ⟨read, rest, captures⟩ := f
  cases holds with
  | false => simp [here]
  | true =>
    simp only [here, if_true, List.mem_singleton, Found.mk.injEq]
    constructor
    · rintro ⟨rfl, rfl, rfl⟩
      exact ⟨rfl, rfl, rfl, trivial⟩
    · rintro ⟨rfl, rfl, rfl, -⟩
      exact ⟨rfl, rfl, rfl⟩

theorem mem_runs {charClass : Char → Bool} {text : Text} {f : Found} :
    f ∈ runs charClass text ↔
      f.read ++ f.rest = text ∧ (∀ c ∈ f.read, charClass c = true) ∧ f.captures = [] := by
  induction text generalizing f with
  | nil =>
    obtain ⟨read, rest, captures⟩ := f
    simp only [runs, List.mem_singleton, Found.mk.injEq, List.append_eq_nil_iff]
    constructor
    · rintro ⟨rfl, rfl, rfl⟩
      simp
    · rintro ⟨⟨rfl, rfl⟩, -, rfl⟩
      simp
  | cons c text ih =>
    obtain ⟨read, rest, captures⟩ := f
    cases read with
    | nil =>
      cases hc : charClass c <;> simp [runs, hc]
    | cons d read =>
      have hIh := ih (f := ⟨read, rest, captures⟩)
      cases hc : charClass c
      · simp only [runs, hc, Bool.false_eq_true, if_false, List.mem_singleton,
          Found.mk.injEq, reduceCtorEq, false_and, List.cons_append, List.cons.injEq,
          List.forall_mem_cons, false_iff]
        rintro ⟨⟨rfl, -⟩, ⟨hd, -⟩, -⟩
        simp [hc] at hd
      · have hMap : (⟨d :: read, rest, captures⟩ : Found) ∈
            (runs charClass text).map (fun f => { f with read := c :: f.read }) ↔
            d = c ∧ (⟨read, rest, captures⟩ : Found) ∈ runs charClass text := by
          rw [List.mem_map]
          constructor
          · rintro ⟨g, hg, hEq⟩
            simp only [Found.mk.injEq, List.cons.injEq] at hEq
            obtain ⟨⟨rfl, rfl⟩, rfl, rfl⟩ := hEq
            exact ⟨rfl, hg⟩
          · rintro ⟨rfl, hg⟩
            exact ⟨_, hg, rfl⟩
        have hRuns : runs charClass (c :: text) = ⟨[], c :: text, []⟩ ::
            (runs charClass text).map fun f => { f with read := c :: f.read } := by
          rw [runs, if_pos hc]
        rw [hRuns, List.mem_cons, hMap, hIh]
        simp only [Found.mk.injEq, reduceCtorEq, false_and, false_or, List.cons_append,
          List.cons.injEq, List.forall_mem_cons]
        constructor
        · rintro ⟨rfl, hRead, hAll, hNone⟩
          exact ⟨⟨rfl, hRead⟩, ⟨hc, hAll⟩, hNone⟩
        · rintro ⟨⟨rfl, hRead⟩, ⟨-, hAll⟩, hNone⟩
          exact ⟨rfl, hRead, hAll, hNone⟩

theorem mem_results {r : RegExp} {before : Option Char} {text : Text} {f : Found} :
    f ∈ r.results before text ↔
      f.read ++ f.rest = text ∧ r.Reads before f.read f.rest f.captures := by
  induction r generalizing before text f with
  | literal l =>
    obtain ⟨read, rest, captures⟩ := f
    simp only [results, Reads]
    split
    · rename_i hl
      obtain ⟨tail, rfl⟩ := List.isPrefixOf_iff_prefix.mp hl
      simp only [List.drop_left, List.mem_singleton, Found.mk.injEq]
      constructor
      · rintro ⟨rfl, rfl, rfl⟩
        exact ⟨rfl, rfl, rfl⟩
      · rintro ⟨hText, rfl, rfl⟩
        exact ⟨rfl, List.append_cancel_left hText, rfl⟩
    · rename_i hl
      simp only [List.not_mem_nil, false_iff]
      rintro ⟨rfl, rfl, -⟩
      exact hl (List.isPrefixOf_iff_prefix.mpr (List.prefix_append _ _))
  | one charClass =>
    obtain ⟨read, rest, captures⟩ := f
    cases text with
    | nil =>
      simp only [results, List.not_mem_nil, Reads, false_iff]
      rintro ⟨hText, ⟨c, -, rfl⟩, -⟩
      cases hText
    | cons c text =>
      cases hc : charClass c
      · simp only [results, hc, Bool.false_eq_true, if_false, List.not_mem_nil, Reads,
          false_iff]
        rintro ⟨hText, ⟨d, hd, rfl⟩, -⟩
        obtain rfl : d = c := (List.cons.inj hText).1
        simp [hc] at hd
      · simp only [results, hc, if_true, List.mem_singleton, Found.mk.injEq, Reads]
        constructor
        · rintro ⟨rfl, rfl, rfl⟩
          exact ⟨rfl, ⟨c, hc, rfl⟩, rfl⟩
        · rintro ⟨hText, ⟨d, -, rfl⟩, rfl⟩
          obtain ⟨rfl, rfl⟩ := List.cons.inj hText
          exact ⟨rfl, rfl, rfl⟩
  | star charClass => simp only [results, List.mem_reverse, mem_runs, Reads]
  | starLazy charClass => simp only [results, mem_runs, Reads]
  | seq first second ihFirst ihSecond =>
    obtain ⟨read, rest, captures⟩ := f
    simp only [results, List.mem_flatMap, List.mem_map, Reads, Found.mk.injEq]
    constructor
    · rintro ⟨f, hf, g, hg, rfl, rfl, rfl⟩
      obtain ⟨rfl, hFirst⟩ := ihFirst.mp hf
      obtain ⟨hRest, hSecond⟩ := ihSecond.mp hg
      rw [← hRest] at hFirst
      exact ⟨by rw [List.append_assoc, hRest], _, _, _, _, rfl, rfl, hFirst, hSecond⟩
    · rintro ⟨rfl, x, y, xs, ys, rfl, rfl, hFirst, hSecond⟩
      refine ⟨⟨x, y ++ rest, xs⟩, ihFirst.mpr ⟨?_, hFirst⟩, ⟨y, rest, ys⟩,
        ihSecond.mpr ⟨rfl, hSecond⟩, rfl, rfl, rfl⟩
      exact (List.append_assoc _ _ _).symm
  | either first second ihFirst ihSecond =>
    simp only [results, List.mem_append, ihFirst, ihSecond, Reads, and_or_left]
  | group inner ih =>
    obtain ⟨read, rest, captures⟩ := f
    simp only [results, List.mem_map, Reads, Found.mk.injEq]
    constructor
    · rintro ⟨f, hf, rfl, rfl, rfl⟩
      obtain ⟨hText, hReads⟩ := ih.mp hf
      exact ⟨hText, _, rfl, hReads⟩
    · rintro ⟨hText, xs, rfl, hReads⟩
      exact ⟨⟨read, rest, xs⟩, ih.mpr ⟨hText, hReads⟩, rfl, rfl, rfl⟩
  | ahead inner ih =>
    have hNonempty : (!(inner.results before text).isEmpty) = true ↔
        ∃ x y xs, text = x ++ y ∧ inner.Reads before x y xs := by
      rw [Bool.not_eq_true', List.isEmpty_eq_false_iff_exists_mem]
      constructor
      · rintro ⟨g, hg⟩
        obtain ⟨hText, hReads⟩ := ih.mp hg
        exact ⟨_, _, _, hText.symm, hReads⟩
      · rintro ⟨x, y, xs, rfl, hReads⟩
        exact ⟨⟨x, y, xs⟩, ih.mpr ⟨rfl, hReads⟩⟩
    obtain ⟨read, rest, captures⟩ := f
    simp only [results, mem_here, Reads, hNonempty]
    constructor
    · rintro ⟨rfl, rfl, rfl, hReads⟩
      exact ⟨rfl, rfl, rfl, hReads⟩
    · rintro ⟨rfl, rfl, rfl, hReads⟩
      exact ⟨rfl, rfl, rfl, hReads⟩
  | start multiline => simp only [results, mem_here, Reads]
  | stop multiline =>
    obtain ⟨read, rest, captures⟩ := f
    simp only [results, mem_here, Reads]
    constructor
    · rintro ⟨rfl, rfl, rfl, hEnd⟩
      exact ⟨rfl, rfl, rfl, hEnd⟩
    · rintro ⟨rfl, rfl, rfl, hEnd⟩
      exact ⟨rfl, rfl, rfl, hEnd⟩

section

variable {charClass : Char → Bool} {parts : List RegExp} {before : Option Char}
  {read rest : Text} {captures : List Text}

theorem reads_plus : (plus charClass).Reads before read rest captures ↔
    read ≠ [] ∧ (∀ c ∈ read, charClass c = true) ∧ captures = [] := by
  constructor
  · rintro ⟨_, y, _, _, rfl, rfl, ⟨⟨c, hc, rfl⟩, rfl⟩, hAll, rfl⟩
    exact ⟨List.cons_ne_nil _ _, List.forall_mem_cons.mpr ⟨hc, hAll⟩, rfl⟩
  · rintro ⟨hNe, hAll, rfl⟩
    obtain ⟨c, read, rfl⟩ := List.exists_cons_of_ne_nil hNe
    obtain ⟨hc, hRest⟩ := List.forall_mem_cons.mp hAll
    exact ⟨[c], read, [], [], rfl, rfl, ⟨⟨c, hc, rfl⟩, rfl⟩, hRest, rfl⟩

theorem reads_plusLazy : (plusLazy charClass).Reads before read rest captures ↔
    read ≠ [] ∧ (∀ c ∈ read, charClass c = true) ∧ captures = [] := reads_plus

theorem reads_chain_literal {l : Text} :
    (chain (literal l :: parts)).Reads before read rest captures ↔
      ∃ y, read = l ++ y ∧ (chain parts).Reads (lastOf before l) y rest captures := by
  constructor
  · rintro ⟨_, y, _, _, rfl, rfl, ⟨rfl, rfl⟩, h⟩
    exact ⟨y, rfl, h⟩
  · rintro ⟨y, rfl, h⟩
    exact ⟨l, y, [], captures, rfl, rfl, ⟨rfl, rfl⟩, h⟩

theorem reads_chain_star :
    (chain (star charClass :: parts)).Reads before read rest captures ↔
      ∃ x y, read = x ++ y ∧ (∀ c ∈ x, charClass c = true) ∧
        (chain parts).Reads (lastOf before x) y rest captures := by
  constructor
  · rintro ⟨x, y, _, _, rfl, rfl, ⟨hAll, rfl⟩, h⟩
    exact ⟨x, y, rfl, hAll, h⟩
  · rintro ⟨x, y, rfl, hAll, h⟩
    exact ⟨x, y, [], captures, rfl, rfl, ⟨hAll, rfl⟩, h⟩

theorem reads_chain_plus :
    (chain (plus charClass :: parts)).Reads before read rest captures ↔
      ∃ x y, read = x ++ y ∧ (x ≠ [] ∧ ∀ c ∈ x, charClass c = true) ∧
        (chain parts).Reads (lastOf before x) y rest captures := by
  constructor
  · rintro ⟨x, y, _, _, rfl, rfl, hx, h⟩
    obtain ⟨hNe, hAll, rfl⟩ := reads_plus.mp hx
    exact ⟨x, y, rfl, ⟨hNe, hAll⟩, h⟩
  · rintro ⟨x, y, rfl, ⟨hNe, hAll⟩, h⟩
    exact ⟨x, y, [], captures, rfl, rfl, reads_plus.mpr ⟨hNe, hAll, rfl⟩, h⟩

theorem reads_chain_group {inner : RegExp} {P : Text → Prop}
    (hInner : ∀ b x s xs, inner.Reads b x s xs ↔ P x ∧ xs = []) :
    (chain (group inner :: parts)).Reads before read rest captures ↔
      ∃ x y ys, read = x ++ y ∧ captures = x :: ys ∧ P x ∧
        (chain parts).Reads (lastOf before x) y rest ys := by
  constructor
  · rintro ⟨x, y, _, ys, rfl, rfl, ⟨_, rfl, hx⟩, h⟩
    obtain ⟨hP, rfl⟩ := (hInner _ _ _ _).mp hx
    exact ⟨x, y, ys, rfl, rfl, hP, h⟩
  · rintro ⟨x, y, ys, rfl, rfl, hP, h⟩
    exact ⟨x, y, [x], ys, rfl, rfl, ⟨[], rfl, (hInner _ _ _ _).mpr ⟨hP, rfl⟩⟩, h⟩

theorem reads_chain_group_plus :
    (chain (group (plus charClass) :: parts)).Reads before read rest captures ↔
      ∃ x y ys, read = x ++ y ∧ captures = x :: ys ∧
        (x ≠ [] ∧ ∀ c ∈ x, charClass c = true) ∧
          (chain parts).Reads (lastOf before x) y rest ys :=
  reads_chain_group fun _ _ _ _ => reads_plus.trans and_assoc.symm

theorem reads_chain_group_plusLazy :
    (chain (group (plusLazy charClass) :: parts)).Reads before read rest captures ↔
      ∃ x y ys, read = x ++ y ∧ captures = x :: ys ∧
        (x ≠ [] ∧ ∀ c ∈ x, charClass c = true) ∧
          (chain parts).Reads (lastOf before x) y rest ys :=
  reads_chain_group fun _ _ _ _ => reads_plusLazy.trans and_assoc.symm

theorem reads_chain_group_star :
    (chain (group (star charClass) :: parts)).Reads before read rest captures ↔
      ∃ x y ys, read = x ++ y ∧ captures = x :: ys ∧ (∀ c ∈ x, charClass c = true) ∧
        (chain parts).Reads (lastOf before x) y rest ys :=
  reads_chain_group fun _ _ _ _ => Iff.rfl

theorem reads_chain_stop : (chain [stop false]).Reads before read rest captures ↔
    read = [] ∧ captures = [] ∧ rest = [] := by
  constructor
  · rintro ⟨_, _, _, _, rfl, rfl, ⟨rfl, rfl, hEnd⟩, rfl, rfl⟩
    exact ⟨rfl, rfl, by simpa [endsLine] using hEnd⟩
  · rintro ⟨rfl, rfl, rfl⟩
    exact ⟨[], [], [], [], rfl, rfl, ⟨rfl, rfl, rfl⟩, rfl, rfl⟩

end

variable {r : RegExp} {before : Option Char} {text : Text} {captures : List Text}

theorem search_append {front : Text}
    (h : ∀ b c s, c :: s <:+ front → r.results b (c :: (s ++ text)) = []) :
    r.search before (front ++ text) = r.search (lastOf before front) text := by
  induction front generalizing before with
  | nil => rfl
  | cons c front ih =>
    have hLast : lastOf before (c :: front) = lastOf (some c) front := by
      cases front <;> simp [lastOf, List.getLast?_cons]
    rw [List.cons_append, search, h before c front (List.suffix_refl _), hLast]
    exact ih fun b d s hs => h b d s (hs.trans (List.suffix_cons c front))

theorem search_eq_of_results {f : Found} {others : List Found}
    (h : r.results before text = f :: others) : r.search before text = some f.captures := by
  cases text with
  | nil => rw [search, h]; rfl
  | cons c text => rw [search, h]; rfl

/-- A pattern that starts with `^` matches at the start of the text or not at all. -/
theorem match_start (r : RegExp) (text : Text) :
    (seq (start false) r).match text = (r.results none text).head?.map (·.captures) := by
  have hResults : (seq (start false) r).results none text = r.results none text := by
    have hHere : (start false).results none text = [⟨[], text, []⟩] := rfl
    rw [results, hHere, List.flatMap_singleton]
    exact List.map_id _
  have hLater (c : Char) (s : Text) : (seq (start false) r).search (some c) s = none := by
    induction s generalizing c with
    | nil => rfl
    | cons d s ih => exact ih d
  cases text with
  | nil => rw [RegExp.match, search, hResults]
  | cons c text => rw [RegExp.match, search, hResults, hLater, Option.or_none]

/-- What a pattern that starts with `^` finds. -/
theorem reads_of_match_start (h : (seq (start false) r).match text = some captures) :
    ∃ read rest, text = read ++ rest ∧ r.Reads none read rest captures := by
  rw [match_start, Option.map_eq_some_iff] at h
  obtain ⟨f, hf, rfl⟩ := h
  obtain ⟨hText, hReads⟩ := mem_results.mp (List.mem_of_head? hf)
  exact ⟨_, _, hText.symm, hReads⟩

/-- A pattern that starts with `^` finds something if there is a way to read the text. -/
theorem exists_match_start {read rest : Text} (h : r.Reads none read rest captures) :
    ∃ found, (seq (start false) r).match (read ++ rest) = some found := by
  have hMem : (⟨read, rest, captures⟩ : Found) ∈ r.results none (read ++ rest) :=
    mem_results.mpr ⟨rfl, h⟩
  rw [match_start]
  cases hHead : (r.results none (read ++ rest)).head? with
  | none =>
    rw [List.head?_eq_none_iff.mp hHead] at hMem
    exact absurd hMem List.not_mem_nil
  | some f => exact ⟨_, rfl⟩

/-- `^`, a text, and more. -/
structure Anchored where
  start : String
  parts : List RegExp := []

namespace Anchored

def regExp (p : Anchored) : RegExp :=
  .seq (.start false) (chain (.literal p.start.toList :: p.parts))

/-- `pattern.test(text)` -/
def test (p : Anchored) (text : Text) : Bool := (p.regExp.match text).isSome

variable {p q : Anchored}

theorem test_iff : p.test text = true ↔ ∃ read rest captures,
    text = p.start.toList ++ (read ++ rest) ∧
      (chain p.parts).Reads (lastOf none p.start.toList) read rest captures := by
  rw [test, Option.isSome_iff_exists]
  constructor
  · rintro ⟨found, hFound⟩
    obtain ⟨read, rest, rfl, hReads⟩ := reads_of_match_start hFound
    obtain ⟨y, rfl, hRest⟩ := reads_chain_literal.mp hReads
    exact ⟨y, rest, found, List.append_assoc _ _ _, hRest⟩
  · rintro ⟨read, rest, captures, rfl, hReads⟩
    rw [← List.append_assoc]
    exact exists_match_start (reads_chain_literal.mpr ⟨read, rfl, hReads⟩)

theorem prefix_of_test (h : p.test text) : p.start.toList <+: text := by
  obtain ⟨read, rest, -, rfl, -⟩ := test_iff.mp h
  exact List.prefix_append _ _

theorem test_of_prefix (hParts : p.parts = []) (h : p.start.toList <+: text) :
    p.test text := by
  obtain ⟨rest, rfl⟩ := h
  refine test_iff.mpr ⟨[], rest, [], rfl, ?_⟩
  rw [hParts]
  exact ⟨rfl, rfl⟩

end Anchored

/-- One of two texts starts with the other. -/
def comparable (l l' : Text) : Bool := l.isPrefixOf l' || l'.isPrefixOf l

theorem comparable_of_prefixes {l l' : Text} (h : l <+: text) (h' : l' <+: text) :
    comparable l l' := by
  rw [comparable, Bool.or_eq_true, List.isPrefixOf_iff_prefix, List.isPrefixOf_iff_prefix]
  exact List.prefix_or_prefix_of_prefix h h'

theorem Anchored.test_eq_false {p : Anchored} {l : Text} (h : l <+: text)
    (hApart : comparable l p.start.toList = false) : p.test text = false := by
  cases hTest : p.test text with
  | false => rfl
  | true => exact absurd (comparable_of_prefixes h (prefix_of_test hTest)) (by simp [hApart])

end RegExp

end Js
