import Mathlib.Algebra.Order.Ring.Nat
import Mathlib.Data.List.DropRight

/-! Strings of the scripting language as lists of characters: white space,
`trim`, and the words of a line. Nothing here depends on the program. -/
namespace Js

/-- A string, as the sequence of its characters. -/
abbrev Text := List Char

instance : LawfulBEq Text := inferInstanceAs (LawfulBEq (List Char))

/-- The characters `\s` matches, which are also those that `trim` removes. -/
def isSpace (c : Char) : Bool :=
  let n := c.toNat
  (9 ≤ n && n ≤ 13) || n == 32 || n == 160 || n == 5760 || (8192 ≤ n && n ≤ 8202) ||
    n == 8232 || n == 8233 || n == 8239 || n == 8287 || n == 12288 || n == 65279

/-- The characters that `.` does not match. -/
def isLineTerminator (c : Char) : Bool :=
  let n := c.toNat
  n == 10 || n == 13 || n == 8232 || n == 8233

theorem isSpace_of_isLineTerminator {c : Char} (h : isLineTerminator c) :
    isSpace c := by
  simp only [isLineTerminator, Bool.or_eq_true, beq_iff_eq] at h
  simp only [isSpace, Bool.or_eq_true, Bool.and_eq_true, beq_iff_eq, decide_eq_true_eq]
  omega

/-- The characters `\S` matches. -/
def isWordChar (c : Char) : Bool := !isSpace c

def trimStart (s : Text) : Text := s.dropWhile isSpace

def trimEnd (s : Text) : Text := s.rdropWhile isSpace

def trim (s : Text) : Text := trimEnd (trimStart s)

/-- The maximal run of non-space characters at the start of a string. -/
def firstWord (s : Text) : Text := s.takeWhile isWordChar

def afterWord (s : Text) : Text := s.dropWhile isWordChar

/-- The maximal runs of non-space characters of a string, in order. -/
def words (s : Text) : List Text := (s.splitOnP isSpace).filter fun w => !w.isEmpty

/-- A nonempty string without white space: what `(\S+)` can capture. -/
def IsWord (s : Text) : Prop := s ≠ [] ∧ ∀ c ∈ s, isSpace c = false

instance (s : Text) : Decidable (IsWord s) :=
  -- The quantifier is decided along the string, not over all characters.
  have : Decidable (∀ c ∈ s, isSpace c = false) := List.decidableBAll _ _
  inferInstanceAs (Decidable (s ≠ [] ∧ ∀ c ∈ s, isSpace c = false))

/-- A string that is empty or starts with white space, so that a word
before it ends where it starts. -/
def StartsWithSpace (s : Text) : Prop := ∀ c ∈ s.head?, isSpace c = true

@[simp] theorem startsWithSpace_cons (c : Char) (s : Text) :
    StartsWithSpace (c :: s) ↔ isSpace c = true := by simp [StartsWithSpace]

@[simp] theorem isSpace_blank : isSpace ' ' := by decide

@[simp] theorem isSpace_tab : isSpace '\t' := by decide

/-- A printable character of the basic alphabet, other than the blank. -/
def IsGraphic (c : Char) : Prop := 33 ≤ c.toNat ∧ c.toNat ≤ 126

instance (c : Char) : Decidable (IsGraphic c) := inferInstanceAs (Decidable (_ ∧ _))

theorem isLineTerminator_eq_false {c : Char} (h : isSpace c = false) :
    isLineTerminator c = false := by
  cases hc : isLineTerminator c with
  | false => rfl
  | true => exact absurd (isSpace_of_isLineTerminator hc) (by simp [h])

theorem IsGraphic.isSpace {c : Char} (h : IsGraphic c) : isSpace c = false := by
  obtain ⟨hLow, hHigh⟩ := h
  simp only [Js.isSpace, Bool.or_eq_false_iff, Bool.and_eq_false_iff, beq_eq_false_iff_ne,
    decide_eq_false_iff_not]
  omega

theorem isGraphic_of_isAlphanum {c : Char} (h : c.isAlphanum) : IsGraphic c := by
  change ((decide (65 ≤ c.val ∧ c.val ≤ 90) || 97 ≤ c.val && c.val ≤ 122) ||
    48 ≤ c.val && c.val ≤ 57) = true at h
  show 33 ≤ c.toNat ∧ c.toNat ≤ 126
  simp [UInt32.le_iff_toNat_le] at h
  omega

theorem IsWord.ne_nil {w : Text} (h : IsWord w) : w ≠ [] := h.1

theorem IsWord.isWordChar {w : Text} (h : IsWord w) : ∀ c ∈ w, isWordChar c = true := by
  intro c hc
  simp [Js.isWordChar, h.2 c hc]

theorem IsWord.append {v w : Text} (hv : IsWord v) (hw : IsWord w) : IsWord (v ++ w) := by
  refine ⟨by simp [hv.ne_nil], fun c hc => ?_⟩
  rcases List.mem_append.mp hc with h | h
  · exact hv.2 c h
  · exact hw.2 c h

theorem firstWord_append {w rest : Text} (hw : IsWord w) (hr : StartsWithSpace rest) :
    firstWord (w ++ rest) = w := by
  rw [firstWord, List.takeWhile_append_of_pos hw.isWordChar]
  cases rest with
  | nil => simp
  | cons c rest =>
    have hc : isSpace c = true := by simpa using hr
    simp [List.takeWhile, isWordChar, hc]

theorem afterWord_append {w rest : Text} (hw : IsWord w) (hr : StartsWithSpace rest) :
    afterWord (w ++ rest) = rest := by
  rw [afterWord, List.dropWhile_append_of_pos hw.isWordChar]
  cases rest with
  | nil => simp
  | cons c rest =>
    have hc : isSpace c = true := by simpa using hr
    simp [List.dropWhile, isWordChar, hc]

variable (s : Text)

theorem firstWord_append_afterWord : firstWord s ++ afterWord s = s :=
  List.takeWhile_append_dropWhile

theorem afterWord_startsWithSpace : StartsWithSpace (afterWord s) := by
  intro c hc
  cases hs : afterWord s with
  | nil => simp [hs] at hc
  | cons d rest =>
    have hd : d = c := by simpa [hs] using hc
    have hNot := List.head?_dropWhile_not isWordChar s
    rw [← afterWord, hs] at hNot
    simpa [isWordChar, hd] using hNot

theorem firstWord_isSpace : ∀ c ∈ firstWord s, isSpace c = false := by
  intro c hc
  simpa [isWordChar] using List.mem_takeWhile_imp hc

@[simp] theorem trimStart_space_cons {c : Char} {s : Text} (hc : isSpace c) :
    trimStart (c :: s) = trimStart s := by simp [trimStart, hc]

theorem trimStart_spaces_append {p s : Text} (hp : ∀ c ∈ p, isSpace c = true) :
    trimStart (p ++ s) = trimStart s := List.dropWhile_append_of_pos hp

theorem trim_spaces_append {p s : Text} (hp : ∀ c ∈ p, isSpace c = true) :
    trim (p ++ s) = trim s := by rw [trim, trimStart_spaces_append hp, trim]

theorem exists_spaces_trimStart : ∃ p, (∀ c ∈ p, isSpace c = true) ∧ p ++ trimStart s = s :=
  ⟨s.takeWhile isSpace, fun _ hc => List.mem_takeWhile_imp hc, List.takeWhile_append_dropWhile⟩

theorem exists_spaces_trimEnd : ∃ p, (∀ c ∈ p, isSpace c = true) ∧ trimEnd s ++ p = s :=
  ⟨s.rtakeWhile isSpace, fun _ hc => List.mem_rtakeWhile_imp hc,
    List.rdropWhile_append_rtakeWhile ..⟩

theorem exists_spaces_trim :
    ∃ p q, (∀ c ∈ p, isSpace c = true) ∧ (∀ c ∈ q, isSpace c = true) ∧ p ++ trim s ++ q = s := by
  obtain ⟨p, hp, hStart⟩ := exists_spaces_trimStart s
  obtain ⟨q, hq, hEnd⟩ := exists_spaces_trimEnd (trimStart s)
  refine ⟨p, q, hp, hq, ?_⟩
  rw [trim, List.append_assoc, hEnd, hStart]

theorem trim_subset : trim s ⊆ s := by
  obtain ⟨p, q, -, -, hSplit⟩ := exists_spaces_trim s
  intro c hc
  rw [← hSplit]
  simp [hc]

theorem head?_trimStart : ∀ c ∈ (trimStart s).head?, isSpace c = false := by
  intro c hc
  have hNot := List.head?_dropWhile_not isSpace s
  rw [← trimStart, Option.mem_def.mp hc] at hNot
  simpa using hNot

theorem trimStart_eq_self_iff : trimStart s = s ↔ ∀ c ∈ s.head?, isSpace c = false := by
  refine ⟨fun h => h ▸ head?_trimStart s, fun h => ?_⟩
  cases s with
  | nil => rfl
  | cons c rest =>
    have hc : isSpace c = false := by simpa using h
    simp [trimStart, hc]

theorem trimEnd_eq_self_iff : trimEnd s = s ↔ ∀ c ∈ s.getLast?, isSpace c = false := by
  rw [trimEnd, List.rdropWhile_eq_self_iff]
  refine ⟨fun h c hc => ?_, fun h hne => ?_⟩
  · have hne : s ≠ [] := by rintro rfl; simp at hc
    rw [List.getLast?_eq_some_getLast hne] at hc
    simpa [show s.getLast hne = c by simpa using hc] using h hne
  · simp [h (s.getLast hne) (by simp [List.getLast?_eq_some_getLast hne])]

theorem trimEnd_append_spaces {s q : Text} (hq : ∀ c ∈ q, isSpace c = true) :
    trimEnd (s ++ q) = trimEnd s := by
  rw [trimEnd, List.rdropWhile, List.reverse_append,
    List.dropWhile_append_of_pos (by simpa using hq), trimEnd, List.rdropWhile]

theorem trim_eq_self {s : Text} (hFirst : ∀ c ∈ s.head?, isSpace c = false)
    (hLast : ∀ c ∈ s.getLast?, isSpace c = false) : trim s = s := by
  rw [trim, (trimStart_eq_self_iff s).mpr hFirst, (trimEnd_eq_self_iff s).mpr hLast]

theorem head?_trim : ∀ c ∈ (trim s).head?, isSpace c = false := by
  intro c hc
  obtain ⟨q, _, hq⟩ := exists_spaces_trimEnd (trimStart s)
  refine head?_trimStart s c ?_
  rw [← hq, List.head?_append, ← trim, Option.mem_def.mp hc]
  simp

theorem getLast?_trim : ∀ c ∈ (trim s).getLast?, isSpace c = false := by
  rw [← trimEnd_eq_self_iff]
  exact List.rdropWhile_idempotent isSpace (trimStart s)

@[simp] theorem trim_trim : trim (trim s) = trim s :=
  trim_eq_self (head?_trim s) (getLast?_trim s)

theorem IsWord.trim_eq {w : Text} (h : IsWord w) : trim w = w :=
  trim_eq_self (fun c hc => h.2 c (List.mem_of_mem_head? hc))
    (fun c hc => h.2 c (List.mem_of_mem_getLast? hc))

@[simp] theorem words_nil : words [] = [] := rfl

@[simp] theorem words_space_cons {c : Char} {s : Text} (hc : isSpace c) :
    words (c :: s) = words s := by
  simp [words, List.splitOnP_cons_eq_if_modifyHead, hc]

theorem words_word {w : Text} (hw : IsWord w) : words w = [w] := by
  simp [words, List.splitOnP_eq_singleton hw.2, hw.ne_nil]

theorem words_append {w rest : Text} (hw : IsWord w) (hr : StartsWithSpace rest) :
    words (w ++ rest) = w :: words rest := by
  cases rest with
  | nil => simpa using words_word hw
  | cons c rest =>
    have hc : isSpace c = true := by simpa using hr
    rw [words_space_cons hc]
    simp [words, List.splitOnP_append_cons_of_forall_mem hw.2 c hc, hw.ne_nil]

theorem words_spaces_append {p s : Text} (hp : ∀ c ∈ p, isSpace c = true) :
    words (p ++ s) = words s := by
  induction p with
  | nil => rfl
  | cons c p ih =>
    rw [List.cons_append, words_space_cons (hp c (by simp))]
    exact ih fun d hd => hp d (by simp [hd])

/-- Induction along the words of a string: white space is skipped, and a
word is taken off together with what separates it from the rest. -/
theorem words_induction {P : Text → Prop} (nil : P [])
    (space : ∀ c s, isSpace c = true → P s → P (c :: s))
    (word : ∀ w s, IsWord w → StartsWithSpace s → P s → P (w ++ s)) (s : Text) : P s := by
  induction hn : s.length using Nat.strong_induction_on generalizing s with
  | _ n ih =>
    cases s with
    | nil => exact nil
    | cons c s =>
      cases hc : isSpace c with
      | true => exact space c s hc (ih s.length (by simp [← hn]) s rfl)
      | false =>
        have hSplit := firstWord_append_afterWord (c :: s)
        have hFirst : IsWord (firstWord (c :: s)) :=
          ⟨by simp [firstWord, isWordChar, hc], firstWord_isSpace _⟩
        have hLength := congrArg List.length hSplit
        have hPos := List.length_pos_iff.mpr hFirst.ne_nil
        rw [← hSplit]
        refine word _ _ hFirst (afterWord_startsWithSpace _) (ih _ ?_ _ rfl)
        rw [List.length_append] at hLength
        omega

theorem words_append_spaces {p : Text} (hp : ∀ c ∈ p, isSpace c = true) (s : Text) :
    words (s ++ p) = words s := by
  induction s using words_induction with
  | nil => simpa using words_spaces_append (s := []) hp
  | space c s hc ih => rw [List.cons_append, words_space_cons hc, words_space_cons hc, ih]
  | word w s hw hs ih =>
    have hsp : StartsWithSpace (s ++ p) := by
      cases s with
      | nil => exact fun c hc => hp c (List.mem_of_mem_head? hc)
      | cons c s => simpa using hs
    rw [List.append_assoc, words_append hw hsp, words_append hw hs, ih]

@[simp] theorem words_trim : words (trim s) = words s := by
  obtain ⟨p, q, hp, hq, h⟩ := exists_spaces_trim s
  calc
    words (trim s) = words (p ++ trim s ++ q) := by
      rw [words_append_spaces hq, words_spaces_append hp]
    _ = words s := by rw [h]

theorem isWord_of_mem_words {s w : Text} (hw : w ∈ words s) : IsWord w := by
  induction s using words_induction with
  | nil => simp at hw
  | space c s hc ih => exact ih (by rwa [words_space_cons hc] at hw)
  | word v s hv hs ih =>
    rw [words_append hv hs] at hw
    rcases List.mem_cons.mp hw with rfl | hw
    · exact hv
    · exact ih hw

theorem flatten_words : (words s).flatten = s.filter isWordChar := by
  induction s using words_induction with
  | nil => rfl
  | space c s hc ih => simpa [words_space_cons hc, isWordChar, hc] using ih
  | word w s hw hs ih =>
    rw [words_append hw hs, List.flatten_cons, List.filter_append, ih,
      List.filter_eq_self.mpr hw.isWordChar]

theorem words_eq_nil_iff : words s = [] ↔ trim s = [] := by
  constructor
  · intro h
    have hFilter := flatten_words (trim s)
    rw [words_trim, h, List.flatten_nil, eq_comm, List.filter_eq_nil_iff] at hFilter
    by_contra hne
    have hHead := head?_trim s _ (List.head?_eq_some_head hne)
    exact hFilter _ (List.head_mem hne) (by simp [isWordChar, hHead])
  · intro h
    rw [← words_trim, h, words_nil]

theorem exists_of_words_trim {s k : Text} {ws : List Text} (h : words s = k :: ws) :
    ∃ rest, trim s = k ++ rest ∧ IsWord k ∧ StartsWithSpace rest ∧ words rest = ws := by
  have hk : IsWord k := isWord_of_mem_words (s := s) (by simp [h])
  have hne : trim s ≠ [] := by
    intro hNil
    rw [(words_eq_nil_iff s).mpr hNil] at h
    simp at h
  have hFirst : IsWord (firstWord (trim s)) := by
    refine ⟨?_, firstWord_isSpace _⟩
    obtain ⟨c, rest, hs⟩ := List.exists_cons_of_ne_nil hne
    have hHead := head?_trim s c (by simp [hs])
    simp [firstWord, hs, isWordChar, hHead]
  have hWords := words_append hFirst (afterWord_startsWithSpace (trim s))
  rw [firstWord_append_afterWord, words_trim, h] at hWords
  obtain ⟨hFirstEq, hRest⟩ := List.cons.inj hWords
  exact ⟨afterWord (trim s), by rw [hFirstEq, firstWord_append_afterWord], hk,
    afterWord_startsWithSpace _, hRest.symm⟩

end Js
