import EsosWebui.Js.Pattern
import Mathlib.Data.List.Infix
import Mathlib.Data.List.TakeWhile

/-! Searches for a label in a text, and the number that follows it. -/
namespace Js

def afterText (literal text : Text) : Option Text :=
  if literal <+: text then some (text.drop literal.length) else none

/-- The literal occurs, and what follows it is as wanted (nothing follows at the end). -/
def occurs (literal : Text) (next : Option Char → Bool) (text : Text) : Bool :=
  text.tails.any fun rest => (afterText literal rest).any fun rest => next rest.head?

def digitsAfter (label text : Text) : Option Text :=
  ((afterText label text).map (·.takeWhile Char.isDigit)).filter (· ≠ [])

def firstDigits (label text : Text) : Option Text := text.tails.findSome? (digitsAfter label)

/-- A label that overlaps no other occurrence of itself, and does not start with a digit. -/
structure Unbordered (label : Text) : Prop where
  ne_nil : label ≠ []
  notDigit : ∀ c ∈ label.head?, c.isDigit = false
  noBorder : ∀ k < label.length, 0 < k → ¬ label.drop k <+: label

instance (label : Text) : Decidable (Unbordered label) :=
  decidable_of_iff (label ≠ [] ∧ label.head?.all (!·.isDigit) = true ∧
      ∀ k ∈ List.range label.length, 0 < k → ¬ label.drop k <+: label) <| by
    refine ⟨fun ⟨h₁, h₂, h₃⟩ => ⟨h₁, ?_, ?_⟩, fun ⟨h₁, h₂, h₃⟩ => ⟨h₁, ?_, ?_⟩⟩
    · exact fun c hc => by simpa using (Option.all_eq_true _ _).mp h₂ c hc
    · exact fun k hk => h₃ k (List.mem_range.mpr hk)
    · exact (Option.all_eq_true _ _).mpr fun c hc => by simp [h₂ c hc]
    · exact fun k hk => h₃ k (List.mem_range.mp hk)

theorem afterText_append (literal rest : Text) :
    afterText literal (literal ++ rest) = some rest := by
  rw [afterText, if_pos (List.prefix_append _ _), List.drop_left]

variable {next : Option Char → Bool}

theorem occurs_append {literal rest : Text} (h : next rest.head?) (before : Text) :
    occurs literal next (before ++ (literal ++ rest)) := by
  refine List.any_eq_true.mpr ⟨literal ++ rest, ?_, ?_⟩
  · exact (List.mem_tails _ _).mpr (List.suffix_append _ _)
  · rw [afterText_append]
    exact h

variable {label : Text} {text : Text}

/-- No occurrence of the label goes across the start of another one. -/
theorem prefix_append_label_iff (h : Unbordered label) (hText : text ≠ []) (rest : Text) :
    label <+: text ++ (label ++ rest) ↔ label <+: text := by
  constructor
  · intro hPrefix
    by_contra hNot
    have hInside : text <+: label :=
      (List.prefix_or_prefix_of_prefix hPrefix (List.prefix_append _ _)).resolve_left hNot
    obtain ⟨tail, rfl⟩ := hInside
    have hTail : tail ≠ [] := fun hNil => hNot (by simp [hNil])
    have hBorder : tail <+: text ++ tail := by
      apply List.prefix_of_prefix_length_le _ (List.prefix_append (text ++ tail) rest)
      · simp
      · exact (List.prefix_append_right_inj text).mp hPrefix
    refine h.noBorder text.length ?_ (List.length_pos_iff.mpr hText) (by simpa using hBorder)
    simpa using List.length_pos_iff.mpr hTail
  · exact fun hPrefix => hPrefix.trans (List.prefix_append _ _)

theorem takeWhile_isDigit_append {s : Text} (h : ∀ c ∈ s.head?, c.isDigit = false) (text : Text) :
    (text ++ s).takeWhile Char.isDigit = text.takeWhile Char.isDigit := by
  induction text with
  | nil =>
    cases s with
    | nil => rfl
    | cons c s => simp [h c (by simp)]
  | cons c text ih =>
    rw [List.cons_append, List.takeWhile_cons, List.takeWhile_cons, ih]

theorem firstDigits_cons (label : Text) (c : Char) (text : Text) : firstDigits label (c :: text) =
    (digitsAfter label (c :: text)).or (firstDigits label text) := by
  unfold firstDigits
  rw [List.tails_cons, List.findSome?_cons]
  cases digitsAfter label (c :: text) <;> rfl

theorem digitsAfter_nil (label : Text) : digitsAfter label [] = none := by
  unfold digitsAfter afterText
  split <;> simp

theorem firstDigits_nil (label : Text) : firstDigits label [] = none := by
  simp [firstDigits, digitsAfter_nil]

theorem occurs_cons (label : Text) (next : Option Char → Bool) (c : Char) (text : Text) :
    occurs label next (c :: text) =
      ((afterText label (c :: text)).any (fun rest => next rest.head?) ||
        occurs label next text) := by
  simp [occurs]

theorem digitsAfter_append_label (h : Unbordered label) (hText : text ≠ []) (rest : Text) :
    digitsAfter label (text ++ (label ++ rest)) = digitsAfter label text := by
  unfold digitsAfter afterText
  by_cases hPrefix : label <+: text
  · rw [if_pos hPrefix, if_pos ((prefix_append_label_iff h hText rest).mpr hPrefix)]
    obtain ⟨after, rfl⟩ := hPrefix
    have hHead : ∀ c ∈ (label ++ rest).head?, c.isDigit = false := by
      cases hLabel : label with
      | nil => exact absurd hLabel h.ne_nil
      | cons first others => simpa [hLabel] using h.notDigit
    rw [List.append_assoc, List.drop_left, List.drop_left, Option.map_some, Option.map_some,
      takeWhile_isDigit_append hHead]
  · rw [if_neg hPrefix, if_neg (fun hAcross => hPrefix
      ((prefix_append_label_iff h hText rest).mp hAcross))]

theorem firstDigits_append_label (h : Unbordered label) (text rest : Text) :
    firstDigits label (text ++ (label ++ rest)) =
      (firstDigits label text).or (firstDigits label (label ++ rest)) := by
  induction text with
  | nil => rw [firstDigits_nil, List.nil_append, Option.none_or]
  | cons c text ih =>
    rw [List.cons_append, firstDigits_cons, firstDigits_cons, ih, ← List.cons_append,
      digitsAfter_append_label h (List.cons_ne_nil c text), Option.or_assoc]

theorem firstDigits_label_append {digits rest : Text} (hNe : digits ≠ [])
    (hDigits : ∀ c ∈ digits, c.isDigit = true) (hRest : ∀ c ∈ rest.head?, c.isDigit = false) :
    firstDigits label (label ++ (digits ++ rest)) = some digits := by
  have hHere : digitsAfter label (label ++ (digits ++ rest)) = some digits := by
    unfold digitsAfter
    rw [afterText_append, Option.map_some, takeWhile_isDigit_append hRest,
      List.takeWhile_eq_self_iff.mpr hDigits]
    simp [hNe]
  have hTails (s : Text) : s.tails = s :: s.tails.tail := by cases s <;> rfl
  rw [firstDigits, hTails, List.findSome?_cons, hHere]

end Js

namespace Js

variable {label : Text}

theorem digitsAfter_of_not_start (h : ¬ label <+: text) : digitsAfter label text = none := by
  rw [digitsAfter, afterText, if_neg h]
  rfl

theorem firstDigits_of_notMem {c : Char} (hLabel : c ∈ label) (hText : c ∉ text) :
    firstDigits label text = none := by
  induction text with
  | nil => exact firstDigits_nil label
  | cons first text ih =>
    have hHere : ¬ label <+: first :: text := fun h => hText (h.subset hLabel)
    rw [firstDigits_cons, digitsAfter_of_not_start hHere, Option.none_or]
    exact ih (List.not_mem_of_not_mem_cons hText)

theorem occurs_of_notMem {c : Char} (hLabel : c ∈ label) (hText : c ∉ text) :
    occurs label next text = false := by
  rw [occurs, List.any_eq_false]
  intro rest hRest
  have hHere : ¬ label <+: rest := fun h =>
    hText (((List.mem_tails _ _).mp hRest).subset (h.subset hLabel))
  simp [afterText, hHere]

theorem prefix_append_blank_iff (h : ' ' ∉ label) (text rest : Text) :
    label <+: text ++ ' ' :: rest ↔ label <+: text := by
  constructor
  · intro hPrefix
    rcases List.prefix_or_prefix_of_prefix hPrefix (List.prefix_append text (' ' :: rest)) with
      hText | ⟨tail, rfl⟩
    · exact hText
    · cases tail with
      | nil => rw [List.append_nil]
      | cons c tail =>
        obtain ⟨rfl, -⟩ := List.cons_prefix_cons.mp
          ((List.prefix_append_right_inj text).mp hPrefix)
        exact absurd (List.mem_append_right _ List.mem_cons_self) h
  · exact fun hPrefix => hPrefix.trans (List.prefix_append _ _)

theorem digitsAfter_append_blank (h : ' ' ∉ label) (text rest : Text) :
    digitsAfter label (text ++ ' ' :: rest) = digitsAfter label text := by
  by_cases hPrefix : label <+: text
  · obtain ⟨after, rfl⟩ := hPrefix
    unfold digitsAfter
    rw [List.append_assoc, afterText_append, afterText_append, Option.map_some, Option.map_some,
      takeWhile_isDigit_append (by simp)]
  · rw [digitsAfter_of_not_start hPrefix, digitsAfter_of_not_start
      (fun hAcross => hPrefix ((prefix_append_blank_iff h text rest).mp hAcross))]

theorem firstDigits_append_blank (h : ' ' ∉ label) (text rest : Text) :
    firstDigits label (text ++ ' ' :: rest) =
      (firstDigits label text).or (firstDigits label rest) := by
  induction text with
  | nil =>
    have hBlank := digitsAfter_append_blank h [] rest
    rw [List.nil_append] at hBlank ⊢
    rw [firstDigits_cons, hBlank, digitsAfter_nil, firstDigits_nil]
  | cons c text ih =>
    have hHere := digitsAfter_append_blank h (c :: text) rest
    rw [List.cons_append] at hHere ⊢
    rw [firstDigits_cons, firstDigits_cons, hHere, ih, Option.or_assoc]

theorem firstDigits_intercalate (h : ' ' ∉ label) (parts : List Text) :
    firstDigits label ([' '].intercalate parts) = parts.findSome? (firstDigits label) := by
  induction parts with
  | nil => exact firstDigits_nil label
  | cons first parts ih =>
    cases parts with
    | nil => simp [List.intercalate]
    | cons second parts =>
      rw [intercalate_cons_cons, firstDigits_append_blank h, ih]
      cases hFirst : firstDigits label first with
      | none => simp only [List.findSome?_cons, hFirst, Option.none_or]
      | some digits => simp only [List.findSome?_cons, hFirst, Option.some_or]

theorem occurs_append_blank (h : ' ' ∉ label) (hNext : next (some ' ') = next none)
    (text rest : Text) :
    occurs label next (text ++ ' ' :: rest) =
      (occurs label next text || occurs label next rest) := by
  have hAfter (text : Text) : (afterText label (text ++ ' ' :: rest)).any (fun s => next s.head?) =
      (afterText label text).any (fun s => next s.head?) := by
    by_cases hPrefix : label <+: text
    · obtain ⟨after, rfl⟩ := hPrefix
      rw [List.append_assoc, afterText_append, afterText_append]
      cases after with
      | nil => exact hNext
      | cons c after => rfl
    · have hAcross : ¬ label <+: text ++ ' ' :: rest := fun hAcross =>
        hPrefix ((prefix_append_blank_iff h text rest).mp hAcross)
      rw [afterText, afterText, if_neg hPrefix, if_neg hAcross]
  induction text with
  | nil =>
    have hBlank := hAfter []
    rw [List.nil_append] at hBlank ⊢
    rw [occurs_cons, hBlank]
    simp [occurs]
  | cons c text ih =>
    have hHere := hAfter (c :: text)
    rw [List.cons_append] at hHere ⊢
    rw [occurs_cons, occurs_cons, hHere, ih, Bool.or_assoc]

theorem occurs_intercalate (h : ' ' ∉ label) (hNext : next (some ' ') = next none)
    {parts : List Text} (hParts : parts ≠ []) :
    occurs label next ([' '].intercalate parts) = parts.any (occurs label next) := by
  induction parts with
  | nil => exact absurd rfl hParts
  | cons first parts ih =>
    cases parts with
    | nil => simp [List.intercalate]
    | cons second parts =>
      rw [intercalate_cons_cons, occurs_append_blank h hNext, ih (List.cons_ne_nil _ _)]
      rfl

theorem trim_intercalate {parts : List Text} (h : ∀ w ∈ parts, IsWord w) :
    trim ([' '].intercalate parts) = [' '].intercalate parts := by
  apply trim_eq_self
  · intro c hc
    cases parts with
    | nil => cases hc
    | cons first parts =>
      obtain ⟨d, rest, hFirst⟩ := List.exists_cons_of_ne_nil (h first List.mem_cons_self).ne_nil
      have hHead : ([' '].intercalate (first :: parts)).head? = some d := by
        cases parts with
        | nil => simp [List.intercalate, hFirst]
        | cons second parts =>
          rw [intercalate_cons_cons, hFirst, List.cons_append, List.head?_cons]
      rw [hHead, Option.mem_some_iff] at hc
      exact hc ▸ (h first List.mem_cons_self).2 d (hFirst ▸ List.mem_cons_self)
  · intro c hc
    rw [getLast?_intercalate fun w hw => (h w hw).ne_nil, Option.mem_def,
      Option.bind_eq_some_iff] at hc
    obtain ⟨last, hLast, hc⟩ := hc
    exact (h last (List.mem_of_getLast? hLast)).2 c (List.mem_of_getLast? hc)

theorem occurs_iff : occurs label next text = true ↔
    ∃ before rest, text = before ++ (label ++ rest) ∧ next rest.head? = true := by
  rw [occurs, List.any_eq_true]
  constructor
  · rintro ⟨tail, hTail, hNext⟩
    obtain ⟨before, rfl⟩ := (List.mem_tails _ _).mp hTail
    by_cases hPrefix : label <+: tail
    · obtain ⟨rest, rfl⟩ := hPrefix
      rw [afterText_append] at hNext
      exact ⟨before, rest, rfl, hNext⟩
    · rw [afterText, if_neg hPrefix] at hNext
      cases hNext
  · rintro ⟨before, rest, rfl, hNext⟩
    refine ⟨label ++ rest, (List.mem_tails _ _).mpr (List.suffix_append _ _), ?_⟩
    rw [afterText_append]
    exact hNext

/-- A label that overlaps no other occurrence of itself is at the start or in what follows. -/
theorem occurs_label_append (h : Unbordered label) (next : Option Char → Bool) (text : Text) :
    occurs label next (label ++ text) = (next text.head? || occurs label next text) := by
  rw [Bool.eq_iff_iff, Bool.or_eq_true]
  constructor
  · intro hFound
    obtain ⟨before, rest, hEq, hNext⟩ := occurs_iff.mp hFound
    rcases Nat.eq_zero_or_pos before.length with hStart | hPos
    · rw [List.length_eq_zero_iff.mp hStart, List.nil_append] at hEq
      exact Or.inl (List.append_cancel_left hEq ▸ hNext)
    · rcases Nat.lt_or_ge before.length label.length with hInside | hAfter
      · have hDrop : label.drop before.length ++ text = label ++ rest := by
          have hSame := congrArg (List.drop before.length) hEq
          rwa [List.drop_append_of_le_length hInside.le, List.drop_left] at hSame
        have hBorder : label.drop before.length <+: label := by
          apply List.prefix_of_prefix_length_le (List.prefix_append _ text)
          · exact hDrop ▸ List.prefix_append label rest
          · simp
        exact absurd hBorder (h.noBorder before.length hInside hPos)
      · obtain ⟨between, rfl⟩ : label <+: before := by
          apply List.prefix_of_prefix_length_le (List.prefix_append label text) _ hAfter
          exact hEq ▸ List.prefix_append before _
        rw [List.append_assoc] at hEq
        exact Or.inr (occurs_iff.mpr ⟨between, rest, List.append_cancel_left hEq, hNext⟩)
  · rintro (hNext | hFound)
    · exact occurs_iff.mpr ⟨[], text, rfl, hNext⟩
    · obtain ⟨before, rest, rfl, hNext⟩ := occurs_iff.mp hFound
      exact occurs_iff.mpr ⟨label ++ before, rest, by rw [List.append_assoc], hNext⟩

end Js
