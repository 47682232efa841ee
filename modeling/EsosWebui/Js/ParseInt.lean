import EsosWebui.Js.Number

/-! `Number.parseInt` of any text, and the texts of which it is the inverse. -/
namespace Js

namespace Number

def nan : Number := .other ['N', 'a', 'N'] false

/-- `-n`, of a number that is not negative. -/
def negate : Number → Number
  | int v => int (-v)
  | infinity => .other ('-' :: toText infinity) false
  | other printed positive => .other printed positive

def leadingDigits (s : Text) : Number :=
  let digits := s.takeWhile Char.isDigit
  if digits = [] then nan else parseInt digits

/-- `Number.parseInt(text, 10)` -/
def parseIntText (text : Text) : Number :=
  match trimStart text with
  | '-' :: rest => (leadingDigits rest).negate
  | '+' :: rest => leadingDigits rest
  | s => leadingDigits s

/-- `^[+-]?\d+$` -/
def isDecimal : Text → Bool
  | '-' :: rest => isDigits rest
  | '+' :: rest => isDigits rest
  | s => isDigits s

theorem ne_of_isDigit {c : Char} (h : c.isDigit) : c ≠ '-' ∧ c ≠ '+' := by
  constructor
  · rintro rfl
    exact absurd h (by decide)
  · rintro rfl
    exact absurd h (by decide)

theorem isDecimal_of_isDigits {s : Text} (h : isDigits s) : isDecimal s := by
  unfold isDecimal
  split
  · exact absurd h (by simp [isDigits, show ('-' : Char).isDigit = false by decide])
  · exact absurd h (by simp [isDigits, show ('+' : Char).isDigit = false by decide])
  · exact h

theorem takeWhile_of_isDigits {s : Text} (h : isDigits s) :
    s.takeWhile Char.isDigit = s ∧ s ≠ [] := by
  obtain ⟨hNe, hAll⟩ : s ≠ [] ∧ ∀ c ∈ s, c.isDigit = true := by simpa [isDigits] using h
  exact ⟨List.takeWhile_eq_self_iff.mpr hAll, hNe⟩

theorem leadingDigits_of_isDigits {s : Text} (h : isDigits s) :
    leadingDigits s = parseInt s := by
  obtain ⟨hTake, hNe⟩ := takeWhile_of_isDigits h
  rw [leadingDigits, hTake]
  exact if_neg hNe

theorem parseIntText_of_digit {c : Char} {s : Text} (h : c.isDigit) :
    parseIntText (c :: s) = leadingDigits (c :: s) := by
  have hSpace : isSpace c = false :=
    (isWord_of_isDigits (s := [c]) (by simp [isDigits, h])).2 c List.mem_cons_self
  have hStart : trimStart (c :: s) = c :: s :=
    (trimStart_eq_self_iff _).mpr (by simpa using hSpace)
  obtain ⟨hMinus, hPlus⟩ := ne_of_isDigit h
  rw [parseIntText, hStart]
  split
  · rename_i hEq
    exact absurd (List.cons.inj hEq).1 hMinus
  · rename_i hEq
    exact absurd (List.cons.inj hEq).1 hPlus
  · rfl

theorem parseIntText_of_isDigits {s : Text} (h : isDigits s) :
    parseIntText s = parseInt s := by
  obtain ⟨hTake, hNe⟩ := takeWhile_of_isDigits h
  cases s with
  | nil => exact absurd rfl hNe
  | cons c s =>
    have hc : c.isDigit = true := List.takeWhile_eq_self_iff.mp hTake c List.mem_cons_self
    rw [parseIntText_of_digit hc, leadingDigits_of_isDigits h]

theorem parseIntText_minus (s : Text) :
    parseIntText ('-' :: s) = (leadingDigits s).negate := rfl

theorem parseIntText_plus (s : Text) : parseIntText ('+' :: s) = leadingDigits s := rfl

theorem parseIntText_toText {v : Int} (h : v.natAbs < 2 ^ doubleBits) :
    parseIntText (int v).toText = int v := by
  cases v with
  | ofNat n =>
    obtain ⟨hDigits, hBack⟩ := printsAsDigits_of_lt (n := n) h
    exact (parseIntText_of_isDigits hDigits).trans hBack
  | negSucc n =>
    obtain ⟨hDigits, hBack⟩ := printsAsDigits_of_lt (n := n + 1) h
    have hText : (int (.negSucc n)).toText = '-' :: (int ((n + 1 : Nat) : Int)).toText := rfl
    rw [hText, parseIntText_minus, leadingDigits_of_isDigits hDigits, hBack]
    rfl

variable (digits : Text)

/-- A number read from digits prints with a sign once it is negated, unless it is zero. -/
theorem toText_negate_parseInt :
    (parseInt digits).negate = parseInt digits ∨
      (parseInt digits).negate.toText = '-' :: (parseInt digits).toText := by
  unfold parseInt ofNat
  split
  · cases roundToDouble (Nat.ofDigitChars 10 digits 0) with
    | zero => exact Or.inl rfl
    | succ n => exact Or.inr rfl
  · exact Or.inr rfl

theorem leadingDigits_cases (s : Text) :
    (s.takeWhile Char.isDigit = [] ∧ leadingDigits s = nan) ∨
      (s.takeWhile Char.isDigit ≠ [] ∧
        leadingDigits s = parseInt (s.takeWhile Char.isDigit)) := by
  unfold leadingDigits
  by_cases h : s.takeWhile Char.isDigit = []
  · exact Or.inl ⟨h, if_pos h⟩
  · exact Or.inr ⟨h, if_neg h⟩

theorem isWord_nan : IsWord nan.toText := by decide

theorem isWord_toText_leadingDigits (s : Text) :
    IsWord (leadingDigits s).toText ∧ IsWord (leadingDigits s).negate.toText := by
  rcases leadingDigits_cases s with ⟨-, hNan⟩ | ⟨-, hDigits⟩
  · rw [hNan]
    exact ⟨isWord_nan, isWord_nan⟩
  · rw [hDigits]
    have hWord := isWord_toText_parseInt (s.takeWhile Char.isDigit)
    refine ⟨hWord, ?_⟩
    rcases toText_negate_parseInt (s.takeWhile Char.isDigit) with hSame | hMinus
    · rwa [hSame]
    · rw [hMinus]
      exact ⟨List.cons_ne_nil _ _, List.forall_mem_cons.mpr ⟨by decide, hWord.2⟩⟩

theorem isWord_toText_parseIntText (text : Text) : IsWord (parseIntText text).toText := by
  unfold parseIntText
  split
  · exact (isWord_toText_leadingDigits _).2
  · exact (isWord_toText_leadingDigits _).1
  · exact (isWord_toText_leadingDigits _).1

theorem isWord_toText_int {v : Int} (h : v.natAbs < 2 ^ doubleBits) : IsWord (int v).toText := by
  have hWord := isWord_toText_parseIntText (int v).toText
  rwa [parseIntText_toText h] at hWord

/-- The number is an integer that prints without an exponent. -/
def PrintsPlainly (n : Number) : Prop := ∃ v : Int, n = int v ∧ v.natAbs < 10 ^ 21

theorem exponentText_shape (n : Nat) :
    ∃ d c rest, exponentText n = d :: c :: rest ∧ d.isDigit = true ∧ c.isDigit = false := by
  obtain ⟨hNe, hAll⟩ : Nat.toDigits 10 n ≠ [] ∧ ∀ c ∈ Nat.toDigits 10 n, c.isDigit = true := by
    simpa [isDigits] using isDigits_toDigits n
  obtain ⟨d, rest, hDigits⟩ := List.exists_cons_of_ne_nil hNe
  have hd : d.isDigit = true := hAll d (hDigits ▸ List.mem_cons_self)
  unfold exponentText
  rw [hDigits]
  dsimp only
  by_cases hFraction : (d :: rest).tail.rdropWhile (· == '0') = []
  · rw [if_pos hFraction]
    exact ⟨d, 'e', _, rfl, hd, by decide⟩
  · rw [if_neg hFraction]
    exact ⟨d, '.', _, rfl, hd, by decide⟩

theorem toText_parseInt_cases :
    (PrintsPlainly (parseInt digits) ∧ isDigits (parseInt digits).toText = true) ∨
      (¬ PrintsPlainly (parseInt digits) ∧
        ((∃ n, (parseInt digits).toText = exponentText n) ∨ parseInt digits = infinity)) := by
  unfold parseInt ofNat
  split
  · rename_i hRange
    generalize roundToDouble (Nat.ofDigitChars 10 digits 0) = m
    have hText : (int (m : Int)).toText = natText m := rfl
    rw [hText, natText]
    split
    · rename_i hSmall
      exact Or.inl ⟨⟨m, rfl, by simpa using hSmall⟩, isDigits_toDigits _⟩
    · rename_i hBig
      refine Or.inr ⟨?_, Or.inl ⟨_, rfl⟩⟩
      rintro ⟨v, hv, hSmall⟩
      obtain rfl : (m : Int) = v := int.inj hv
      exact hBig (by simpa using hSmall)
  · right
    refine ⟨?_, Or.inr rfl⟩
    rintro ⟨v, hv, -⟩
    cases hv

theorem isDigits_toText_parseInt_iff :
    isDigits (parseInt digits).toText = true ↔ PrintsPlainly (parseInt digits) := by
  rcases toText_parseInt_cases digits with ⟨hPlain, hDigits⟩ | ⟨hNot, hText⟩
  · exact iff_of_true hDigits hPlain
  · refine iff_of_false ?_ hNot
    rcases hText with ⟨n, hText⟩ | hInfinity
    · rw [hText, not_isDigits_exponentText]
      simp
    · rw [hInfinity]
      decide

theorem printsPlainly_negate_iff :
    PrintsPlainly (parseInt digits).negate ↔ PrintsPlainly (parseInt digits) := by
  cases hInt : parseInt digits with
  | int v =>
    constructor
    · rintro ⟨w, hw, hSmall⟩
      obtain rfl : -v = w := int.inj hw
      exact ⟨v, rfl, by simpa using hSmall⟩
    · rintro ⟨w, hw, hSmall⟩
      obtain rfl : v = w := int.inj hw
      exact ⟨-v, rfl, by simpa using hSmall⟩
  | infinity =>
    refine iff_of_false ?_ ?_
    · rintro ⟨w, hw, -⟩
      cases hw
    · rintro ⟨w, hw, -⟩
      cases hw
  | other printed positive => exact Iff.rfl

theorem head_toText_parseInt :
    ∃ c rest, (parseInt digits).toText = c :: rest ∧ c ≠ '-' ∧ c ≠ '+' := by
  rcases toText_parseInt_cases digits with ⟨-, hDigits⟩ | ⟨-, ⟨n, hText⟩ | hInfinity⟩
  · obtain ⟨hTake, hNe⟩ := takeWhile_of_isDigits hDigits
    obtain ⟨c, rest, hText⟩ := List.exists_cons_of_ne_nil hNe
    have hc : c.isDigit = true := by
      rw [hText] at hTake
      exact List.takeWhile_eq_self_iff.mp hTake c List.mem_cons_self
    exact ⟨c, rest, hText, ne_of_isDigit hc⟩
  · obtain ⟨d, c, rest, hShape, hd, -⟩ := exponentText_shape n
    exact ⟨d, c :: rest, hText.trans hShape, ne_of_isDigit hd⟩
  · rw [hInfinity]
    exact ⟨'I', _, rfl, by decide, by decide⟩

theorem isDecimal_of_head {c : Char} {rest : Text} (hMinus : c ≠ '-') (hPlus : c ≠ '+') :
    isDecimal (c :: rest) = isDigits (c :: rest) := by
  unfold isDecimal
  split
  · rename_i hEq
    exact absurd (List.cons.inj hEq).1 hMinus
  · rename_i hEq
    exact absurd (List.cons.inj hEq).1 hPlus
  · rfl

theorem isDecimal_toText_parseInt :
    isDecimal (parseInt digits).toText = true ↔ PrintsPlainly (parseInt digits) := by
  obtain ⟨c, rest, hText, hMinus, hPlus⟩ := head_toText_parseInt digits
  rw [← isDigits_toText_parseInt_iff, hText, isDecimal_of_head hMinus hPlus]

theorem isDecimal_toText_negate :
    (isDecimal (parseInt digits).negate.toText = true ↔
      PrintsPlainly (parseInt digits).negate) ∧
    (PrintsPlainly (parseInt digits).negate →
      parseIntText (parseInt digits).negate.toText = (parseInt digits).negate) := by
  rw [printsPlainly_negate_iff]
  rcases toText_negate_parseInt digits with hSame | hMinus
  · rw [hSame]
    refine ⟨isDecimal_toText_parseInt digits, fun hPlain => ?_⟩
    have hDigits := (isDigits_toText_parseInt_iff digits).mpr hPlain
    exact (parseIntText_of_isDigits hDigits).trans (parseInt_toText hDigits).2
  · rw [hMinus]
    refine ⟨isDigits_toText_parseInt_iff digits, fun hPlain => ?_⟩
    have hDigits := (isDigits_toText_parseInt_iff digits).mpr hPlain
    rw [parseIntText_minus, leadingDigits_of_isDigits hDigits, (parseInt_toText hDigits).2]

theorem isDecimal_toText_plus :
    (isDecimal (parseInt digits).toText = true ↔ PrintsPlainly (parseInt digits)) ∧
    (PrintsPlainly (parseInt digits) →
      parseIntText (parseInt digits).toText = parseInt digits) := by
  refine ⟨isDecimal_toText_parseInt digits, fun hPlain => ?_⟩
  have hDigits := (isDigits_toText_parseInt_iff digits).mpr hPlain
  exact (parseIntText_of_isDigits hDigits).trans (parseInt_toText hDigits).2

theorem isDecimal_toText_parseIntText {s : Text} (h : isDecimal s) :
    (isDecimal (parseIntText s).toText = true ↔ PrintsPlainly (parseIntText s)) ∧
    (PrintsPlainly (parseIntText s) →
      parseIntText (parseIntText s).toText = parseIntText s) := by
  unfold isDecimal at h
  split at h
  · rw [parseIntText_minus, leadingDigits_of_isDigits h]
    exact isDecimal_toText_negate _
  · rw [parseIntText_plus, leadingDigits_of_isDigits h]
    exact isDecimal_toText_plus _
  · rw [parseIntText_of_isDigits h]
    exact isDecimal_toText_plus _

/-- Reading the digits at the start of a number that does not print as digits gives another
number. -/
theorem isDigits_of_takeWhile {digits : Text} (hNe : digits ≠ [])
    (h : (parseInt digits).toText.takeWhile Char.isDigit = digits) :
    isDigits (parseInt digits).toText := by
  rcases toText_parseInt_cases digits with ⟨-, hDigits⟩ | ⟨hNot, ⟨n, hText⟩ | hInfinity⟩
  · exact hDigits
  · -- An exponent follows the first digit or a point, so there is only one digit to read.
    obtain ⟨d, c, rest, hShape, hd, hc⟩ := exponentText_shape n
    rw [hText, hShape, List.takeWhile_cons_of_pos hd,
      List.takeWhile_cons_of_neg (by simp [hc])] at h
    have hSmall : Nat.ofDigitChars 10 digits 0 < 2 ^ doubleBits := by
      have hNine : d.toNat ≤ 57 := by
        have hRange : decide (48 ≤ d.val) && decide (d.val ≤ 57) := hd
        simp [UInt32.le_iff_toNat_le] at hRange
        omega
      have hBits : (57 : Nat) < 2 ^ doubleBits := by decide
      rw [← h, Nat.ofDigitChars_cons, Nat.ofDigitChars_nil]
      omega
    have hPlain : PrintsPlainly (parseInt digits) := by
      rw [parseInt, ofNat_of_lt hSmall]
      refine ⟨_, rfl, ?_⟩
      have hLimit : (2 : Nat) ^ doubleBits < 10 ^ 21 := by decide
      simpa using hSmall.trans hLimit
    exact absurd hPlain hNot
  · rw [hInfinity] at h
    exact absurd h.symm hNe

/-- A text that is no decimal but what its number prints as is `NaN`. -/
theorem eq_nan_of_toText_eq {s : Text} (hNot : isDecimal s = false)
    (h : (parseIntText s).toText = s) : s = nan.toText := by
  have hWord : IsWord s := h ▸ isWord_toText_parseIntText s
  have hStart : trimStart s = s :=
    (trimStart_eq_self_iff s).mpr fun c hc => hWord.2 c (List.mem_of_head? hc)
  unfold parseIntText at h
  rw [hStart] at h
  split at h
  · rename_i rest
    rcases leadingDigits_cases rest with ⟨-, hNan⟩ | ⟨hNe, hDigits⟩
    · rw [hNan] at h
      exact absurd h (by simp [nan, negate, toText])
    · rw [hDigits] at h
      rcases toText_negate_parseInt (rest.takeWhile Char.isDigit) with hSame | hMinus
      · obtain ⟨c, tail, hText, hc, -⟩ := head_toText_parseInt (rest.takeWhile Char.isDigit)
        rw [hSame, hText] at h
        exact absurd (List.cons.inj h).1 hc
      · rw [hMinus] at h
        have hRest := (List.cons.inj h).2
        have hAll := isDigits_of_takeWhile hNe (congrArg _ hRest)
        rw [hRest] at hAll
        exact absurd (hNot.symm.trans hAll) (by simp)
  · rename_i rest
    rcases leadingDigits_cases rest with ⟨-, hNan⟩ | ⟨hNe, hDigits⟩
    · rw [hNan] at h
      exact absurd h (by simp [nan, toText])
    · obtain ⟨c, tail, hText, -, hc⟩ := head_toText_parseInt (rest.takeWhile Char.isDigit)
      rw [hDigits, hText] at h
      exact absurd (List.cons.inj h).1 hc
  · rcases leadingDigits_cases s with ⟨-, hNan⟩ | ⟨hNe, hDigits⟩
    · rw [hNan] at h
      exact h.symm
    · rw [hDigits] at h
      have hAll := isDigits_of_takeWhile hNe (congrArg _ h)
      rw [h] at hAll
      exact absurd (hNot.symm.trans (isDecimal_of_isDigits hAll)) (by simp)

end Number

end Js
