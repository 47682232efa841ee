import EsosWebui.Js.Pattern

/-! Numbers as far as configuration files use them: decimal digits read as a
double, and the text a double prints as. -/
namespace Js

def doubleBits : Nat := 53

/-- The double nearest to a natural number, the even one of two equally near ones.
The exponent range is left to `Number.ofNat`. -/
def roundToDouble (n : Nat) : Nat :=
  if n < 2 ^ doubleBits then n
  else
    let unit := 2 ^ (n.log2 + 1 - doubleBits)
    let q := n / unit
    let r := n % unit
    if unit < 2 * r ∨ (unit = 2 * r ∧ q % 2 = 1) then (q + 1) * unit else q * unit

/-- A number. Fractions, `NaN` and the negative infinity share `other`, which
keeps their text and whether they are greater than zero. -/
inductive Number where
  | int (value : Int)
  | infinity
  | other (printed : Text) (positive : Bool)
  deriving DecidableEq

namespace Number

/-- The exponent range of a double ends here. -/
@[irreducible] def maxExponent : Nat := 1024

def doubleLimit : Nat := 2 ^ maxExponent

def ofNat (n : Nat) : Number :=
  if roundToDouble n < doubleLimit then .int (roundToDouble n) else .infinity

/-- `Number.parseInt(digits, 10)` for a string of digits. -/
def parseInt (digits : Text) : Number := ofNat (Nat.ofDigitChars 10 digits 0)

/-- `Number.isInteger(n)` -/
def isInteger : Number → Bool
  | int _ => true
  | _ => false

/-- `n > 0` -/
def isPositive : Number → Bool
  | int v => 0 < v
  | infinity => true
  | other _ positive => positive

/-- A multiple of `10 ^ j` next to a double that reads back as that double. -/
def decimalCandidate (x j : Nat) : Option Nat :=
  let low := x / 10 ^ j * 10 ^ j
  let high := low + 10 ^ j
  if roundToDouble low = x ∧ (roundToDouble high ≠ x ∨ x - low ≤ high - x) then some low
  else if roundToDouble high = x then some high
  else none

def shortestDecimal (x : Nat) : Nat :=
  if x < 2 ^ doubleBits then x
  else ((List.range (Nat.toDigits 10 x).length).reverse.findSome? (decimalCandidate x)).getD x

/-- `d.ddde+N` -/
def exponentText (n : Nat) : Text :=
  let digits := Nat.toDigits 10 n
  let fraction := (digits.tail.rdropWhile (· == '0'))
  digits.take 1 ++ (if fraction = [] then [] else '.' :: fraction) ++
    'e' :: '+' :: Nat.toDigits 10 (digits.length - 1)

def natText (n : Nat) : Text :=
  if n < 10 ^ 21 then Nat.toDigits 10 (shortestDecimal n) else exponentText (shortestDecimal n)

/-- `String(n)` -/
def toText : Number → Text
  | int (.ofNat n) => natText n
  | int (.negSucc n) => '-' :: natText (n + 1)
  | infinity => ['I', 'n', 'f', 'i', 'n', 'i', 't', 'y']
  | other printed _ => printed

def PrintsAsDigits (n : Number) : Prop :=
  isDigits n.toText = true ∧ parseInt n.toText = n

instance (n : Number) : Decidable n.PrintsAsDigits := inferInstanceAs (Decidable (_ ∧ _))

end Number

theorem roundToDouble_of_lt {n : Nat} (h : n < 2 ^ doubleBits) : roundToDouble n = n := by
  rw [roundToDouble, if_pos h]

theorem roundToDouble_of_dvd {n : Nat} (h : 2 ^ (n.log2 + 1 - doubleBits) ∣ n) :
    roundToDouble n = n := by
  have hr : n % 2 ^ (n.log2 + 1 - doubleBits) = 0 := Nat.mod_eq_zero_of_dvd h
  have hPos := Nat.two_pow_pos (n.log2 + 1 - doubleBits)
  rw [roundToDouble]
  split
  · rfl
  · simp only [hr]
    rw [if_neg (by omega), Nat.div_mul_cancel h]

theorem roundToDouble_mul {q e : Nat} (hq : q ≤ 2 ^ doubleBits) :
    roundToDouble (q * 2 ^ e) = q * 2 ^ e := by
  rcases Nat.lt_or_ge (q * 2 ^ e) (2 ^ doubleBits) with hSmall | hBig
  · exact roundToDouble_of_lt hSmall
  · have hne : q * 2 ^ e ≠ 0 := by
      have := Nat.two_pow_pos doubleBits
      omega
    apply roundToDouble_of_dvd
    rcases Nat.lt_or_eq_of_le hq with hLt | rfl
    · have hLog : (q * 2 ^ e).log2 < doubleBits + e := by
        rw [Nat.log2_lt hne, Nat.pow_add]
        exact Nat.mul_lt_mul_of_pos_right hLt (Nat.two_pow_pos e)
      exact Nat.dvd_trans (Nat.pow_dvd_pow 2 (by omega)) (Nat.dvd_mul_left _ _)
    · have hLog : (2 ^ doubleBits * 2 ^ e).log2 = doubleBits + e := by
        rw [← Nat.pow_add, Nat.log2_two_pow]
      rw [hLog, ← Nat.pow_add]
      exact Nat.pow_dvd_pow 2 (by simp only [doubleBits]; omega)

theorem roundToDouble_roundToDouble (n : Nat) :
    roundToDouble (roundToDouble n) = roundToDouble n := by
  rcases Nat.lt_or_ge n (2 ^ doubleBits) with hSmall | hBig
  · rw [roundToDouble_of_lt hSmall, roundToDouble_of_lt hSmall]
  · have hQuot : n / 2 ^ (n.log2 + 1 - doubleBits) < 2 ^ doubleBits := by
      rw [Nat.div_lt_iff_lt_mul (Nat.two_pow_pos _), ← Nat.pow_add]
      have hne : n ≠ 0 := by
        have := Nat.two_pow_pos doubleBits
        omega
      exact ((Nat.log2_lt hne).mp (Nat.lt_succ_self _)).trans_le
        (Nat.pow_le_pow_right (by omega) (by omega))
    have hRound : ∃ q, q ≤ 2 ^ doubleBits ∧
        roundToDouble n = q * 2 ^ (n.log2 + 1 - doubleBits) := by
      rw [roundToDouble, if_neg (by omega)]
      dsimp only
      split
      · exact ⟨_, hQuot, rfl⟩
      · exact ⟨_, hQuot.le, rfl⟩
    obtain ⟨q, hq, hEq⟩ := hRound
    rw [hEq, roundToDouble_mul hq]

namespace Number

theorem roundToDouble_decimalCandidate {x j d : Nat} (h : decimalCandidate x j = some d) :
    roundToDouble d = x := by
  simp only [decimalCandidate] at h
  split at h
  · rename_i hLow
    rw [← Option.some.inj h]
    exact hLow.1
  · split at h
    · rename_i hHigh
      rw [← Option.some.inj h]
      exact hHigh
    · simp at h

theorem roundToDouble_shortestDecimal {x : Nat} (h : roundToDouble x = x) :
    roundToDouble (shortestDecimal x) = x := by
  unfold shortestDecimal
  split
  · exact h
  · cases hFind : (List.range (Nat.toDigits 10 x).length).reverse.findSome? (decimalCandidate x) with
    | none => exact h
    | some d =>
      obtain ⟨j, -, hj⟩ := List.exists_of_findSome?_eq_some hFind
      exact roundToDouble_decimalCandidate hj

theorem ofNat_of_lt {n : Nat} (h : n < 2 ^ doubleBits) : ofNat n = .int n := by
  have hLimit : 2 ^ doubleBits < doubleLimit :=
    Nat.pow_lt_pow_right (by omega) (by simp [doubleBits, maxExponent])
  rw [ofNat, roundToDouble_of_lt h, if_pos (by omega)]

theorem isDigits_toDigits (n : Nat) : isDigits (Nat.toDigits 10 n) := by
  have hne : Nat.toDigits 10 n ≠ [] := by
    intro h
    have := Nat.length_toDigits_pos (b := 10) (n := n)
    simp [h] at this
  simp only [isDigits, Bool.and_eq_true, Bool.not_eq_true', List.isEmpty_eq_false_iff,
    List.all_eq_true]
  exact ⟨hne, fun c hc => Nat.isDigit_of_mem_toDigits (by omega) (by omega) hc⟩

theorem printsAsDigits_of_lt {n : Nat} (h : n < 2 ^ doubleBits) :
    (int n).PrintsAsDigits := by
  have hBound : (2 : Nat) ^ doubleBits < 10 ^ 21 := by decide
  have hText : (int n).toText = Nat.toDigits 10 n := by
    have hInt : (int n).toText = natText n := rfl
    rw [hInt, natText, if_pos (by omega), shortestDecimal, if_pos h]
  refine ⟨hText ▸ isDigits_toDigits n, ?_⟩
  rw [hText, parseInt, Nat.ofDigitChars_ten_toDigits, ofNat_of_lt h]

theorem not_isDigits_exponentText (n : Nat) : isDigits (exponentText n) = false := by
  have hMem : 'e' ∈ exponentText n := by simp [exponentText]
  rw [isDigits, Bool.and_eq_false_iff]
  right
  rw [List.all_eq_false]
  exact ⟨'e', hMem, by decide⟩

theorem parseInt_toText {digits : Text} (h : isDigits (parseInt digits).toText) :
    (parseInt digits).PrintsAsDigits := by
  refine ⟨h, ?_⟩
  have hCases (n : Nat) (hn : isDigits (ofNat n).toText = true) :
      parseInt (ofNat n).toText = ofNat n := by
    by_cases hRange : roundToDouble n < doubleLimit
    · have hInt : ofNat n = .int (roundToDouble n) := if_pos hRange
      have hText : (ofNat n).toText = natText (roundToDouble n) := by rw [hInt]; rfl
      rw [hText, natText] at hn ⊢
      split at hn
      · rename_i hSmall
        rw [if_pos hSmall, parseInt, Nat.ofDigitChars_ten_toDigits, ofNat,
          roundToDouble_shortestDecimal (roundToDouble_roundToDouble n), if_pos hRange, hInt]
      · simp [not_isDigits_exponentText] at hn
    · have hInf : ofNat n = .infinity := if_neg hRange
      rw [hInf] at hn
      exact absurd hn (by decide)
  exact hCases _ h

theorem mem_toText_parseInt {digits : Text} {c : Char} (h : c ∈ (parseInt digits).toText) :
    c.isDigit = true ∨ c ∈ ['.', 'e', '+', 'I', 'n', 'f', 'i', 't', 'y'] := by
  have hDigits {n : Nat} (hc : c ∈ Nat.toDigits 10 n) : c.isDigit = true :=
    Nat.isDigit_of_mem_toDigits (by omega) (by omega) hc
  have hNat (n : Nat) (hc : c ∈ natText n) : c.isDigit = true ∨ c ∈ ['.', 'e', '+'] := by
    unfold natText at hc
    split at hc
    · exact Or.inl (hDigits hc)
    · have hTail {x : Char} (hx : x ∈ ((Nat.toDigits 10 (shortestDecimal n)).tail.rdropWhile
          (· == '0'))) : x ∈ Nat.toDigits 10 (shortestDecimal n) :=
        List.mem_of_mem_tail ((List.rdropWhile_prefix _ _).subset hx)
      simp only [exponentText, List.mem_append, List.mem_cons] at hc
      rcases hc with (hc | hc) | rfl | rfl | hc
      · exact Or.inl (hDigits (List.mem_of_mem_take hc))
      · split at hc
        · simp at hc
        · rcases List.mem_cons.mp hc with rfl | hc
          · simp
          · exact Or.inl (hDigits (hTail hc))
      · simp
      · simp
      · exact Or.inl (hDigits hc)
  unfold parseInt ofNat at h
  split at h
  · rcases hNat _ h with h | h
    · exact Or.inl h
    · exact Or.inr (by simp at h ⊢; tauto)
  · exact Or.inr (by simp [toText] at h ⊢; tauto)

theorem isWord_toText_parseInt (digits : Text) : IsWord (parseInt digits).toText := by
  have hne : (parseInt digits).toText ≠ [] := by
    have hNat (n : Nat) : natText n ≠ [] := by
      unfold natText
      split
      · have := (isWord_of_isDigits (isDigits_toDigits (shortestDecimal n))).ne_nil
        exact this
      · simp [exponentText]
    unfold parseInt ofNat
    split
    · exact hNat _
    · simp [toText]
  refine ⟨hne, fun c hc => ?_⟩
  rcases mem_toText_parseInt hc with h | h
  · exact (isWord_of_isDigits (s := [c]) (by simpa [isDigits] using h)).2 c (by simp)
  · have hWord : IsWord ['.', 'e', '+', 'I', 'n', 'f', 'i', 't', 'y'] := by decide
    exact hWord.2 c h

theorem quotes_toText_parseInt (digits : Text) : quotes (parseInt digits).toText = 0 := by
  refine quotes_eq_zero fun hMem => ?_
  rcases mem_toText_parseInt hMem with h | h <;> exact absurd h (by decide)

end Number

end Js
