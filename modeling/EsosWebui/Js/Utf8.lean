import EsosWebui.Js.Base64

/-! Bytes that are decoded as UTF-8, with a replacement for what is no character: all at once, and
one chunk after the other. -/
namespace Js.Utf8

/-- A sequence that has begun: how many bytes it needs yet, the range of the next one, and the
bits read so far. -/
structure Open where
  needed : Nat
  lower : Nat := 0x80
  upper : Nat := 0xBF
  bits : Nat
  le_lower : 0x80 ≤ lower := by decide
  upper_le : upper ≤ 0xBF := by decide
  deriving DecidableEq

def Open.Accepts (o : Open) (b : Nat) : Prop := o.lower ≤ b ∧ b ≤ o.upper

instance (o : Open) (b : Nat) : Decidable (o.Accepts b) := inferInstanceAs (Decidable (_ ∧ _))

def replacement : Char := Char.ofNat 0xFFFD

/-- What is decoded at the first byte of a sequence, and the sequence if it needs more. -/
def first (b : Nat) : Text × Option Open :=
  if b < 0x80 then ([Char.ofNat b], none)
  else if 0xC2 ≤ b ∧ b < 0xE0 then ([], some { needed := 1, bits := b % 0x20 })
  else if 0xE0 ≤ b ∧ b < 0xF0 then
    ([], some {
      needed := 2
      lower := if b = 0xE0 then 0xA0 else 0x80
      upper := if b = 0xED then 0x9F else 0xBF
      bits := b % 0x10
      le_lower := by split <;> decide
      upper_le := by split <;> decide })
  else if 0xF0 ≤ b ∧ b < 0xF5 then
    ([], some {
      needed := 3
      lower := if b = 0xF0 then 0x90 else 0x80
      upper := if b = 0xF4 then 0x8F else 0xBF
      bits := b % 0x08
      le_lower := by split <;> decide
      upper_le := by split <;> decide })
  else ([replacement], none)

/-- A byte that does not continue a sequence is read again, as a first one. -/
def step : Option Open → Nat → Text × Option Open
  | none, b => first b
  | some o, b =>
    let bits := o.bits * 0x40 + b % 0x40
    if ¬ o.Accepts b then (replacement :: (first b).1, (first b).2)
    else if o.needed = 1 then ([Char.ofNat bits], none)
    else ([], some { needed := o.needed - 1, bits })

/-- What stands at the end of the bytes for a sequence that needs more. -/
def flush (o : Option Open) : Text := (o.map fun _ => replacement).toList

def decodeFrom : Option Open → Bytes → Text
  | o, [] => flush o
  | o, byte :: rest => (step o byte.toNat).1 ++ decodeFrom (step o byte.toNat).2 rest

/-- `bytes.toString('utf-8')` -/
def decode (bytes : Bytes) : Text := decodeFrom none bytes

def stateFrom (o : Option Open) (bytes : Bytes) : Option Open :=
  bytes.foldl (fun o byte => (step o byte.toNat).2) o

/-- The bytes begin with one that continues the sequence. -/
def Continues (o : Option Open) (bytes : Bytes) : Prop :=
  ∃ s ∈ o, ∃ byte ∈ bytes.head?, s.Accepts byte.toNat

/-- No chunk ends within a sequence that the bytes after it continue. -/
def Whole : List Bytes → Prop
  | [] => True
  | chunk :: rest => ¬ Continues (stateFrom none chunk) rest.flatten ∧ Whole rest

/-- A byte that continues a sequence begins none. -/
theorem first_of_accepts {s : Open} {b : Nat} (h : s.Accepts b) :
    first b = ([replacement], none) := by
  have hLower := s.le_lower
  have hUpper := s.upper_le
  obtain ⟨hLe, hGe⟩ := h
  unfold first
  rw [if_neg (by omega), if_neg (by omega), if_neg (by omega), if_neg (by omega)]

theorem length_flush_le (o : Option Open) : (flush o).length ≤ 1 := by
  cases o with
  | none => exact Nat.zero_le 1
  | some s => exact Nat.le_refl 1

/-- A sequence that is dropped is replaced, and one that is kept yields a shorter text. -/
theorem decodeFrom_cases (o : Option Open) (bytes : Bytes) :
    (¬ Continues o bytes ∧ decodeFrom o bytes = flush o ++ decode bytes) ∨
      Continues o bytes ∧ (decodeFrom o bytes).length < (flush o ++ decode bytes).length := by
  induction bytes generalizing o with
  | nil => exact .inl ⟨by simp [Continues], (List.append_nil _).symm⟩
  | cons byte rest ih =>
    cases o with
    | none => exact .inl ⟨by simp [Continues], rfl⟩
    | some s =>
      by_cases hAccepts : s.Accepts byte.toNat
      · refine .inr ⟨⟨s, rfl, byte, rfl, hAccepts⟩, ?_⟩
        have hRest (next : Option Open) :
            (decodeFrom next rest).length ≤ 1 + (decode rest).length := by
          have hFlush := length_flush_le next
          rcases ih next with ⟨-, hEq⟩ | ⟨-, hLt⟩
          · rw [hEq, List.length_append]
            omega
          · rw [List.length_append] at hLt
            omega
        have hDecode : decode (byte :: rest) = replacement :: decode rest := by
          rw [decode, decodeFrom, step, first_of_accepts hAccepts]
          rfl
        rw [hDecode, decodeFrom, step, if_neg (not_not.mpr hAccepts)]
        split
        · simp [flush, decode]
        · refine (hRest _).trans_lt ?_
          simp [flush]
          omega
      · left
        refine ⟨by simpa [Continues] using hAccepts, ?_⟩
        rw [decodeFrom, step, if_pos hAccepts]
        rfl

/-- Two parts are decoded as their whole unless a sequence goes on from one to the other. -/
theorem decodeFrom_append_cases (o : Option Open) (front back : Bytes) :
    (¬ Continues (stateFrom o front) back ∧
        decodeFrom o (front ++ back) = decodeFrom o front ++ decode back) ∨
      Continues (stateFrom o front) back ∧
        (decodeFrom o (front ++ back)).length < (decodeFrom o front ++ decode back).length := by
  induction front generalizing o with
  | nil => exact decodeFrom_cases o back
  | cons byte front ih =>
    have hWhole : decodeFrom o (byte :: front ++ back) =
        (step o byte.toNat).1 ++ decodeFrom (step o byte.toNat).2 (front ++ back) := rfl
    rw [hWhole, decodeFrom, List.append_assoc]
    rcases ih (step o byte.toNat).2 with ⟨hStops, hEq⟩ | ⟨hContinues, hLt⟩
    · exact .inl ⟨hStops, by rw [hEq]⟩
    · refine .inr ⟨hContinues, ?_⟩
      simpa only [List.length_append, Nat.add_assoc, Nat.add_lt_add_iff_left] using hLt

theorem length_decode_flatten_le (chunks : List Bytes) :
    (decode chunks.flatten).length ≤ (chunks.flatMap decode).length := by
  induction chunks with
  | nil => exact Nat.le_refl 0
  | cons chunk rest ih =>
    rw [List.flatten_cons, List.flatMap_cons, List.length_append]
    rcases decodeFrom_append_cases none chunk rest.flatten with ⟨-, hEq⟩ | ⟨-, hLt⟩
    · rw [decode, hEq, List.length_append]
      exact Nat.add_le_add_left ih _
    · rw [List.length_append] at hLt
      exact hLt.le.trans (Nat.add_le_add_left ih _)

theorem flatMap_decode_eq_iff (chunks : List Bytes) :
    chunks.flatMap decode = decode chunks.flatten ↔ Whole chunks := by
  induction chunks with
  | nil => exact iff_of_true rfl trivial
  | cons chunk rest ih =>
    rw [List.flatten_cons, List.flatMap_cons, Whole]
    rcases decodeFrom_append_cases none chunk rest.flatten with ⟨hStops, hEq⟩ | ⟨hContinues, hLt⟩
    · rw [decode, decode, hEq, List.append_cancel_left_eq, ih]
      exact (and_iff_right hStops).symm
    · refine iff_of_false (fun hSame => ?_) fun h => h.1 hContinues
      have hLe := length_decode_flatten_le rest
      rw [← decode, ← hSame, ← decode, List.length_append, List.length_append] at hLt
      omega

theorem toNat_ofNat {n : Nat} (h : n < 256) : (UInt8.ofNat n).toNat = n := by
  rw [UInt8.toNat_ofNat', Nat.mod_eq_of_lt h]

section

variable {s : Open} {n m : Nat}

theorem decodeFrom_more (hNeeded : s.needed = m + 2) (hByte : n < 256) (hLower : s.lower ≤ n)
    (hUpper : n ≤ s.upper) (rest : Bytes) :
    decodeFrom (some s) (UInt8.ofNat n :: rest) =
      decodeFrom (some { needed := m + 1, bits := s.bits * 0x40 + n % 0x40 }) rest := by
  rw [decodeFrom, toNat_ofNat hByte, step, if_neg (not_not.mpr ⟨hLower, hUpper⟩),
    if_neg (by omega)]
  simp only [hNeeded, Nat.add_one_sub_one, List.nil_append]

theorem decodeFrom_last (hNeeded : s.needed = 1) (hByte : n < 256) (hLower : s.lower ≤ n)
    (hUpper : n ≤ s.upper) (rest : Bytes) :
    decodeFrom (some s) (UInt8.ofNat n :: rest) =
      Char.ofNat (s.bits * 0x40 + n % 0x40) :: decode rest := by
  rw [decodeFrom, toNat_ofNat hByte, step, if_neg (not_not.mpr ⟨hLower, hUpper⟩), if_pos hNeeded]
  rfl

end

theorem decode_encodeChar (c : Char) (rest : Bytes) :
    decode (String.utf8EncodeChar c ++ rest) = c :: decode rest := by
  have hValid : c.val.toNat < 0xD800 ∨ 0xDFFF < c.val.toNat ∧ c.val.toNat < 0x110000 := c.valid
  have hChar : Char.ofNat c.val.toNat = c := Char.ofNat_toNat c
  unfold String.utf8EncodeChar
  generalize c.val.toNat = v at hValid hChar ⊢
  dsimp only
  split_ifs with h1 h2 h3
  · rw [List.singleton_append, decode, decodeFrom, toNat_ofNat (by omega), step, first,
      if_pos (by omega), hChar]
    rfl
  · rw [List.cons_append, decode, decodeFrom, toNat_ofNat (by omega), step, first,
      if_neg (by omega), if_pos (by omega), List.nil_append, List.singleton_append,
      decodeFrom_last rfl (by omega) (by dsimp only; omega) (by dsimp only; omega)]
    have hBits : ((v / 64 % 32 + 192) % 32) * 64 + (v % 64 + 128) % 64 = v := by omega
    exact congrArg (· :: decode rest) ((congrArg Char.ofNat hBits).trans hChar)
  · rw [List.cons_append, decode, decodeFrom, toNat_ofNat (by omega), step, first,
      if_neg (by omega), if_neg (by omega), if_pos (by omega), List.nil_append, List.cons_append,
      decodeFrom_more rfl (by omega) (by dsimp only; split <;> omega)
        (by dsimp only; split <;> omega), List.singleton_append,
      decodeFrom_last rfl (by omega) (by dsimp only; omega) (by dsimp only; omega)]
    have hBits : ((v / 4096 % 16 + 224) % 16 * 64 + (v / 64 % 64 + 128) % 64) * 64 +
        (v % 64 + 128) % 64 = v := by omega
    exact congrArg (· :: decode rest) ((congrArg Char.ofNat hBits).trans hChar)
  · rw [List.cons_append, decode, decodeFrom, toNat_ofNat (by omega), step, first,
      if_neg (by omega), if_neg (by omega), if_neg (by omega), if_pos (by omega), List.nil_append,
      List.cons_append,
      decodeFrom_more rfl (by omega) (by dsimp only; split <;> omega)
        (by dsimp only; split <;> omega), List.cons_append,
      decodeFrom_more rfl (by omega) (by dsimp only; omega) (by dsimp only; omega),
      List.singleton_append,
      decodeFrom_last rfl (by omega) (by dsimp only; omega) (by dsimp only; omega)]
    have hBits : (((v / 262144 % 8 + 240) % 8 * 64 + (v / 4096 % 64 + 128) % 64) * 64 +
        (v / 64 % 64 + 128) % 64) * 64 + (v % 64 + 128) % 64 = v := by omega
    exact congrArg (· :: decode rest) ((congrArg Char.ofNat hBits).trans hChar)

theorem decode_utf8 (text : Text) : decode (utf8 text) = text := by
  induction text with
  | nil => rfl
  | cons c text ih =>
    rw [utf8, List.flatMap_cons, decode_encodeChar]
    exact congrArg (c :: ·) ih

end Js.Utf8
