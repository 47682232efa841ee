import EsosWebui.Js.Text

/-! What `JSON.stringify` prints for texts, arrays and objects, and why a printed
value can be read off the front of any text. -/
namespace Js

def hexDigit (n : Nat) : Char := (Nat.toDigits 16 n).headD '0'

/-- A character inside a string literal. -/
def escapeChar (c : Char) : Text :=
  if c = '"' then ['\\', '"']
  else if c = '\\' then ['\\', '\\']
  else if c.toNat = 8 then ['\\', 'b']
  else if c.toNat = 9 then ['\\', 't']
  else if c.toNat = 10 then ['\\', 'n']
  else if c.toNat = 12 then ['\\', 'f']
  else if c.toNat = 13 then ['\\', 'r']
  else if c.toNat < 32 then ['\\', 'u', '0', '0', hexDigit (c.toNat / 16), hexDigit (c.toNat % 16)]
  else [c]

def jsonString (s : String) : Text := '"' :: s.toList.flatMap escapeChar ++ ['"']

/-- The elements of an array after the first, and its end. -/
def jsonRest {α : Type} (print : α → Text) : List α → Text
  | [] => [']']
  | a :: l => ',' :: print a ++ jsonRest print l

def jsonArray {α : Type} (print : α → Text) : List α → Text
  | [] => ['[', ']']
  | a :: l => '[' :: print a ++ jsonRest print l

def jsonObject (fields : List (String × Text)) : Text :=
  '{' :: [','].intercalate (fields.map fun field => jsonString field.1 ++ ':' :: field.2) ++ ['}']

/-- What is printed for a value can be split off the front of any text. -/
def PrefixFree {α : Type} (print : α → Text) : Prop :=
  ∀ (a b : α) (s t : Text), print a ++ s = print b ++ t → a = b ∧ s = t

private theorem toNat_injective {c d : Char} (h : c.toNat = d.toNat) : c = d :=
  Char.ext (UInt32.toNat_inj.mp h)

private theorem hexDigit_inj : ∀ m < 16, ∀ n < 16, hexDigit m = hexDigit n → m = n := by
  decide

private theorem escapeChar_cases (c : Char) :
    (escapeChar c = [c] ∧ c ≠ '"' ∧ c ≠ '\\') ∨
      (∃ e, escapeChar c = ['\\', e] ∧ e ≠ 'u' ∧
        ((c = '"' ∧ e = '"') ∨ (c = '\\' ∧ e = '\\') ∨ (c.toNat = 8 ∧ e = 'b') ∨
          (c.toNat = 9 ∧ e = 't') ∨ (c.toNat = 10 ∧ e = 'n') ∨ (c.toNat = 12 ∧ e = 'f') ∨
          (c.toNat = 13 ∧ e = 'r'))) ∨
      (c.toNat < 32 ∧
        escapeChar c =
          ['\\', 'u', '0', '0', hexDigit (c.toNat / 16), hexDigit (c.toNat % 16)]) := by
  unfold escapeChar
  split_ifs with h₁ h₂ h₃ h₄ h₅ h₆ h₇ h₈
  · exact Or.inr (Or.inl ⟨'"', rfl, by decide, by simp [h₁]⟩)
  · exact Or.inr (Or.inl ⟨'\\', rfl, by decide, by simp [h₂]⟩)
  · exact Or.inr (Or.inl ⟨'b', rfl, by decide, by simp [h₃]⟩)
  · exact Or.inr (Or.inl ⟨'t', rfl, by decide, by simp [h₄]⟩)
  · exact Or.inr (Or.inl ⟨'n', rfl, by decide, by simp [h₅]⟩)
  · exact Or.inr (Or.inl ⟨'f', rfl, by decide, by simp [h₆]⟩)
  · exact Or.inr (Or.inl ⟨'r', rfl, by decide, by simp [h₇]⟩)
  · exact Or.inr (Or.inr ⟨h₈, rfl⟩)
  · exact Or.inl ⟨rfl, h₁, h₂⟩

private theorem escapeChar_prefixFree : PrefixFree escapeChar := by
  intro c d s t h
  rcases escapeChar_cases c with ⟨hc, hcq, hcb⟩ | ⟨e, hc, heu, hce⟩ | ⟨hc32, hc⟩ <;>
    rcases escapeChar_cases d with ⟨hd, hdq, hdb⟩ | ⟨f, hd, hfu, hdf⟩ | ⟨hd32, hd⟩ <;>
    rw [hc, hd] at h <;> simp only [List.cons_append, List.nil_append, List.cons.injEq] at h
  · exact h
  · exact absurd h.1 hcb
  · exact absurd h.1 hcb
  · exact absurd h.1.symm hdb
  · obtain ⟨-, rfl, hst⟩ := h
    refine ⟨?_, hst⟩
    rcases hce with ⟨rfl, rfl⟩ | ⟨rfl, rfl⟩ | ⟨h₁, rfl⟩ | ⟨h₁, rfl⟩ | ⟨h₁, rfl⟩ | ⟨h₁, rfl⟩ |
      ⟨h₁, rfl⟩ <;> simp at hdf <;>
      first
        | exact hdf.symm
        | exact toNat_injective (h₁.trans hdf.symm)
  · exact absurd h.2.1 heu
  · exact absurd h.1.symm hdb
  · exact absurd h.2.1.symm hfu
  · obtain ⟨-, -, -, -, hHigh, hLow, hst⟩ := h
    have hQuot := hexDigit_inj _ (by omega) _ (by omega) hHigh
    have hRem := hexDigit_inj _ (by omega) _ (by omega) hLow
    exact ⟨toNat_injective (by omega), hst⟩

private theorem escapeChar_ne_quote (c : Char) (s t : Text) :
    escapeChar c ++ s ≠ '"' :: t := by
  intro h
  rcases escapeChar_cases c with ⟨hc, hcq, -⟩ | ⟨e, hc, -⟩ | ⟨-, hc⟩ <;> rw [hc] at h <;>
    simp only [List.cons_append, List.nil_append, List.cons.injEq] at h
  · exact hcq h.1
  · exact absurd h.1 (by decide)
  · exact absurd h.1 (by decide)

private theorem escaped_inj (l m s t : Text)
    (h : l.flatMap escapeChar ++ '"' :: s = m.flatMap escapeChar ++ '"' :: t) :
    l = m ∧ s = t := by
  induction l generalizing m with
  | nil =>
    cases m with
    | nil => exact ⟨rfl, (List.cons.inj h).2⟩
    | cons d m =>
      rw [List.flatMap_cons, List.append_assoc] at h
      exact absurd h.symm (escapeChar_ne_quote d _ _)
  | cons c l ih =>
    rw [List.flatMap_cons, List.append_assoc] at h
    cases m with
    | nil => exact absurd h (escapeChar_ne_quote c _ _)
    | cons d m =>
      rw [List.flatMap_cons, List.append_assoc] at h
      obtain ⟨rfl, hRest⟩ := escapeChar_prefixFree _ _ _ _ h
      obtain ⟨rfl, hst⟩ := ih m hRest
      exact ⟨rfl, hst⟩

theorem jsonString_prefixFree : PrefixFree jsonString := by
  intro a b s t h
  simp only [jsonString, List.cons_append, List.append_assoc, List.nil_append,
    List.cons.injEq, true_and] at h
  obtain ⟨hSame, hst⟩ := escaped_inj _ _ _ _ h
  exact ⟨String.toList_injective hSame, hst⟩

section

variable {α : Type} {print : α → Text}

private theorem jsonRest_prefixFree (hPrint : PrefixFree print) :
    PrefixFree (jsonRest print) := by
  intro l m s t h
  induction l generalizing m with
  | nil =>
    cases m with
    | nil => exact ⟨rfl, (List.cons.inj h).2⟩
    | cons b m => exact absurd (List.cons.inj h).1 (by decide)
  | cons a l ih =>
    cases m with
    | nil => exact absurd (List.cons.inj h).1 (by decide)
    | cons b m =>
      simp only [jsonRest, List.cons_append, List.append_assoc, List.cons.injEq,
        true_and] at h
      obtain ⟨rfl, hRest⟩ := hPrint _ _ _ _ h
      obtain ⟨rfl, hst⟩ := ih m hRest
      exact ⟨rfl, hst⟩

theorem jsonArray_prefixFree (hPrint : PrefixFree print)
    (hOpen : ∀ a s t, print a ++ s ≠ ']' :: t) : PrefixFree (jsonArray print) := by
  intro l m s t h
  cases l with
  | nil =>
    cases m with
    | nil => exact ⟨rfl, by simpa [jsonArray] using h⟩
    | cons b m =>
      simp only [jsonArray, List.cons_append, List.append_assoc, List.nil_append,
        List.cons.injEq, true_and] at h
      exact absurd h.symm (hOpen b _ _)
  | cons a l =>
    cases m with
    | nil =>
      simp only [jsonArray, List.cons_append, List.append_assoc, List.nil_append,
        List.cons.injEq, true_and] at h
      exact absurd h (hOpen a _ _)
    | cons b m =>
      simp only [jsonArray, List.cons_append, List.append_assoc, List.cons.injEq,
        true_and] at h
      obtain ⟨rfl, hRest⟩ := hPrint _ _ _ _ h
      obtain ⟨rfl, hst⟩ := jsonRest_prefixFree hPrint _ _ _ _ hRest
      exact ⟨rfl, hst⟩

end

variable {α : Type} {print : α → Text}

/-- The fields of an object after the first, and its end. -/
def jsonFields : List (String × Text) → Text
  | [] => ['}']
  | field :: fields => ',' :: (jsonString field.1 ++ ':' :: field.2) ++ jsonFields fields

private theorem intercalate_fields (field : Text) (fields : List (String × Text)) :
    [','].intercalate (field :: fields.map fun f => jsonString f.1 ++ ':' :: f.2) ++ ['}'] =
      field ++ jsonFields fields := by
  induction fields generalizing field with
  | nil => simp [jsonFields, List.intercalate]
  | cons next fields ih =>
    rw [List.map_cons, List.intercalate_cons_cons, List.append_assoc, ih]
    simp [jsonFields]

theorem jsonObject_cons (field : String × Text) (fields : List (String × Text)) :
    jsonObject (field :: fields) =
      '{' :: (jsonString field.1 ++ ':' :: field.2) ++ jsonFields fields := by
  rw [jsonObject, List.map_cons, List.cons_append, intercalate_fields]
  rfl

theorem field_inj (hPrint : PrefixFree print) {c : Char} {key : String} {a b : α} {s t : Text}
    (h : c :: (jsonString key ++ ':' :: print a) ++ s =
      c :: (jsonString key ++ ':' :: print b) ++ t) : a = b ∧ s = t := by
  simp only [List.cons_append, List.append_assoc, List.cons.injEq, true_and] at h
  have hValue := List.append_cancel_left h
  exact hPrint _ _ _ _ (List.cons.inj hValue).2

end Js

/-! What `JSON.parse` reads from a text. A numeral keeps its text; the half of a surrogate pair that
stands alone is read as the replacement character. -/
namespace Js

inductive Json where
  | null
  | bool (value : Bool)
  | number (numeral : Text)
  | string (value : Text)
  | array (items : List Json)
  | object (fields : List (Text × Json))

namespace Json

/-- A character that may stand between the parts of a value. -/
def isJsonSpace (c : Char) : Bool := c == ' ' || c == '\t' || c == '\n' || c == '\r'

def skipSpace (s : Text) : Text := s.dropWhile isJsonSpace

def hexValue (c : Char) : Option Nat :=
  if c.isDigit then some (c.toNat - '0'.toNat)
  else if 'a' ≤ c ∧ c ≤ 'f' then some (c.toNat - 'a'.toNat + 10)
  else if 'A' ≤ c ∧ c ≤ 'F' then some (c.toNat - 'A'.toNat + 10)
  else none

def codeUnit : Text → Option (Nat × Text)
  | a :: b :: c :: d :: rest => do
      let high := (← hexValue a) * 16 + (← hexValue b)
      let low := (← hexValue c) * 16 + (← hexValue d)
      return (high * 256 + low, rest)
  | _ => none

def replacementChar : Char := Char.ofNat 0xFFFD

/-- The character of a code unit; with the next one, if the two are a surrogate pair. -/
def unicodeChar (unit : Nat) (rest : Text) : Char × Text :=
  if 0xD800 ≤ unit ∧ unit < 0xDC00 then
    match rest with
    | '\\' :: 'u' :: more =>
      match codeUnit more with
      | some (low, after) =>
        if 0xDC00 ≤ low ∧ low < 0xE000 then
          (Char.ofNat (0x10000 + (unit - 0xD800) * 0x400 + (low - 0xDC00)), after)
        else (replacementChar, rest)
      | none => (replacementChar, rest)
    | _ => (replacementChar, rest)
  else if 0xDC00 ≤ unit ∧ unit < 0xE000 then (replacementChar, rest)
  else (Char.ofNat unit, rest)

/-- The character after a backslash, and what follows. -/
def escaped : Text → Option (Char × Text)
  | 'u' :: rest => do
      let (unit, rest) ← codeUnit rest
      return unicodeChar unit rest
  | '"' :: rest => some ('"', rest)
  | '\\' :: rest => some ('\\', rest)
  | '/' :: rest => some ('/', rest)
  | 'b' :: rest => some (Char.ofNat 8, rest)
  | 'f' :: rest => some (Char.ofNat 12, rest)
  | 'n' :: rest => some ('\n', rest)
  | 'r' :: rest => some ('\r', rest)
  | 't' :: rest => some ('\t', rest)
  | _ => none

def readString : Nat → Text → Option (Text × Text)
  | 0, _ => none
  | _, [] => none
  | fuel + 1, c :: rest =>
    if c = '"' then some ([], rest)
    else if c = '\\' then do
      let (c, rest) ← escaped rest
      let (value, rest) ← readString fuel rest
      return (c :: value, rest)
    else if c.toNat < 32 then none
    else do
      let (value, rest) ← readString fuel rest
      return (c :: value, rest)

/-- The longest run of digits, and what follows. -/
def digits (s : Text) : Text × Text := (s.takeWhile Char.isDigit, s.dropWhile Char.isDigit)

/-- `(0|[1-9][0-9]*)` -/
def readInteger (s : Text) : Option (Text × Text) :=
  match s with
  | '0' :: rest => some (['0'], rest)
  | _ =>
    let (run, rest) := digits s
    if run = [] then none else some (run, rest)

/-- `(\.[0-9]+)?` -/
def readFraction (s : Text) : Option (Text × Text) :=
  match s with
  | '.' :: rest =>
    let (run, rest) := digits rest
    if run = [] then none else some ('.' :: run, rest)
  | _ => some ([], s)

/-- `([eE][+-]?[0-9]+)?` -/
def readExponent (s : Text) : Option (Text × Text) :=
  match s with
  | e :: rest =>
    if e = 'e' ∨ e = 'E' then
      let sign := (rest.take 1).filter fun c => c = '+' || c = '-'
      let (run, rest) := digits (rest.drop sign.length)
      if run = [] then none else some (e :: sign ++ run, rest)
    else some ([], s)
  | [] => some ([], s)

def readNumber (s : Text) : Option (Text × Text) := do
  let sign := (s.take 1).filter (· = '-')
  let (integer, rest) ← readInteger (s.drop sign.length)
  let (fraction, rest) ← readFraction rest
  let (exponent, rest) ← readExponent rest
  return (sign ++ integer ++ fraction ++ exponent, rest)

def readWord (word : String) (value : Json) (s : Text) : Option (Json × Text) :=
  if word.toList.isPrefixOf s then some (value, s.drop word.toList.length) else none

mutual

def readValue : Nat → Text → Option (Json × Text)
  | 0, _ => none
  | fuel + 1, s =>
    match skipSpace s with
    | '{' :: rest =>
      match skipSpace rest with
      | '}' :: rest => some (.object [], rest)
      | rest => readFields fuel rest []
    | '[' :: rest =>
      match skipSpace rest with
      | ']' :: rest => some (.array [], rest)
      | rest => readItems fuel rest []
    | '"' :: rest => do
        let (value, rest) ← readString (rest.length + 1) rest
        return (.string value, rest)
    | 't' :: rest => readWord "true" (.bool true) ('t' :: rest)
    | 'f' :: rest => readWord "false" (.bool false) ('f' :: rest)
    | 'n' :: rest => readWord "null" .null ('n' :: rest)
    | s => do
        let (numeral, rest) ← readNumber s
        return (.number numeral, rest)

/-- The fields of an object that are left, and its end. -/
def readFields : Nat → Text → List (Text × Json) → Option (Json × Text)
  | 0, _, _ => none
  | fuel + 1, s, fields =>
    match skipSpace s with
    | '"' :: rest => do
        let (key, rest) ← readString (rest.length + 1) rest
        match skipSpace rest with
        | ':' :: rest =>
          let (value, rest) ← readValue fuel rest
          match skipSpace rest with
          | ',' :: rest => readFields fuel rest (fields ++ [(key, value)])
          | '}' :: rest => some (.object (fields ++ [(key, value)]), rest)
          | _ => none
        | _ => none
    | _ => none

/-- The items of an array that are left, and its end. -/
def readItems : Nat → Text → List Json → Option (Json × Text)
  | 0, _, _ => none
  | fuel + 1, s, items => do
      let (value, rest) ← readValue fuel s
      match skipSpace rest with
      | ',' :: rest => readItems fuel rest (items ++ [value])
      | ']' :: rest => some (.array (items ++ [value]), rest)
      | _ => none

end

/-- `JSON.parse(text)`; none when it throws. -/
def parse (text : Text) : Option Json := do
  let (value, rest) ← readValue (text.length + 1) text
  if skipSpace rest = [] then some value else none

/-- `value[key]` of an object: of two fields of one name the later one counts. -/
def field (key : String) : Json → Option Json
  | object fields => (fields.reverse.find? (·.1 = key.toList)).map (·.2)
  | _ => none

mutual

/-- `String(value)` -/
def toText : Json → Text
  | null => "null".toList
  | bool value => if value then "true".toList else "false".toList
  | number numeral => numeral
  | string value => value
  | array items => (joinItems items).drop 1
  | object _ => "[object Object]".toList

/-- The items of an array, each after a comma; `null` as nothing. -/
def joinItems : List Json → Text
  | [] => []
  | null :: rest => ',' :: joinItems rest
  | item :: rest => ',' :: toText item ++ joinItems rest

end

end Json

end Js
