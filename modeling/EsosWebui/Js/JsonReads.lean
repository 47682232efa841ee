import EsosWebui.Js.Json

/-! `JSON.parse` reads back what `JSON.stringify` prints: texts, arrays and objects, one inside the
other. -/
namespace Js

namespace Json

/-- A printed value is read off the front of any text, with a step of fuel for each of its
characters. -/
structure Reads (text : Text) (value : Json) : Prop where
  start : ∃ c rest, text = c :: rest ∧ isJsonSpace c = false ∧ c ≠ ']'
  reads : ∀ fuel rest, text.length ≤ fuel → readValue fuel (text ++ rest) = some (value, rest)

theorem skipSpace_cons {c : Char} (hc : isJsonSpace c = false) (s : Text) :
    skipSpace (c :: s) = c :: s := List.dropWhile_cons_of_neg (by simp [hc])

private theorem hexValue_hexDigit : ∀ n < 16, hexValue (hexDigit n) = some n := by decide

private theorem escaped_unit {c : Char} (hc : c.toNat < 32) (rest : Text) :
    escaped ('u' :: '0' :: '0' :: hexDigit (c.toNat / 16) :: hexDigit (c.toNat % 16) :: rest) =
      some (c, rest) := by
  have hZero : hexValue '0' = some 0 := by decide
  have hHigh := hexValue_hexDigit (c.toNat / 16) (by omega)
  have hLow := hexValue_hexDigit (c.toNat % 16) (by omega)
  have hUnit : codeUnit ('0' :: '0' :: hexDigit (c.toNat / 16) :: hexDigit (c.toNat % 16) :: rest) =
      some (c.toNat, rest) := by
    simp only [codeUnit, hZero, hHigh, hLow, Option.pure_def, Option.bind_eq_bind,
      Option.bind_some]
    congr 2
    omega
  have hChar : unicodeChar c.toNat rest = (c, rest) := by
    unfold unicodeChar
    rw [if_neg (by omega), if_neg (by omega), Char.ofNat_toNat]
  simp only [escaped, hUnit, Option.pure_def, Option.bind_eq_bind, Option.bind_some, hChar]

private theorem readString_escapeChar (fuel : Nat) (c : Char) (rest : Text) :
    readString (fuel + 1) (escapeChar c ++ rest) =
      (readString fuel rest).map fun read => (c :: read.1, read.2) := by
  have hEscape (e : Char) (hRead : escaped (e :: rest) = some (c, rest)) :
      readString (fuel + 1) (['\\', e] ++ rest) =
        (readString fuel rest).map fun read => (c :: read.1, read.2) := by
    have hQuote : ('\\' : Char) ≠ '"' := by decide
    rw [List.cons_append, List.singleton_append, readString, if_neg hQuote, if_pos rfl, hRead]
    simp only [Option.bind_eq_bind, Option.bind_some]
    cases readString fuel rest <;> rfl
  unfold escapeChar
  split_ifs with h₁ h₂ h₃ h₄ h₅ h₆ h₇ h₈
  · exact hEscape '"' (by rw [h₁]; rfl)
  · exact hEscape '\\' (by rw [h₂]; rfl)
  · exact hEscape 'b' (by simp only [escaped, ← h₃, Char.ofNat_toNat])
  · exact hEscape 't' (by rw [escaped, ← Char.ofNat_toNat c, h₄])
  · exact hEscape 'n' (by rw [escaped, ← Char.ofNat_toNat c, h₅])
  · exact hEscape 'f' (by simp only [escaped, ← h₆, Char.ofNat_toNat])
  · exact hEscape 'r' (by rw [escaped, ← Char.ofNat_toNat c, h₇])
  · have hQuote : ('\\' : Char) ≠ '"' := by decide
    simp only [List.cons_append, List.nil_append]
    rw [readString, if_neg hQuote, if_pos rfl, escaped_unit h₈]
    simp only [Option.bind_eq_bind, Option.bind_some]
    cases readString fuel rest <;> rfl
  · rw [List.singleton_append, readString, if_neg h₁, if_neg h₂, if_neg h₈]
    cases readString fuel rest <;> rfl

private theorem readString_printed (cs rest : Text) (fuel : Nat) (hFuel : cs.length < fuel) :
    readString fuel (cs.flatMap escapeChar ++ '"' :: rest) = some (cs, rest) := by
  induction cs generalizing fuel with
  | nil =>
    obtain ⟨fuel, rfl⟩ := Nat.exists_eq_add_of_lt hFuel
    simp [readString]
  | cons c cs ih =>
    cases fuel with
    | zero => exact absurd hFuel (Nat.not_lt_zero _)
    | succ fuel =>
      have hRest := ih fuel (Nat.lt_of_succ_lt_succ hFuel)
      rw [List.flatMap_cons, List.append_assoc, readString_escapeChar, hRest]
      rfl

private theorem length_le_flatMap_escapeChar (cs : Text) :
    cs.length ≤ (cs.flatMap escapeChar).length := by
  induction cs with
  | nil => rfl
  | cons c cs ih =>
    have hPos : 1 ≤ (escapeChar c).length := by
      unfold escapeChar
      split_ifs <;> simp
    rw [List.flatMap_cons, List.length_append, List.length_cons]
    omega

private theorem readString_jsonString (s : String) (rest : Text) :
    readString ((s.toList.flatMap escapeChar ++ '"' :: rest).length + 1)
      (s.toList.flatMap escapeChar ++ '"' :: rest) = some (s.toList, rest) := by
  refine readString_printed s.toList rest _ ?_
  have hLength := length_le_flatMap_escapeChar s.toList
  rw [List.length_append]
  omega

private theorem jsonString_append (s : String) (rest : Text) :
    jsonString s ++ rest = '"' :: (s.toList.flatMap escapeChar ++ '"' :: rest) := by
  simp [jsonString]

theorem Reads.string (s : String) : Reads (jsonString s) (.string s.toList) where
  start := ⟨'"', _, rfl, by decide, by decide⟩
  reads := by
    intro fuel rest hFuel
    cases fuel with
    | zero => simp [jsonString] at hFuel
    | succ fuel =>
      rw [jsonString_append, readValue, skipSpace_cons (by decide)]
      simp only [readString_jsonString, Option.bind_eq_bind, Option.bind_some,
        Option.pure_def]

section

variable {α : Type} {print : α → Text} {items : List α} {value : Json} {values : List Json}

private theorem readItems_printed {a : α} (hOne : Reads (print a) value)
    (h : List.Forall₂ (fun a value => Reads (print a) value) items values) (done : List Json)
    (fuel : Nat) (rest : Text) (hFuel : (print a ++ jsonRest print items).length ≤ fuel) :
    readItems fuel (print a ++ jsonRest print items ++ rest) done =
      some (.array (done ++ value :: values), rest) := by
  induction h generalizing a value done fuel with
  | nil =>
    rw [List.length_append, jsonRest, List.length_singleton] at hFuel
    obtain ⟨fuel, rfl⟩ : ∃ n, fuel = n + 1 := ⟨fuel - 1, by omega⟩
    rw [jsonRest, List.append_assoc, List.singleton_append, readItems,
      hOne.reads fuel _ (by omega)]
    simp [skipSpace_cons (show isJsonSpace ']' = false by decide)]
  | @cons next nextValue items values hNext hTail ih =>
    rw [List.length_append, jsonRest, List.cons_append, List.length_cons] at hFuel
    obtain ⟨fuel, rfl⟩ : ∃ n, fuel = n + 1 := ⟨fuel - 1, by omega⟩
    have hMore := ih hNext (done ++ [value]) fuel (by omega)
    rw [jsonRest, List.append_assoc, List.cons_append, List.cons_append, readItems,
      hOne.reads fuel _ (by omega)]
    simp only [Option.bind_eq_bind, Option.bind_some,
      skipSpace_cons (show isJsonSpace ',' = false by decide)]
    rw [hMore, List.append_assoc]
    rfl

theorem Reads.array (h : List.Forall₂ (fun a value => Reads (print a) value) items values) :
    Reads (jsonArray print items) (.array values) := by
  cases h with
  | nil =>
    refine ⟨⟨'[', _, rfl, by decide, by decide⟩, fun fuel rest hFuel => ?_⟩
    obtain ⟨fuel, rfl⟩ : ∃ n, fuel = n + 1 := ⟨fuel - 1, by simp [jsonArray] at hFuel; omega⟩
    simp [jsonArray, readValue, skipSpace_cons (show isJsonSpace '[' = false by decide),
      skipSpace_cons (show isJsonSpace ']' = false by decide)]
  | @cons a value items values hOne hMore =>
    refine ⟨⟨'[', _, rfl, by decide, by decide⟩, fun fuel rest hFuel => ?_⟩
    rw [jsonArray, List.cons_append, List.length_cons] at hFuel
    obtain ⟨fuel, rfl⟩ : ∃ n, fuel = n + 1 := ⟨fuel - 1, by omega⟩
    have hItems := readItems_printed hOne hMore [] fuel rest (by omega)
    obtain ⟨c, s, hText, hSpace, hClose⟩ := hOne.start
    rw [hText] at hItems
    rw [jsonArray, hText, List.cons_append, List.cons_append, readValue,
      skipSpace_cons (by decide)]
    simp only [List.cons_append, skipSpace_cons hSpace] at hItems ⊢
    split
    · rename_i more hEq
      exact absurd (List.cons.inj hEq).1 hClose
    · exact hItems

end

section

variable {field : String × Text} {fields : List (String × Text)} {value : Json}
  {values : List (Text × Json)}

def FieldReads (printed : String × Text) (read : Text × Json) : Prop :=
  read.1 = printed.1.toList ∧ Reads printed.2 read.2

private theorem readFields_printed (read : Text × Json) (hField : FieldReads field read)
    (h : List.Forall₂ FieldReads fields values) (done : List (Text × Json)) (fuel : Nat)
    (rest : Text)
    (hFuel : (jsonString field.1 ++ ':' :: field.2 ++ jsonFields fields).length ≤ fuel) :
    readFields fuel (jsonString field.1 ++ ':' :: field.2 ++ jsonFields fields ++ rest) done =
      some (.object (done ++ read :: values), rest) := by
  induction h generalizing field read done fuel with
  | nil =>
    obtain ⟨hKey, hValue⟩ := hField
    simp only [List.length_append, List.length_cons, jsonFields, List.length_nil] at hFuel
    obtain ⟨fuel, rfl⟩ : ∃ n, fuel = n + 1 := ⟨fuel - 1, by omega⟩
    have hRead := hValue.reads fuel ('}' :: rest) (by omega)
    simp only [jsonFields, List.append_assoc, jsonString_append, List.cons_append,
      List.nil_append, readFields, readString_jsonString, Option.bind_eq_bind, Option.bind_some,
      skipSpace_cons (show isJsonSpace '"' = false by decide),
      skipSpace_cons (show isJsonSpace ':' = false by decide), hRead,
      skipSpace_cons (show isJsonSpace '}' = false by decide)]
    rw [← hKey]
  | @cons next nextRead fields values hNext hTail ih =>
    obtain ⟨hKey, hValue⟩ := hField
    simp only [List.length_append, List.length_cons, jsonFields] at hFuel
    obtain ⟨fuel, rfl⟩ : ∃ n, fuel = n + 1 := ⟨fuel - 1, by omega⟩
    have hMore := ih nextRead hNext (done ++ [read]) fuel (by
      simp only [List.length_append, List.length_cons]
      omega)
    have hRead := hValue.reads fuel (',' :: (jsonString next.1 ++ ':' :: next.2 ++
      jsonFields fields ++ rest)) (by omega)
    simp only [List.append_assoc, List.cons_append] at hRead hMore
    simp only [jsonFields, List.append_assoc, jsonString_append, List.cons_append,
      readFields, readString_jsonString, Option.bind_eq_bind, Option.bind_some,
      skipSpace_cons (show isJsonSpace '"' = false by decide),
      skipSpace_cons (show isJsonSpace ':' = false by decide)] at hRead hMore ⊢
    rw [hRead]
    simp only [Option.bind_some, skipSpace_cons (show isJsonSpace ',' = false by decide),
      ← hKey]
    exact hMore

theorem Reads.object (h : List.Forall₂ FieldReads fields values) :
    Reads (jsonObject fields) (.object values) := by
  cases h with
  | nil =>
    refine ⟨⟨'{', _, rfl, by decide, by decide⟩, fun fuel rest hFuel => ?_⟩
    obtain ⟨fuel, rfl⟩ : ∃ n, fuel = n + 1 := ⟨fuel - 1, by simp [jsonObject] at hFuel; omega⟩
    simp [jsonObject, List.intercalate, readValue,
      skipSpace_cons (show isJsonSpace '{' = false by decide),
      skipSpace_cons (show isJsonSpace '}' = false by decide)]
  | @cons field read fields values hField hFields =>
    rw [jsonObject_cons]
    refine ⟨⟨'{', _, rfl, by decide, by decide⟩, fun fuel rest hFuel => ?_⟩
    rw [List.cons_append, List.length_cons] at hFuel
    obtain ⟨fuel, rfl⟩ : ∃ n, fuel = n + 1 := ⟨fuel - 1, by omega⟩
    have hRead := readFields_printed read hField hFields [] fuel rest (by omega)
    simp only [List.append_assoc, jsonString_append, List.cons_append] at hRead
    simp only [List.append_assoc, jsonString_append, List.cons_append, readValue,
      skipSpace_cons (show isJsonSpace '{' = false by decide),
      skipSpace_cons (show isJsonSpace '"' = false by decide)]
    exact hRead

end

theorem Reads.parse {text : Text} {value : Json} (h : Reads text value) :
    parse text = some value := by
  have hRead := h.reads (text.length + 1) [] (Nat.le_succ _)
  have hEnd : skipSpace [] = [] := rfl
  rw [List.append_nil] at hRead
  rw [Json.parse, hRead]
  simp only [Option.bind_eq_bind, Option.bind_some, hEnd, if_true]

end Json

end Js
