import EsosWebui.Js.Json

/-! `JSON.stringify` of whole values, as a fold over them: the text of a value tells the value, and
its quotes tell where strings start and end. -/
namespace Js.Json

/-- What a fold makes of a value, from what it made of its parts. -/
structure Folding (β : Type) where
  scalar : Json → β
  array : List β → β
  object : List (Text × β) → β

mutual

def fold {β : Type} (f : Folding β) : Json → β
  | array items => f.array (foldItems f items)
  | object fields => f.object (foldFields f fields)
  | null => f.scalar null
  | bool value => f.scalar (bool value)
  | number numeral => f.scalar (number numeral)
  | string value => f.scalar (string value)

def foldItems {β : Type} (f : Folding β) : List Json → List β
  | [] => []
  | item :: rest => fold f item :: foldItems f rest

def foldFields {β : Type} (f : Folding β) : List (Text × Json) → List (Text × β)
  | [] => []
  | (key, value) :: rest => (key, fold f value) :: foldFields f rest

end

section

variable {β : Type} (f : Folding β)

private theorem foldItems_eq (items : List Json) : foldItems f items = items.map (fold f) := by
  induction items with
  | nil => rw [foldItems, List.map_nil]
  | cons item rest ih => rw [foldItems, ih, List.map_cons]

private theorem foldFields_eq (fields : List (Text × Json)) :
    foldFields f fields = fields.map fun field => (field.1, fold f field.2) := by
  induction fields with
  | nil => rw [foldFields, List.map_nil]
  | cons field rest ih => rw [foldFields, ih, List.map_cons]

@[simp] theorem fold_array (items : List Json) :
    fold f (array items) = f.array (items.map (fold f)) := by rw [fold, foldItems_eq]

@[simp] theorem fold_object (fields : List (Text × Json)) :
    fold f (object fields) = f.object (fields.map fun field => (field.1, fold f field.2)) := by
  rw [fold, foldFields_eq]

end

def IsScalar : Json → Prop
  | array _ => False
  | object _ => False
  | _ => True

theorem fold_scalar {β : Type} (f : Folding β) {v : Json} (h : v.IsScalar) :
    fold f v = f.scalar v := by
  cases v with
  | array items => exact h.elim
  | object fields => exact h.elim
  | null => rw [fold]
  | bool value => rw [fold]
  | number numeral => rw [fold]
  | string value => rw [fold]

/-- What holds of a value if it holds of its parts holds of every value. -/
theorem forall_of_parts {P : Json → Prop} (hScalar : ∀ v, v.IsScalar → P v)
    (hArray : ∀ items, (∀ v ∈ items, P v) → P (array items))
    (hObject : ∀ fields, (∀ field ∈ fields, P field.2) → P (object fields)) (v : Json) : P v :=
  @Json.rec P (fun items => ∀ v ∈ items, P v) (fun fields => ∀ field ∈ fields, P field.2)
    (fun field => P field.2) (hScalar _ trivial) (fun _ => hScalar _ trivial)
    (fun _ => hScalar _ trivial) (fun _ => hScalar _ trivial) hArray hObject
    (by simp) (fun _ _ hItem hRest => List.forall_mem_cons.mpr ⟨hItem, hRest⟩)
    (by simp) (fun _ _ hField hRest => List.forall_mem_cons.mpr ⟨hField, hRest⟩)
    (fun _ _ hValue => hValue) v

def printScalar : Json → Text
  | null => "null".toList
  | bool value => if value then "true".toList else "false".toList
  | number numeral => numeral
  | string value => jsonString (String.ofList value)
  | _ => []

/-- `JSON.stringify(value)` -/
def print : Json → Text :=
  fold
    { scalar := printScalar
      array := jsonArray id
      object := fun fields =>
        jsonObject (fields.map fun field => (String.ofList field.1, field.2)) }

@[simp] theorem print_array (items : List Json) :
    print (array items) = jsonArray id (items.map print) := fold_array _ _

@[simp] theorem print_object (fields : List (Text × Json)) :
    print (object fields) =
      jsonObject (fields.map fun field => (String.ofList field.1, print field.2)) := by
  rw [print, fold_object]
  dsimp only
  rw [List.map_map]
  rfl

def isNumeralChar (c : Char) : Bool :=
  c.isDigit || c == '-' || c == '+' || c == '.' || c == 'e' || c == 'E'

def IsNumeral (numeral : Text) : Prop :=
  (∃ c rest, numeral = c :: rest ∧ (c.isDigit = true ∨ c = '-')) ∧
    ∀ c ∈ numeral, isNumeralChar c = true

inductive Numerals : Json → Prop
  | null : Numerals null
  | bool (value : Bool) : Numerals (bool value)
  | number {numeral : Text} (h : IsNumeral numeral) : Numerals (number numeral)
  | string (value : Text) : Numerals (string value)
  | array {items : List Json} (h : ∀ v ∈ items, Numerals v) : Numerals (array items)
  | object {fields : List (Text × Json)} (h : ∀ field ∈ fields, Numerals field.2) :
      Numerals (object fields)

/-- What may follow a value inside another one. -/
def Closes (rest : Text) : Prop := ∀ c more, rest = c :: more → c = ',' ∨ c = ']' ∨ c = '}'

def kindAt (c : Char) : Nat :=
  if c.isDigit || c == '-' then 0
  else if c = 'n' then 1
  else if c = 't' then 2
  else if c = 'f' then 3
  else if c = '"' then 4
  else if c = '[' then 5
  else if c = '{' then 6
  else 7

def kind : Json → Nat
  | number _ => 0
  | null => 1
  | bool value => if value then 2 else 3
  | string _ => 4
  | array _ => 5
  | object _ => 6

theorem kind_lt (v : Json) : kind v < 7 := by
  cases v with
  | bool value => cases value <;> decide
  | _ => simp [kind]

theorem exists_print_eq_cons {v : Json} (h : v.Numerals) :
    ∃ c rest, print v = c :: rest ∧ kindAt c = kind v := by
  cases h with
  | null => exact ⟨'n', _, rfl, by decide⟩
  | bool value =>
    cases value with
    | true => exact ⟨'t', _, rfl, by decide⟩
    | false => exact ⟨'f', _, rfl, by decide⟩
  | @number numeral h =>
    obtain ⟨c, rest, rfl, hStart⟩ := h.1
    refine ⟨c, rest, rfl, if_pos ?_⟩
    simpa using hStart
  | string value => exact ⟨'"', _, rfl, rfl⟩
  | @array items h =>
    rw [print_array]
    cases items with
    | nil => exact ⟨'[', _, rfl, rfl⟩
    | cons v rest => exact ⟨'[', _, rfl, rfl⟩
  | @object fields h =>
    rw [print_object]
    exact ⟨'{', _, rfl, rfl⟩

/-- The text of a value can be split off the front of a text where the value ends. -/
def Split (a : Json) : Prop :=
  ∀ (b : Json) (s t : Text), b.Numerals → Closes s → Closes t → print a ++ s = print b ++ t →
    a = b ∧ s = t

variable {s t : Text}

theorem kind_eq_of_print_append {a b : Json} (ha : a.Numerals) (hb : b.Numerals)
    (h : print a ++ s = print b ++ t) : kind a = kind b := by
  obtain ⟨c, rest, hPrint, hKind⟩ := exists_print_eq_cons ha
  obtain ⟨d, rest', hPrint', hKind'⟩ := exists_print_eq_cons hb
  rw [hPrint, hPrint', List.cons_append, List.cons_append] at h
  rw [← hKind, ← hKind', (List.cons.inj h).1]

theorem numeral_append_inj {n m s t : Text} (hn : IsNumeral n) (hm : IsNumeral m) (hs : Closes s)
    (ht : Closes t) (h : n ++ s = m ++ t) : n = m ∧ s = t := by
  have hRest {u rest : Text} (hu : IsNumeral u) (hClose : Closes rest) :
      (u ++ rest).takeWhile isNumeralChar = u := by
    rw [List.takeWhile_append_of_pos hu.2]
    cases rest with
    | nil => simp
    | cons c more =>
      have hc : isNumeralChar c = false := by
        rcases hClose c more rfl with rfl | rfl | rfl <;> decide
      rw [List.takeWhile_cons_of_neg (by simp [hc]), List.append_nil]
  have hSame : n = m := by rw [← hRest hn hs, h, hRest hm ht]
  subst hSame
  exact ⟨rfl, List.append_cancel_left h⟩

theorem closes_cons {c : Char} {rest : Text} (h : c = ',' ∨ c = ']' ∨ c = '}') :
    Closes (c :: rest) := by
  intro d more hEq
  rwa [← (List.cons.inj hEq).1]

theorem closes_jsonRest (texts : List Text) (s : Text) : Closes (jsonRest id texts ++ s) := by
  cases texts with
  | nil => exact closes_cons (by simp)
  | cons text texts => exact closes_cons (by simp)

theorem closes_jsonFields (fields : List (String × Text)) (s : Text) :
    Closes (jsonFields fields ++ s) := by
  cases fields with
  | nil => exact closes_cons (by simp)
  | cons field fields => exact closes_cons (by simp)

theorem jsonRest_split {items : List Json} (hItems : ∀ v ∈ items, Split v) {others : List Json}
    (hOthers : ∀ v ∈ others, v.Numerals)
    (h : jsonRest id (items.map print) ++ s = jsonRest id (others.map print) ++ t) :
    items = others ∧ s = t := by
  induction items generalizing others with
  | nil =>
    cases others with
    | nil => exact ⟨rfl, (List.cons.inj h).2⟩
    | cons v others => exact absurd (List.cons.inj h).1 (by decide)
  | cons item items ih =>
    cases others with
    | nil => exact absurd (List.cons.inj h).1 (by decide)
    | cons v others =>
      simp only [List.map_cons, jsonRest, id_eq, List.cons_append, List.append_assoc,
        List.cons.injEq, true_and] at h
      obtain ⟨hFirst, hMore⟩ := List.forall_mem_cons.mp hItems
      obtain ⟨hOther, hLater⟩ := List.forall_mem_cons.mp hOthers
      obtain ⟨hSame, hRest⟩ := hFirst v _ _ hOther (closes_jsonRest _ _)
        (closes_jsonRest _ _) h
      obtain ⟨hMoreSame, hst⟩ := ih hMore hLater hRest
      exact ⟨by rw [hSame, hMoreSame], hst⟩

def printField (field : Text × Json) : String × Text := (String.ofList field.1, print field.2)

theorem printField_split {a b : Text × Json} (ha : Split a.2) (hb : b.2.Numerals) (hs : Closes s)
    (ht : Closes t)
    (h : jsonString (printField a).1 ++ (':' :: (printField a).2 ++ s) =
      jsonString (printField b).1 ++ (':' :: (printField b).2 ++ t)) :
    a = b ∧ s = t := by
  obtain ⟨hKey, hValue⟩ := jsonString_prefixFree _ _ _ _ h
  obtain ⟨hSame, hst⟩ := ha b.2 s t hb hs ht (List.cons.inj hValue).2
  exact ⟨Prod.ext (String.ofList_injective hKey) hSame, hst⟩

theorem jsonFields_split {fields : List (Text × Json)} (hFields : ∀ f ∈ fields, Split f.2)
    {others : List (Text × Json)} (hOthers : ∀ f ∈ others, f.2.Numerals)
    (h : jsonFields (fields.map printField) ++ s = jsonFields (others.map printField) ++ t) :
    fields = others ∧ s = t := by
  induction fields generalizing others with
  | nil =>
    cases others with
    | nil => exact ⟨rfl, (List.cons.inj h).2⟩
    | cons v others => exact absurd (List.cons.inj h).1 (by decide)
  | cons field fields ih =>
    cases others with
    | nil => exact absurd (List.cons.inj h).1 (by decide)
    | cons v others =>
      simp only [List.map_cons, jsonFields, List.cons_append, List.append_assoc,
        List.cons.injEq, true_and] at h
      obtain ⟨hFirst, hMore⟩ := List.forall_mem_cons.mp hFields
      obtain ⟨hOther, hLater⟩ := List.forall_mem_cons.mp hOthers
      obtain ⟨hSame, hRest⟩ := printField_split hFirst hOther (closes_jsonFields _ _)
        (closes_jsonFields _ _) h
      obtain ⟨hMoreSame, hst⟩ := ih hMore hLater hRest
      exact ⟨by rw [hSame, hMoreSame], hst⟩

theorem print_append_ne_close {v : Json} (hv : v.Numerals) (rest more : Text) :
    print v ++ rest ≠ ']' :: more := by
  intro hEq
  obtain ⟨c, tail, hPrint, hKind⟩ := exists_print_eq_cons hv
  rw [hPrint] at hEq
  rw [(List.cons.inj hEq).1] at hKind
  have hClose : kindAt ']' = 7 := by decide
  exact Nat.ne_of_lt (kind_lt v) (hKind.symm.trans hClose)

theorem array_split {items others : List Json} (hNumerals : ∀ v ∈ items, v.Numerals)
    (hItems : ∀ v ∈ items, Split v) (hOthers : ∀ v ∈ others, v.Numerals)
    (h : print (array items) ++ s = print (array others) ++ t) : items = others ∧ s = t := by
  rw [print_array, print_array] at h
  cases items with
  | nil =>
    cases others with
    | nil => exact ⟨rfl, List.append_cancel_left h⟩
    | cons v others =>
      simp only [List.map_nil, List.map_cons, jsonArray, id_eq, List.cons_append,
        List.append_assoc, List.nil_append, List.cons.injEq, true_and] at h
      exact absurd h.symm (print_append_ne_close (hOthers v List.mem_cons_self) _ _)
  | cons item items =>
    cases others with
    | nil =>
      simp only [List.map_nil, List.map_cons, jsonArray, id_eq, List.cons_append,
        List.append_assoc, List.nil_append, List.cons.injEq, true_and] at h
      exact absurd h (print_append_ne_close (hNumerals item List.mem_cons_self) _ _)
    | cons v others =>
      simp only [List.map_cons, jsonArray, id_eq, List.cons_append, List.append_assoc,
        List.cons.injEq, true_and] at h
      obtain ⟨hFirst, hMore⟩ := List.forall_mem_cons.mp hItems
      obtain ⟨hOther, hLater⟩ := List.forall_mem_cons.mp hOthers
      obtain ⟨hSame, hRest⟩ := hFirst v _ _ hOther (closes_jsonRest _ _)
        (closes_jsonRest _ _) h
      obtain ⟨hMoreSame, hst⟩ := jsonRest_split hMore hLater hRest
      exact ⟨by rw [hSame, hMoreSame], hst⟩

theorem object_split {fields others : List (Text × Json)} (hFields : ∀ f ∈ fields, Split f.2)
    (hOthers : ∀ f ∈ others, f.2.Numerals)
    (h : print (object fields) ++ s = print (object others) ++ t) : fields = others ∧ s = t := by
  have hEmpty : jsonObject [] = ['{', '}'] := rfl
  rw [print_object, print_object] at h
  cases fields with
  | nil =>
    cases others with
    | nil => exact ⟨rfl, List.append_cancel_left h⟩
    | cons v others =>
      rw [List.map_nil, hEmpty, List.map_cons, jsonObject_cons] at h
      exact absurd (List.cons.inj (List.cons.inj h).2).1 (by decide)
  | cons field fields =>
    cases others with
    | nil =>
      rw [List.map_nil, hEmpty, List.map_cons, jsonObject_cons] at h
      exact absurd (List.cons.inj (List.cons.inj h).2).1 (by decide)
    | cons v others =>
      simp only [List.map_cons, jsonObject_cons, List.cons_append, List.append_assoc,
        List.cons.injEq, true_and] at h
      obtain ⟨hFirst, hMore⟩ := List.forall_mem_cons.mp hFields
      obtain ⟨hOther, hLater⟩ := List.forall_mem_cons.mp hOthers
      obtain ⟨hSame, hRest⟩ := printField_split hFirst hOther (closes_jsonFields _ _)
        (closes_jsonFields _ _) h
      obtain ⟨hMoreSame, hst⟩ := jsonFields_split hMore hLater hRest
      exact ⟨by rw [hSame, hMoreSame], hst⟩

theorem kind_spec (v : Json) :
    (kind v = 0 → ∃ numeral, v = number numeral) ∧ (kind v = 1 → v = null) ∧
      (kind v = 2 → v = bool true) ∧ (kind v = 3 → v = bool false) ∧
      (kind v = 4 → ∃ value, v = string value) ∧ (kind v = 5 → ∃ items, v = array items) ∧
      (kind v = 6 → ∃ fields, v = object fields) := by
  cases v with
  | bool value => cases value <;> simp [kind]
  | _ => simp [kind]

theorem scalar_split {a b : Json} (hScalar : a.IsScalar) (ha : a.Numerals) (hb : b.Numerals)
    (hs : Closes s) (ht : Closes t) (hKind : kind b = kind a) (h : print a ++ s = print b ++ t) :
    a = b ∧ s = t := by
  obtain ⟨hNumber, hNull, hTrue, hFalse, hString, -, -⟩ := kind_spec b
  cases a with
  | array items => exact hScalar.elim
  | object fields => exact hScalar.elim
  | null =>
    obtain rfl := hNull hKind
    exact ⟨rfl, List.append_cancel_left h⟩
  | bool value =>
    cases value with
    | true =>
      obtain rfl := hTrue hKind
      exact ⟨rfl, List.append_cancel_left h⟩
    | false =>
      obtain rfl := hFalse hKind
      exact ⟨rfl, List.append_cancel_left h⟩
  | number numeral =>
    obtain ⟨other, rfl⟩ := hNumber hKind
    cases ha with
    | number hNumeral =>
    cases hb with
    | number hOther =>
      obtain ⟨rfl, hst⟩ := numeral_append_inj hNumeral hOther hs ht h
      exact ⟨rfl, hst⟩
  | string value =>
    obtain ⟨other, rfl⟩ := hString hKind
    obtain ⟨hSame, hst⟩ := jsonString_prefixFree _ _ _ _ h
    exact ⟨congrArg string (String.ofList_injective hSame), hst⟩

theorem split_of_numerals (a : Json) : a.Numerals → Split a := by
  refine @forall_of_parts (fun a => a.Numerals → Split a) ?_ ?_ ?_ a
  · intro a hScalar ha b s t hb hs ht h
    exact scalar_split hScalar ha hb hs ht (kind_eq_of_print_append ha hb h).symm h
  · intro items ih ha b s t hb hs ht h
    have hKind := kind_eq_of_print_append ha hb h
    obtain ⟨others, rfl⟩ := (kind_spec b).2.2.2.2.2.1 hKind.symm
    cases ha with
    | array hItems =>
    cases hb with
    | array hOthers =>
      obtain ⟨rfl, hst⟩ := array_split hItems (fun v hv => ih v hv (hItems v hv)) hOthers h
      exact ⟨rfl, hst⟩
  · intro fields ih ha b s t hb hs ht h
    have hKind := kind_eq_of_print_append ha hb h
    obtain ⟨others, rfl⟩ := (kind_spec b).2.2.2.2.2.2 hKind.symm
    cases ha with
    | object hFields =>
    cases hb with
    | object hOthers =>
      obtain ⟨rfl, hst⟩ := object_split (fun f hf => ih f hf (hFields f hf)) hOthers h
      exact ⟨rfl, hst⟩

/-- The text of a value tells the value. -/
theorem print_injective {a b : Json} (ha : a.Numerals) (hb : b.Numerals) (h : print a = print b) :
    a = b := by
  have hEnd : Closes [] := fun _ _ hNil => by cases hNil
  exact (split_of_numerals a ha b [] [] hb hEnd hEnd (by rw [h])).1

/-- Where a reader of quotes stands. -/
inductive QuoteState where
  | outside
  | inside
  | escape
  deriving DecidableEq

/-- Outside of strings there are neither backslashes nor question marks. -/
def quoteStep : QuoteState → Char → Option QuoteState
  | .outside, c =>
    if c = '"' then some .inside else if c = '\\' ∨ c = '?' then none else some .outside
  | .inside, c =>
    if c = '"' then some .outside else if c = '\\' then some .escape else some .inside
  | .escape, _ => some .inside

def readQuotes (state : QuoteState) (text : Text) : Option QuoteState := text.foldlM quoteStep state

/-- A text that ends where it started, outside of strings. -/
def Quoted (text : Text) : Prop := readQuotes .outside text = some .outside

theorem readQuotes_append (state : QuoteState) (s t : Text) :
    readQuotes state (s ++ t) = readQuotes state s >>= fun state => readQuotes state t :=
  List.foldlM_append ..

theorem Quoted.append (hs : Quoted s) (ht : Quoted t) : Quoted (s ++ t) := by
  unfold Quoted
  rw [readQuotes_append, hs]
  exact ht

theorem quoted_nil : Quoted [] := rfl

theorem Quoted.cons {c : Char} {s : Text} (hc : quoteStep .outside c = some .outside)
    (hs : Quoted s) : Quoted (c :: s) :=
  Quoted.append (show Quoted [c] by unfold Quoted readQuotes; simp [hc]) hs

theorem quoted_of_all {s : Text} (h : ∀ c ∈ s, quoteStep .outside c = some .outside) :
    Quoted s := by
  induction s with
  | nil => exact quoted_nil
  | cons c s ih =>
    obtain ⟨hc, hs⟩ := List.forall_mem_cons.mp h
    exact Quoted.cons hc (ih hs)

private theorem readQuotes_escapeChar (c : Char) :
    readQuotes .inside (escapeChar c) = some .inside := by
  have hDigits : ∀ n < 16, readQuotes .inside [hexDigit n] = some .inside := by decide
  unfold escapeChar
  split_ifs with hQuote hBackslash h₃ h₄ h₅ h₆ h₇ hControl
  · rfl
  · rfl
  · rfl
  · rfl
  · rfl
  · rfl
  · rfl
  · have hHigh := hDigits (c.toNat / 16) (by omega)
    have hLow := hDigits (c.toNat % 16) (by omega)
    show readQuotes .inside ([hexDigit (c.toNat / 16)] ++ [hexDigit (c.toNat % 16)]) = _
    rw [readQuotes_append, hHigh]
    exact hLow
  · simp [readQuotes, quoteStep, hQuote, hBackslash]

theorem quoted_jsonString (value : String) : Quoted (jsonString value) := by
  have hInside (cs : Text) :
      readQuotes .inside (cs.flatMap escapeChar ++ ['"']) = some .outside := by
    induction cs with
    | nil => rfl
    | cons c cs ih =>
      rw [List.flatMap_cons, List.append_assoc, readQuotes_append, readQuotes_escapeChar]
      exact ih
  exact hInside value.toList

theorem quoted_jsonRest {texts : List Text} (h : ∀ text ∈ texts, Quoted text) :
    Quoted (jsonRest id texts) := by
  induction texts with
  | nil => exact Quoted.cons rfl quoted_nil
  | cons text texts ih =>
    obtain ⟨hText, hRest⟩ := List.forall_mem_cons.mp h
    exact Quoted.cons rfl (hText.append (ih hRest))

theorem quoted_jsonArray {texts : List Text} (h : ∀ text ∈ texts, Quoted text) :
    Quoted (jsonArray id texts) := by
  cases texts with
  | nil => exact Quoted.cons rfl (Quoted.cons rfl quoted_nil)
  | cons text texts =>
    obtain ⟨hText, hRest⟩ := List.forall_mem_cons.mp h
    exact Quoted.cons rfl (hText.append (quoted_jsonRest hRest))

theorem quoted_field {field : String × Text} (h : Quoted field.2) :
    Quoted (jsonString field.1 ++ ':' :: field.2) :=
  (quoted_jsonString field.1).append (Quoted.cons rfl h)

theorem quoted_jsonFields {fields : List (String × Text)} (h : ∀ field ∈ fields, Quoted field.2) :
    Quoted (jsonFields fields) := by
  induction fields with
  | nil => exact Quoted.cons rfl quoted_nil
  | cons field fields ih =>
    obtain ⟨hField, hRest⟩ := List.forall_mem_cons.mp h
    exact Quoted.cons rfl ((quoted_field hField).append (ih hRest))

theorem quoted_jsonObject {fields : List (String × Text)} (h : ∀ field ∈ fields, Quoted field.2) :
    Quoted (jsonObject fields) := by
  cases fields with
  | nil => exact Quoted.cons rfl (Quoted.cons rfl quoted_nil)
  | cons field fields =>
    obtain ⟨hField, hRest⟩ := List.forall_mem_cons.mp h
    rw [jsonObject_cons]
    exact Quoted.cons rfl ((quoted_field hField).append (quoted_jsonFields hRest))

theorem quoted_of_numeral {numeral : Text} (h : IsNumeral numeral) : Quoted numeral := by
  refine quoted_of_all fun c hc => ?_
  have hChar := h.2 c hc
  unfold quoteStep
  dsimp only
  rw [if_neg, if_neg]
  · rintro (rfl | rfl) <;> exact absurd hChar (by decide)
  · rintro rfl
    exact absurd hChar (by decide)

theorem quoted_print {v : Json} (hv : v.Numerals) : Quoted (print v) := by
  induction hv with
  | null => rfl
  | bool value => cases value <;> rfl
  | number h => exact quoted_of_numeral h
  | string value => exact quoted_jsonString _
  | array h ih =>
    rw [print_array]
    exact quoted_jsonArray (List.forall_mem_map.mpr ih)
  | object h ih =>
    rw [print_object]
    exact quoted_jsonObject (List.forall_mem_map.mpr ih)

/-- Two readers, one outside and one inside of a string. -/
def Opposite (a b : QuoteState) : Prop :=
  (a = .outside ∧ b = .inside) ∨ (a = .inside ∧ b = .outside)

theorem Opposite.step {a b a' b' : QuoteState} {c : Char} (h : Opposite a b)
    (ha : quoteStep a c = some a') (hb : quoteStep b c = some b') : Opposite a' b' := by
  rcases h with ⟨rfl, rfl⟩ | ⟨rfl, rfl⟩
  · simp only [quoteStep] at ha hb
    split_ifs at ha hb with hQuote hBoth <;> simp_all [Opposite]
  · simp only [quoteStep] at ha hb
    split_ifs at ha hb with hQuote hBoth <;> simp_all [Opposite]

theorem Opposite.read {t : Text} {a b a' b' : QuoteState} (h : Opposite a b)
    (ha : readQuotes a t = some a') (hb : readQuotes b t = some b') : Opposite a' b' := by
  induction t generalizing a b with
  | nil =>
    obtain rfl := Option.some.inj ha
    obtain rfl := Option.some.inj hb
    exact h
  | cons c t ih =>
    obtain ⟨x, hx, ha⟩ := Option.bind_eq_some_iff.mp ha
    obtain ⟨y, hy, hb⟩ := Option.bind_eq_some_iff.mp hb
    exact ih (h.step hx hy) ha hb

theorem not_quoted_question {before t : Text} (ht : Quoted t) :
    ¬ Quoted (before ++ '?' :: t) := by
  intro h
  unfold Quoted at h ht
  rw [readQuotes_append] at h
  obtain ⟨state, -, h⟩ := Option.bind_eq_some_iff.mp h
  obtain ⟨next, hStep, h⟩ := Option.bind_eq_some_iff.mp h
  have hNext : next = .inside := by
    cases state <;> simp [quoteStep] at hStep <;> exact hStep.symm
  rw [hNext] at h
  have hOpposite := Opposite.read (Or.inr ⟨rfl, rfl⟩) h ht
  simp [Opposite] at hOpposite

theorem question_inj {url url' s t : Text} (hs : Quoted s) (ht : Quoted t)
    (h : url ++ '?' :: s = url' ++ '?' :: t) : url = url' ∧ s = t := by
  rcases List.append_eq_append_iff.mp h with ⟨more, rfl, hMore⟩ | ⟨more, rfl, hMore⟩
  · cases more with
    | nil =>
      rw [List.append_nil]
      exact ⟨rfl, (List.cons.inj hMore).2⟩
    | cons c more =>
      rw [(List.cons.inj hMore).2] at hs
      exact absurd hs (not_quoted_question ht)
  · cases more with
    | nil =>
      rw [List.append_nil]
      exact ⟨rfl, (List.cons.inj hMore).2.symm⟩
    | cons c more =>
      rw [(List.cons.inj hMore).2] at ht
      exact absurd ht (not_quoted_question hs)

end Js.Json
