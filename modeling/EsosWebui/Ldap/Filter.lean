import EsosWebui.Js.Strings

/-! Search filters in their text form: clauses that compare an attribute with a value, joined by
`&`, `|` and `!`. The clauses of a filter are a list of trees, and a filter is one such tree. -/
namespace EsosWebui.Ldap

open Js

inductive Comparison where
  | equal
  | approx
  | greaterOrEqual
  | lessOrEqual
  | extensible (dnAttrs : Text) (rule : Option Text)
  deriving DecidableEq

def Comparison.text : Comparison → Text
  | equal => ['=']
  | approx => ['~', '=']
  | greaterOrEqual => ['>', '=']
  | lessOrEqual => ['<', '=']
  | extensible dnAttrs rule => dnAttrs ++ (rule.elim [] (':' :: ·) ++ [':', '='])

/-- A clause. Stars separate its values: the parts of a substring, or nothing twice where only the
presence of the attribute is asked for. -/
structure Item where
  attr : Text
  comparison : Comparison
  values : List Text

def Item.valueText (i : Item) : Text := ['*'].intercalate i.values

def Item.text (i : Item) : Text :=
  '(' :: (i.attr ++ (i.comparison.text ++ (i.valueText ++ [')'])))

inductive Connective where
  | and
  | or
  | not

def Connective.char : Connective → Char
  | and => '&'
  | or => '|'
  | not => '!'

def Connective.Takes (n : Nat) : Connective → Prop
  | and | or => 0 < n
  | not => n = 1

inductive Clauses where
  | nil
  | item (i : Item) (rest : Clauses)
  | group (op : Connective) (inner rest : Clauses)

namespace Clauses

def length : Clauses → Nat
  | nil => 0
  | item _ rest => rest.length + 1
  | group _ _ rest => rest.length + 1

def text : Clauses → Text
  | nil => []
  | item i rest => i.text ++ rest.text
  | group op inner rest => '(' :: op.char :: (inner.text ++ ')' :: rest.text)

def items : Clauses → List Item
  | nil => []
  | item i rest => i :: rest.items
  | group _ inner rest => inner.items ++ rest.items

end Clauses

def isKeyChar (c : Char) : Bool := c.isAlphanum || c == '-'

def isKeystring (s : Text) : Bool := s.head?.any Char.isAlpha && s.all isKeyChar

def isNumber (s : Text) : Bool :=
  !s.isEmpty && s.all Char.isDigit && (s.head? != some '0' || s.length == 1)

def isNumericOid (s : Text) : Bool :=
  let numbers := s.splitOn '.'
  decide (2 ≤ numbers.length) && numbers.all isNumber

def isOid (s : Text) : Bool := isKeystring s || isNumericOid s

def isAttribute (s : Text) : Bool :=
  match s.splitOn ';' with
  | [] => false
  | oid :: options => isOid oid && options.all fun o => !o.isEmpty && o.all isKeyChar

def isHexDigit (c : Char) : Bool :=
  c.isDigit || decide ('a' ≤ c ∧ c ≤ 'f') || decide ('A' ≤ c ∧ c ≤ 'F')

/-- A character that stands for itself in a value. -/
def isPlainChar (c : Char) : Bool :=
  c != '\x00' && c != '(' && c != ')' && c != '*' && c != '\\'

def isValue : Text → Bool
  | [] => true
  | '\\' :: a :: b :: rest => isHexDigit a && isHexDigit b && isValue rest
  | c :: rest => isPlainChar c && isValue rest

/-- `:dn`, in any case -/
def isDnAttrs : Text → Bool
  | ':' :: rest => rest.map Char.toLower == ['d', 'n']
  | _ => false

def Comparison.Ok (attr : Text) : Comparison → Prop
  | extensible dnAttrs rule => (attr ≠ [] ∨ rule.isSome) ∧ (dnAttrs = [] ∨ isDnAttrs dnAttrs) ∧
      ∀ oid ∈ rule, isOid oid
  | _ => attr ≠ []

def Comparison.Parts (n : Nat) : Comparison → Prop
  | equal => 0 < n
  | _ => n = 1

structure Item.Ok (i : Item) : Prop where
  attr : i.attr = [] ∨ isAttribute i.attr
  comparison : i.comparison.Ok i.attr
  parts : i.comparison.Parts i.values.length
  values : ∀ v ∈ i.values, isValue v

namespace Clauses

def Grouped : Clauses → Prop
  | nil => True
  | item _ rest => rest.Grouped
  | group op inner rest => op.Takes inner.length ∧ inner.Grouped ∧ rest.Grouped

/-- A well-formed filter. -/
structure IsFilter (f : Clauses) : Prop where
  single : f.length = 1
  grouped : f.Grouped
  items : ∀ i ∈ f.items, i.Ok

end Clauses

variable {s : Text} {c : Char}

theorem isKeyChar_or_dot_of_isOid (h : isOid s) (hc : c ∈ s) :
    isKeyChar c = true ∨ c = '.' := by
  rcases Bool.or_eq_true_iff.mp h with hKey | hNumeric
  · exact Or.inl (List.all_eq_true.mp (Bool.and_eq_true_iff.mp hKey).2 c hc)
  · rcases mem_splitOn_or '.' hc with rfl | ⟨part, hPart, hMem⟩
    · exact Or.inr rfl
    · have hNumber := List.all_eq_true.mp (Bool.and_eq_true_iff.mp hNumeric).2 part hPart
      have hDigits := (Bool.and_eq_true_iff.mp (Bool.and_eq_true_iff.mp hNumber).1).2
      left
      have hDigit := List.all_eq_true.mp hDigits c hMem
      simp [isKeyChar, Char.isAlphanum, hDigit]

theorem char_of_isAttribute (h : isAttribute s) (hc : c ∈ s) :
    isKeyChar c = true ∨ c = '.' ∨ c = ';' := by
  unfold isAttribute at h
  rcases mem_splitOn_or ';' hc with rfl | ⟨part, hPart, hMem⟩
  · exact Or.inr (Or.inr rfl)
  · split at h
    · cases h
    · rename_i oid options hSplit
      rw [hSplit] at hPart
      obtain ⟨hOid, hOptions⟩ := Bool.and_eq_true_iff.mp h
      rcases List.mem_cons.mp hPart with rfl | hOption
      · exact (isKeyChar_or_dot_of_isOid hOid hMem).imp_right Or.inl
      · have hAll := List.all_eq_true.mp hOptions part hOption
        exact Or.inl (List.all_eq_true.mp (Bool.and_eq_true_iff.mp hAll).2 c hMem)

/-- Neither a parenthesis nor a brace. -/
def isFlat (c : Char) : Bool := c != '(' && c != '{'

theorem isFlat_of_isKeyChar (h : isKeyChar c) : isFlat c := by
  cases hFlat : isFlat c with
  | true => rfl
  | false =>
    rcases Bool.and_eq_false_iff.mp hFlat with hParen | hBrace
    · rw [show c = '(' from by simpa using hParen] at h
      exact absurd h (by decide)
    · rw [show c = '{' from by simpa using hBrace] at h
      exact absurd h (by decide)

theorem isFlat_of_isAttribute (h : isAttribute s) (hc : c ∈ s) : isFlat c := by
  rcases char_of_isAttribute h hc with hKey | rfl | rfl
  · exact isFlat_of_isKeyChar hKey
  · decide
  · decide

theorem isFlat_of_isOid (h : isOid s) (hc : c ∈ s) : isFlat c := by
  rcases isKeyChar_or_dot_of_isOid h hc with hKey | rfl
  · exact isFlat_of_isKeyChar hKey
  · decide

theorem isFlat_of_isDnAttrs (h : isDnAttrs s) (hc : c ∈ s) : isFlat c := by
  unfold isDnAttrs at h
  split at h
  · rename_i rest
    rcases List.mem_cons.mp hc with rfl | hRest
    · decide
    · have hLower : c.toLower = 'd' ∨ c.toLower = 'n' := by
        have hMem : c.toLower ∈ ['d', 'n'] := by
          rw [← eq_of_beq h]
          exact List.mem_map_of_mem hRest
        simpa using hMem
      cases hFlat : isFlat c with
      | true => rfl
      | false =>
        rcases Bool.and_eq_false_iff.mp hFlat with hParen | hBrace
        · rw [show c = '(' from by simpa using hParen] at hLower
          exact absurd hLower (by decide)
        · rw [show c = '{' from by simpa using hBrace] at hLower
          exact absurd hLower (by decide)
  · cases h

theorem isFlat_of_comparison {attr : Text} {comparison : Comparison} (h : comparison.Ok attr)
    (hc : c ∈ comparison.text) : isFlat c := by
  cases comparison with
  | equal => exact List.all_eq_true.mp (by decide) c hc
  | approx => exact List.all_eq_true.mp (by decide) c hc
  | greaterOrEqual => exact List.all_eq_true.mp (by decide) c hc
  | lessOrEqual => exact List.all_eq_true.mp (by decide) c hc
  | extensible dnAttrs rule =>
    obtain ⟨-, hDn, hRule⟩ := h
    rcases List.mem_append.mp hc with hMem | hMem
    · rcases hDn with rfl | hDn
      · cases hMem
      · exact isFlat_of_isDnAttrs hDn hMem
    · rcases List.mem_append.mp hMem with hMem | hMem
      · cases rule with
        | none => cases hMem
        | some oid =>
          rcases List.mem_cons.mp hMem with rfl | hOid
          · decide
          · exact isFlat_of_isOid (hRule oid rfl) hOid
      · exact List.all_eq_true.mp (show [':', '='].all isFlat = true from by decide) c hMem

theorem ne_backslash_of_isPlainChar (h : isPlainChar c) : c ≠ '\\' := by
  rintro rfl
  revert h
  decide

theorem isValue_plain (h : isPlainChar c) (rest : Text) :
    isValue (c :: rest) = isValue rest := by
  rw [isValue, h, Bool.true_and]
  intro a b tail hSame
  exact absurd hSame (ne_backslash_of_isPlainChar h)

theorem isValue_cons_cases (h : isValue (c :: s)) :
    (isPlainChar c = true ∧ isValue s = true) ∨ ∃ a b rest, c = '\\' ∧ s = a :: b :: rest ∧
      isHexDigit a = true ∧ isHexDigit b = true ∧ isValue rest = true := by
  unfold isValue at h
  split at h
  · cases ‹_ = []›
  · rename_i a b rest hSame
    obtain ⟨rfl, rfl⟩ := List.cons.inj hSame
    rw [Bool.and_eq_true, Bool.and_eq_true] at h
    exact Or.inr ⟨a, b, rest, rfl, rfl, h.1.1, h.1.2, h.2⟩
  · rename_i d rest _ hSame
    obtain ⟨rfl, rfl⟩ := List.cons.inj hSame
    rw [Bool.and_eq_true] at h
    exact Or.inl h

theorem isValue_induction {P : Text → Prop} (nil : P [])
    (escape : ∀ a b rest, isHexDigit a = true → isHexDigit b = true → isValue rest = true →
      P rest → P ('\\' :: a :: b :: rest))
    (plain : ∀ c rest, isPlainChar c = true → isValue rest = true → P rest → P (c :: rest))
    (s : Text) (h : isValue s) : P s := by
  induction s using isValue.induct with
  | case1 => exact nil
  | case2 a b rest ih =>
    rw [isValue, Bool.and_eq_true, Bool.and_eq_true] at h
    exact escape a b rest h.1.1 h.1.2 h.2 (ih h.2)
  | case3 c rest hNot ih =>
    rw [isValue, Bool.and_eq_true] at h
    · exact plain c rest h.1 h.2 (ih h.2)
    · exact hNot

theorem isValue_char (h : isValue s) (hc : c ∈ s) : c ≠ '(' ∧ c ≠ ')' ∧ c ≠ '*' := by
  have hHex : ∀ d, isHexDigit d = true → d ≠ '(' ∧ d ≠ ')' ∧ d ≠ '*' := by
    intro d hd
    refine ⟨?_, ?_, ?_⟩ <;> rintro rfl <;> revert hd <;> decide
  revert hc
  refine isValue_induction (P := fun s => c ∈ s → c ≠ '(' ∧ c ≠ ')' ∧ c ≠ '*') ?_ ?_ ?_ s h
  · intro hc
    cases hc
  · intro a b rest ha hb _ ih hc
    rcases List.mem_cons.mp hc with rfl | hc
    · decide
    · rcases List.mem_cons.mp hc with rfl | hc
      · exact hHex _ ha
      · rcases List.mem_cons.mp hc with rfl | hc
        · exact hHex _ hb
        · exact ih hc
  · intro d rest hd _ ih hc
    rcases List.mem_cons.mp hc with rfl | hc
    · refine ⟨?_, ?_, ?_⟩ <;> rintro rfl <;> revert hd <;> decide
    · exact ih hc

end EsosWebui.Ldap
