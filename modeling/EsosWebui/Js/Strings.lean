import EsosWebui.Js.Pattern
import Mathlib.Data.List.Infix

/-! Strings as a host value: what a program asks of them without taking them
apart, and optional ones. -/
namespace Js

/-- The case mapping of the language, which follows the Unicode tables. -/
class CaseMapping where
  toLowerCase : String → String

/-- What the tables say of ASCII: what has no capitals is left as it is, and what is no letter
stays and comes from nothing else. -/
class LawfulCaseMapping extends CaseMapping where
  toLowerCase_lower (s : String) :
    (∀ c ∈ s.toList, c.toNat < 128 ∧ c.isUpper = false) → toLowerCase s = s
  mem_toLowerCase (s : String) {c : Char} :
    c.toNat < 128 → c.isAlpha = false → (c ∈ (toLowerCase s).toList ↔ c ∈ s.toList)

/-- `value.trim()` -/
def trimString (s : String) : String := String.ofList (trim s.toList)

/-- `text.length`, in the units of the language. -/
def utf16Length (s : Text) : Nat := (s.map fun c => if c.toNat < 0x10000 then 1 else 2).sum

/-- `text.includes(part)` -/
def includes (text part : String) : Bool :=
  text.toList.tails.any fun rest => part.toList.isPrefixOf rest

def afterLiteral (literal : String) (text : String) : Option Text :=
  if literal.toList.isPrefixOf text.toList then
    some (text.toList.drop literal.toList.length)
  else none

/-- `!!value`, of an optional string. -/
def isSet (value : Option String) : Bool := value.any (· != "")

/-- `[...new Set(values)]` -/
def unique {α : Type} [BEq α] (values : List α) : List α := values.eraseDups

/-- `[...new Map(values.map(value => [key(value), value])).values()]` -/
def uniqueBy {α κ : Type} [BEq κ] (key : α → κ) (values : List α) : List α :=
  (unique (values.map key)).filterMap fun k => values.reverse.find? fun value => key value == k

/-- `texts.join(separator)` -/
def join (separator : String) (texts : List String) : String := separator.intercalate texts

theorem toList_join (separator : String) (texts : List String) :
    (join separator texts).toList = separator.toList.intercalate (texts.map String.toList) := by
  rw [join, String.toList_intercalate]

theorem unique_eq_nil_iff {α : Type} [BEq α] [LawfulBEq α] {values : List α} :
    unique values = [] ↔ values = [] := by
  cases values with
  | nil => simp [unique]
  | cons a l => simp [unique, List.eraseDups_cons]

theorem mem_unique {α : Type} [BEq α] [LawfulBEq α] {values : List α} {a : α} :
    a ∈ unique values ↔ a ∈ values := List.mem_eraseDups

theorem unique_of_nodup {l : List String} (h : l.Nodup) : unique l = l := by
  induction l with
  | nil => rfl
  | cons a l ih =>
    obtain ⟨hOnce, hNodup⟩ := List.nodup_cons.mp h
    have hOthers : l.filter (fun b => !b == a) = l := by
      apply List.filter_eq_self.mpr
      intro b hb
      have hNe : b ≠ a := fun hSame => hOnce (hSame ▸ hb)
      simpa using hNe
    rw [unique, List.eraseDups_cons, hOthers, ← unique, ih hNodup]

theorem toLower_of_not_isUpper {c : Char} (h : ¬ c.isUpper = true) : c.toLower = c := by
  unfold Char.toLower
  exact dif_neg fun hc => h (decide_eq_true hc)

theorem isAlpha_toLower_of_isUpper {c : Char} (h : c.isUpper) :
    c.toLower.isAlpha := by
  have hc : c.val ≥ 'A'.val ∧ c.val ≤ 'Z'.val := of_decide_eq_true h
  have hLow := UInt32.le_iff_toNat_le.mp hc.1
  have hHigh := UInt32.le_iff_toNat_le.mp hc.2
  unfold Char.toLower
  rw [dif_pos hc]
  apply Bool.or_eq_true_iff.mpr
  right
  show (decide (c.val + ('a'.val - 'A'.val) ≥ 97) &&
    decide (c.val + ('a'.val - 'A'.val) ≤ 122)) = true
  simp [UInt32.le_iff_toNat_le, UInt32.toNat_add] at *
  omega

theorem eq_of_toLower_eq {c d : Char} (h : c.toLower = d) (hd : d.isAlpha = false) : c = d := by
  by_cases hUpper : c.isUpper = true
  · have hAlpha := isAlpha_toLower_of_isUpper hUpper
    rw [h, hd] at hAlpha
    exact nomatch hAlpha
  · exact (toLower_of_not_isUpper hUpper).symm.trans h

theorem toNat_toLower_lt {c : Char} (h : c.toNat < 0x10000) : c.toLower.toNat < 0x10000 := by
  unfold Char.toLower
  split
  · rename_i hUpper
    have hLow : c.val.toNat ≤ 90 := hUpper.2
    show (c.val + 32).toNat < 0x10000
    rw [UInt32.toNat_add]
    have hSmall : (32 : UInt32).toNat = 32 := rfl
    omega
  · exact h

/-- `text.includes(part)` -/
def contains (text part : Text) : Bool := part <:+: text

/-- `text.startsWith(part)` -/
def startsWith (text part : Text) : Bool := part.isPrefixOf text

/-- `text.endsWith(part)` -/
def endsWith (text part : Text) : Bool := part.isSuffixOf text

@[simp] theorem contains_iff {text part : Text} : contains text part = true ↔ part <:+: text :=
  decide_eq_true_iff

@[simp] theorem contains_eq_false_iff {text part : Text} :
    contains text part = false ↔ ¬ part <:+: text := decide_eq_false_iff_not

@[simp] theorem startsWith_iff {text part : Text} : startsWith text part = true ↔ part <+: text :=
  List.isPrefixOf_iff_prefix

@[simp] theorem endsWith_iff {text part : Text} : endsWith text part = true ↔ part <:+ text :=
  List.isSuffixOf_iff_suffix

variable {part x y s : Text} {sep : Char}

theorem prefix_of_prefix_append_cons (h : sep ∉ part) (hPart : part <+: x ++ sep :: y) :
    part <+: x := by
  induction x generalizing part with
  | nil =>
    cases part with
    | nil => exact List.nil_prefix
    | cons c part =>
      obtain ⟨rfl, -⟩ := List.cons_prefix_cons.mp hPart
      exact absurd List.mem_cons_self h
  | cons a x ih =>
    cases part with
    | nil => exact List.nil_prefix
    | cons c part =>
      obtain ⟨rfl, hRest⟩ := List.cons_prefix_cons.mp hPart
      have hTail : sep ∉ part := fun hMem => h (List.mem_cons_of_mem _ hMem)
      exact List.cons_prefix_cons.mpr ⟨rfl, ih hTail hRest⟩

theorem eq_of_append_cons_eq {sep : Char} {x y x' y' : Text} (hx : sep ∉ x) (hx' : sep ∉ x')
    (h : x ++ sep :: y = x' ++ sep :: y') : x = x' ∧ y = y' := by
  have hLeft : x <+: x' := prefix_of_prefix_append_cons hx (h ▸ List.prefix_append _ _)
  have hRight : x' <+: x := prefix_of_prefix_append_cons hx' (h.symm ▸ List.prefix_append _ _)
  obtain rfl : x = x' := hLeft.eq_of_length_le hRight.length_le
  exact ⟨rfl, (List.cons.inj (List.append_cancel_left h)).2⟩

theorem infix_append_cons_iff (h : sep ∉ part) :
    part <:+: x ++ sep :: y ↔ part <:+: x ∨ part <:+: y := by
  constructor
  · intro hPart
    induction x with
    | nil =>
      rcases List.infix_cons_iff.mp hPart with hStart | hRest
      · have hNil : part <+: [] := prefix_of_prefix_append_cons h hStart
        exact Or.inl hNil.isInfix
      · exact Or.inr hRest
    | cons a x ih =>
      rw [List.cons_append] at hPart
      rcases List.infix_cons_iff.mp hPart with hStart | hRest
      · exact Or.inl (prefix_of_prefix_append_cons (x := a :: x) h hStart).isInfix
      · exact (ih hRest).imp_left (·.trans (List.suffix_cons a x).isInfix)
  · rintro (hPart | hPart)
    · exact hPart.trans (List.prefix_append _ _).isInfix
    · exact hPart.trans (List.IsSuffix.isInfix ⟨x ++ [sep], by simp⟩)

theorem infix_intercalate_iff {pieces : List Text} (h : sep ∉ part) (hNe : pieces ≠ []) :
    part <:+: [sep].intercalate pieces ↔ ∃ p ∈ pieces, part <:+: p := by
  induction pieces with
  | nil => exact absurd rfl hNe
  | cons p pieces ih =>
    cases pieces with
    | nil => simp [List.intercalate]
    | cons next pieces =>
      rw [intercalate_cons_cons, infix_append_cons_iff h, ih (List.cons_ne_nil _ _)]
      simp

theorem infix_iff_exists_splitOn (h : sep ∉ part) :
    part <:+: s ↔ ∃ p ∈ s.splitOn sep, part <:+: p := by
  have hJoin : [sep].intercalate (s.splitOn sep) = s := List.intercalate_splitOn sep
  rw [← infix_intercalate_iff h (List.splitOn_ne_nil sep s), hJoin]

theorem eq_false_of_mem_splitOnP {p : Char → Bool} (h : part ∈ s.splitOnP p) :
    ∀ c ∈ part, p c = false := by
  induction s generalizing part with
  | nil =>
    rw [List.splitOnP_nil, List.mem_singleton] at h
    simp [h]
  | cons c s ih =>
    rw [List.splitOnP_cons_eq_if_modifyHead] at h
    obtain ⟨first, rest, hSplit⟩ := List.exists_cons_of_ne_nil (List.splitOnP_ne_nil p s)
    by_cases hc : p c = true
    · rw [if_pos hc] at h
      rcases List.mem_cons.mp h with rfl | h
      · simp
      · exact ih h
    · rw [if_neg hc, hSplit, List.modifyHead_cons] at h
      rcases List.mem_cons.mp h with rfl | h
      · have hFirst : ∀ d ∈ first, p d = false := ih (hSplit ▸ List.mem_cons_self)
        intro d hd
        rcases List.mem_cons.mp hd with rfl | hd
        · simpa using hc
        · exact hFirst d hd
      · exact ih (hSplit ▸ List.mem_cons_of_mem _ h)

theorem not_mem_of_mem_splitOn (h : part ∈ s.splitOn sep) : sep ∉ part := by
  intro hMem
  rw [List.splitOn_eq_splitOnP] at h
  exact absurd (eq_false_of_mem_splitOnP h sep hMem) (by simp)

theorem mem_splitOn_or (sep : Char) {c : Char} (h : c ∈ s) :
    c = sep ∨ ∃ part ∈ s.splitOn sep, c ∈ part := by
  have hMem : c ∈ [sep].intercalate (s.splitOn sep) := by rwa [List.intercalate_splitOn]
  exact mem_intercalate hMem

theorem suffix_intercalate {pieces : List Text} (h : part ∈ pieces.getLast?) :
    part <:+ [sep].intercalate pieces := by
  induction pieces with
  | nil => cases h
  | cons p pieces ih =>
    cases pieces with
    | nil =>
      obtain rfl : p = part := by simpa using h
      have hOne : [sep].intercalate [p] = p := List.intercalate_singleton
      exact hOne.symm ▸ List.suffix_rfl
    | cons next pieces =>
      rw [intercalate_cons_cons]
      have hRest : part <:+ [sep].intercalate (next :: pieces) := ih (by simpa using h)
      exact hRest.trans ⟨p ++ [sep], by simp⟩

theorem infix_of_infix_spaces_append {p : Text} (hp : ∀ c ∈ p, isSpace c = true)
    (h : ∀ c ∈ part.head?, isSpace c = false) (hNe : part ≠ []) (hPart : part <:+: p ++ s) :
    part <:+: s := by
  induction p with
  | nil => exact hPart
  | cons a p ih =>
    rw [List.cons_append] at hPart
    rcases List.infix_cons_iff.mp hPart with hStart | hRest
    · obtain ⟨c, rest, rfl⟩ := List.exists_cons_of_ne_nil hNe
      obtain ⟨rfl, -⟩ := List.cons_prefix_cons.mp hStart
      exact absurd (hp c List.mem_cons_self) (by simp [h c rfl])
    · exact ih (fun c hc => hp c (List.mem_cons_of_mem _ hc)) hRest

theorem infix_trim_iff (hNe : part ≠ []) (hFirst : ∀ c ∈ part.head?, isSpace c = false)
    (hLast : ∀ c ∈ part.getLast?, isSpace c = false) : part <:+: trim s ↔ part <:+: s := by
  obtain ⟨p, q, hp, hq, hText⟩ := exists_spaces_trim s
  constructor
  · intro h
    exact h.trans ⟨p, q, hText⟩
  · intro h
    rw [← hText, List.append_assoc] at h
    have hFront := infix_of_infix_spaces_append hp hFirst hNe h
    have hBack : part.reverse <:+: q.reverse ++ (trim s).reverse := by
      rw [← List.reverse_append]
      exact List.reverse_infix.mpr hFront
    refine List.reverse_infix.mp (infix_of_infix_spaces_append ?_ ?_ ?_ hBack)
    · exact fun c hc => hq c (List.mem_reverse.mp hc)
    · rw [List.head?_reverse]
      exact hLast
    · exact fun hNil => hNe (List.reverse_eq_nil_iff.mp hNil)

theorem utf16Length_append (s t : Text) : utf16Length (s ++ t) = utf16Length s + utf16Length t := by
  simp [utf16Length]

theorem utf16Length_cons (c : Char) (s : Text) :
    utf16Length (c :: s) = (if c.toNat < 0x10000 then 1 else 2) + utf16Length s := by
  simp [utf16Length]

theorem utf16Length_eq_length {s : Text} (h : ∀ c ∈ s, c.toNat < 0x10000) :
    utf16Length s = s.length := by
  induction s with
  | nil => rfl
  | cons c s ih =>
    rw [utf16Length_cons, if_pos (h c List.mem_cons_self),
      ih fun d hd => h d (List.mem_cons_of_mem c hd), List.length_cons, Nat.add_comm]

/-- `text.slice(0, n)`. The half of a character that is cut becomes the replacement character when
the text is stored or compared. -/
def sliceUnits : Nat → Text → Text
  | 0, _ => []
  | _ + 1, [] => []
  | n + 1, c :: rest =>
    if c.toNat < 0x10000 then c :: sliceUnits n rest
    else if n = 0 then [Char.ofNat 0xFFFD] else c :: sliceUnits (n - 1) rest

theorem utf16Length_sliceUnits_le (n : Nat) (s : Text) : utf16Length (sliceUnits n s) ≤ n := by
  fun_induction sliceUnits n s with
  | case1 s => simp [utf16Length]
  | case2 n => simp [utf16Length]
  | case3 n c rest hPlane ih =>
    rw [utf16Length_cons, if_pos hPlane]
    omega
  | case4 c rest hPlane => decide
  | case5 n c rest hPlane hZero ih =>
    rw [utf16Length_cons, if_neg hPlane]
    omega

theorem sliceUnits_ne_nil {n : Nat} {s : Text} (hn : n ≠ 0) (hs : s ≠ []) :
    sliceUnits n s ≠ [] := by
  cases n with
  | zero => exact absurd rfl hn
  | succ n =>
    cases s with
    | nil => exact absurd rfl hs
    | cons c s =>
      rw [sliceUnits]
      split_ifs <;> exact List.cons_ne_nil _ _

/-- A text that is short enough is kept. -/
theorem sliceUnits_of_le {n : Nat} {s : Text} (h : utf16Length s ≤ n) : sliceUnits n s = s := by
  fun_induction sliceUnits n s with
  | case1 s =>
    cases s with
    | nil => rfl
    | cons c s =>
      rw [utf16Length_cons] at h
      split_ifs at h <;> omega
  | case2 n => rfl
  | case3 n c rest hPlane ih =>
    rw [utf16Length_cons, if_pos hPlane] at h
    rw [ih (by omega)]
  | case4 c rest hPlane =>
    rw [utf16Length_cons, if_neg hPlane] at h
    omega
  | case5 n c rest hPlane hZero ih =>
    rw [utf16Length_cons, if_neg hPlane] at h
    rw [ih (by omega)]

end Js
