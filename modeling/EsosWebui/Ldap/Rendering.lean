import EsosWebui.Ldap.LoginFilter

/-! What rendering does to the clauses of a template: values come in, they stay values, and the
clauses that have become empty are left out. -/
namespace EsosWebui.Ldap

open Js

def Item.fill (values : PlaceholderKey → Text) (i : Item) : Item :=
  { i with values := i.values.map (Ldap.fill values) }

/-- What `pruneEmptyLdapFilterClauses` takes for an empty clause. -/
def Item.isEmptyClause (i : Item) : Bool :=
  decide (i.comparison = .equal ∧ i.values = [[]]) && i.attr.head?.any Char.isAlpha &&
    i.attr.tail.all isClauseNameChar

namespace Clauses

def mapItems (g : Item → Item) : Clauses → Clauses
  | nil => nil
  | item i rest => item (g i) (rest.mapItems g)
  | group op inner rest => group op (inner.mapItems g) (rest.mapItems g)

def without (p : Item → Bool) : Clauses → Clauses
  | nil => nil
  | item i rest => if p i then rest.without p else item i (rest.without p)
  | group op inner rest => group op (inner.without p) (rest.without p)

variable {g : Item → Item} {p q : Item → Bool} (f : Clauses)

@[simp] theorem length_mapItems : (f.mapItems g).length = f.length := by
  induction f with
  | nil => rfl
  | item i rest ih => exact congrArg (· + 1) ih
  | group op inner rest _ ih => exact congrArg (· + 1) ih

@[simp] theorem items_mapItems : (f.mapItems g).items = f.items.map g := by
  induction f with
  | nil => rfl
  | item i rest ih => exact congrArg (g i :: ·) ih
  | group op inner rest ihInner ih =>
    show (inner.mapItems g).items ++ (rest.mapItems g).items = _
    rw [ihInner, ih, ← List.map_append]
    rfl

@[simp] theorem grouped_mapItems : (f.mapItems g).Grouped ↔ f.Grouped := by
  induction f with
  | nil => exact Iff.rfl
  | item i rest ih => exact ih
  | group op inner rest ihInner ih =>
    show op.Takes (inner.mapItems g).length ∧ (inner.mapItems g).Grouped ∧
      (rest.mapItems g).Grouped ↔ op.Takes inner.length ∧ inner.Grouped ∧ rest.Grouped
    rw [length_mapItems, ihInner, ih]

theorem without_mapItems :
    (f.mapItems g).without p = (f.without fun i => p (g i)).mapItems g := by
  induction f with
  | nil => rfl
  | item i rest ih =>
    show (if p (g i) then (rest.mapItems g).without p
      else item (g i) ((rest.mapItems g).without p)) =
      (if p (g i) then rest.without fun i => p (g i)
        else item i (rest.without fun i => p (g i))).mapItems g
    rw [ih]
    split <;> rfl
  | group op inner rest ihInner ih =>
    show group op ((inner.mapItems g).without p) ((rest.mapItems g).without p) = _
    rw [ihInner, ih]
    rfl

theorem items_without : (f.without p).items = f.items.filter fun i => !p i := by
  induction f with
  | nil => rfl
  | item i rest ih =>
    show (if p i then rest.without p else item i (rest.without p)).items =
      (i :: rest.items).filter fun i => !p i
    cases hp : p i with
    | true => simp [hp, ih]
    | false =>
      rw [if_neg Bool.false_ne_true, List.filter_cons_of_pos (by simp [hp]), ← ih]
      rfl
  | group op inner rest ihInner ih =>
    show (inner.without p).items ++ (rest.without p).items = _
    rw [ihInner, ih, ← List.filter_append]
    rfl

theorem without_eq_self (h : ∀ i ∈ f.items, p i = false) : f.without p = f := by
  induction f with
  | nil => rfl
  | item i rest ih =>
    show (if p i then rest.without p else item i (rest.without p)) = item i rest
    rw [if_neg (by rw [h i List.mem_cons_self]; exact Bool.false_ne_true),
      ih fun j hj => h j (List.mem_cons_of_mem i hj)]
  | group op inner rest ihInner ih =>
    show group op (inner.without p) (rest.without p) = group op inner rest
    rw [ihInner fun j hj => h j (List.mem_append_left _ hj),
      ih fun j hj => h j (List.mem_append_right _ hj)]

theorem length_text_without_le : (f.without p).text.length ≤ f.text.length := by
  induction f with
  | nil => exact le_refl _
  | item i rest ih =>
    show (if p i then rest.without p else item i (rest.without p)).text.length ≤
      (i.text ++ rest.text).length
    rw [List.length_append]
    split
    · omega
    · show (i.text ++ (rest.without p).text).length ≤ _
      rw [List.length_append]
      omega
  | group op inner rest ihInner ih =>
    simp only [without, text, List.length_cons, List.length_append]
    omega

theorem length_text_without_lt {i : Item} (hi : i ∈ f.items) (hp : p i) :
    (f.without p).text.length < f.text.length := by
  induction f with
  | nil => cases hi
  | item j rest ih =>
    have hLe := rest.length_text_without_le (p := p)
    have hPos : 0 < j.text.length := Nat.succ_pos _
    show (if p j then rest.without p else item j (rest.without p)).text.length <
      (j.text ++ rest.text).length
    rw [List.length_append]
    split
    · omega
    · rename_i hNot
      show (j.text ++ (rest.without p).text).length < _
      rw [List.length_append]
      rcases List.mem_cons.mp hi with rfl | hRest
      · exact absurd hp hNot
      · have hLt := ih hRest
        omega
  | group op inner rest ihInner ih =>
    have hInner := inner.length_text_without_le (p := p)
    have hRest := rest.length_text_without_le (p := p)
    simp only [without, text, List.length_cons, List.length_append]
    rcases List.mem_append.mp hi with hMem | hMem
    · have hLt := ihInner hMem
      omega
    · have hLt := ih hMem
      omega

end Clauses

section

variable {values : PlaceholderKey → Text}

theorem isValue_append {v : Text} (h : isValue v) (w : Text) :
    isValue (v ++ w) = isValue w := by
  refine isValue_induction (P := fun v => isValue (v ++ w) = isValue w) rfl ?_ ?_ v h
  · intro a b rest ha hb _ ih
    show isValue ('\\' :: a :: b :: (rest ++ w)) = _
    rw [isValue, ha, hb, ih]
    rfl
  · intro c rest hc _ ih
    rw [List.cons_append, isValue_plain hc, ih]

theorem isPlainChar_placeholder (key : PlaceholderKey) :
    ∀ c ∈ placeholder key, isPlainChar c = true :=
  List.all_eq_true.mp (by cases key <;> decide)

theorem isValue_plain_append {s : Text} (h : ∀ c ∈ s, isPlainChar c = true) (rest : Text) :
    isValue (s ++ rest) = isValue rest := by
  induction s with
  | nil => rfl
  | cons c s ih =>
    rw [List.cons_append, isValue_plain (h c List.mem_cons_self)]
    exact ih fun d hd => h d (List.mem_cons_of_mem c hd)

theorem fill_cons_of_ne {c : Char} (h : c ≠ '{') (s : Text) :
    fill values (c :: s) = c :: fill values s := by
  unfold fill
  rw [pieces_cons (findPlaceholder_cons h s)]
  rfl

theorem isValue_fill (hValues : ∀ key, isValue (values key) = true) {v : Text}
    (h : isValue v) : isValue (fill values v) := by
  have hHex : ∀ d, isHexDigit d = true → d ≠ '{' := by
    rintro d hd rfl
    revert hd
    decide
  induction hLength : v.length using Nat.strong_induction_on generalizing v with
  | _ n ih =>
    subst hLength
    cases v with
    | nil => rfl
    | cons c s =>
      cases hFound : findPlaceholder (c :: s) with
      | some found =>
        obtain ⟨m, piece⟩ := found
        obtain ⟨key, rest, hText, rfl, rfl⟩ := findPlaceholder_eq_some hFound
        rw [hText] at h hFound ⊢
        rw [isValue_plain_append (isPlainChar_placeholder key)] at h
        rw [fill, pieces_placeholder hFound, List.flatMap_cons]
        show isValue (values key ++ fill values rest) = true
        rw [isValue_append (hValues key)]
        refine ih _ ?_ h rfl
        have hPos := List.length_pos_iff.mpr (placeholder_ne_nil key)
        rw [hText, List.length_append]
        omega
      | none =>
        have hFill : fill values (c :: s) = c :: fill values s := by
          rw [fill, pieces_cons hFound]
          rfl
        rw [hFill]
        rcases isValue_cons_cases h with
          ⟨hPlain, hRest⟩ | ⟨a, b, rest, rfl, rfl, ha, hb, hRest⟩
        · rw [isValue_plain hPlain]
          exact ih s.length (Nat.lt_succ_self _) hRest rfl
        · have hShorter : rest.length < ('\\' :: a :: b :: rest).length := by
            simp only [List.length_cons]
            omega
          rw [fill_cons_of_ne (hHex a ha), fill_cons_of_ne (hHex b hb), isValue, ha, hb]
          exact ih rest.length hShorter hRest rfl

theorem flatMap_replaceChar (f : Char → Text) (c : Char) (value s : Text) :
    replaceChar c value (s.flatMap f) = s.flatMap fun d => replaceChar c value (f d) :=
  List.flatMap_assoc

theorem escapeLdapFilterValue_eq (input : Text) :
    escapeLdapFilterValue input = input.flatMap fun c => escapeLdapFilterValue [c] := by
  have hFirst : ∀ c value, replaceChar c value input =
      input.flatMap fun d => replaceChar c value [d] := by
    intro c value
    simp [replaceChar]
  unfold escapeLdapFilterValue
  rw [hFirst]
  simp only [flatMap_replaceChar]

theorem escape_char (c : Char) :
    (∃ a b, escapeLdapFilterValue [c] = ['\\', a, b] ∧ isHexDigit a = true ∧ isHexDigit b = true) ∨
      (escapeLdapFilterValue [c] = [c] ∧ isPlainChar c = true) := by
  by_cases hBackslash : c = '\\'
  · subst hBackslash
    exact Or.inl ⟨'5', 'c', by decide, by decide, by decide⟩
  · by_cases hStar : c = '*'
    · subst hStar
      exact Or.inl ⟨'2', 'a', by decide, by decide, by decide⟩
    · by_cases hOpen : c = '('
      · subst hOpen
        exact Or.inl ⟨'2', '8', by decide, by decide, by decide⟩
      · by_cases hClose : c = ')'
        · subst hClose
          exact Or.inl ⟨'2', '9', by decide, by decide, by decide⟩
        · by_cases hNull : c = '\x00'
          · subst hNull
            exact Or.inl ⟨'0', '0', by decide, by decide, by decide⟩
          · right
            constructor
            · simp [escapeLdapFilterValue, replaceChar, hBackslash, hStar, hOpen, hClose, hNull]
            · simp [isPlainChar, hBackslash, hStar, hOpen, hClose, hNull]

theorem isValue_escape (input : Text) : isValue (escapeLdapFilterValue input) := by
  rw [escapeLdapFilterValue_eq]
  induction input with
  | nil => rfl
  | cons c input ih =>
    rw [List.flatMap_cons]
    rcases escape_char c with ⟨a, b, hEscape, ha, hb⟩ | ⟨hEscape, hPlain⟩
    · rw [hEscape]
      show isValue ('\\' :: a :: b :: _) = true
      rw [isValue, ha, hb]
      exact ih
    · rw [hEscape]
      show isValue (c :: _) = true
      rw [isValue_plain hPlain]
      exact ih

theorem escape_eq_nil_iff {input : Text} : escapeLdapFilterValue input = [] ↔ input = [] := by
  rw [escapeLdapFilterValue_eq, List.flatMap_eq_nil_iff]
  constructor
  · intro h
    refine List.eq_nil_iff_forall_not_mem.mpr fun c hc => ?_
    have hNil := h c hc
    rcases escape_char c with ⟨a, b, hEscape, -⟩ | ⟨hEscape, -⟩
    · cases hEscape.symm.trans hNil
    · cases hEscape.symm.trans hNil
  · rintro rfl c hc
    cases hc

theorem isValue_escaped (identity : NormalizedLdapLogin) (normalizeLegacy : Bool)
    (key : PlaceholderKey) : isValue (escaped identity normalizeLegacy key) := by
  cases key with
  | username => exact isValue_escape _
  | accountName => exact isValue_escape _
  | userPrincipalName =>
    show isValue (identity.userPrincipalName.elim [] escapeLdapFilterValue) = true
    cases identity.userPrincipalName with
    | none => rfl
    | some name => exact isValue_escape name
  | domainPrefix =>
    show isValue (identity.domainPrefix.elim [] escapeLdapFilterValue) = true
    cases identity.domainPrefix with
    | none => rfl
    | some prefixed => exact isValue_escape prefixed

end

section

variable {values : PlaceholderKey → Text}

theorem not_mem_placeholder {d : Char} (h : isPlainChar d = false) (key : PlaceholderKey) :
    d ∉ placeholder key := by
  intro hMem
  rw [isPlainChar_placeholder key d hMem] at h
  cases h

theorem fill_intercalate (vs : List Text) (rest : Text) :
    fill values (['*'].intercalate vs ++ ')' :: rest) =
      ['*'].intercalate (vs.map (fill values)) ++ ')' :: fill values rest := by
  induction vs with
  | nil => exact fill_cons_of_ne (by decide) rest
  | cons v vs ih =>
    cases vs with
    | nil =>
      show fill values (['*'].intercalate [v] ++ ')' :: rest) =
        ['*'].intercalate [fill values v] ++ _
      simp only [List.intercalate_singleton]
      exact fill_append_cons (not_mem_placeholder (by decide)) v rest
    | cons w vs =>
      rw [intercalate_cons_cons, List.append_assoc, List.cons_append,
        fill_append_cons (not_mem_placeholder (by decide)), ih]
      simp only [List.map_cons, intercalate_cons_cons, List.append_assoc, List.cons_append]

theorem Item.isFlat (i : Item) (h : i.Ok) : ∀ c ∈ i.attr ++ i.comparison.text, isFlat c = true := by
  intro c hc
  rcases List.mem_append.mp hc with hAttr | hComparison
  · rcases h.attr with hNil | hOk
    · rw [hNil] at hAttr
      cases hAttr
    · exact isFlat_of_isAttribute hOk hAttr
  · exact isFlat_of_comparison h.comparison hComparison

theorem Item.fill_text (i : Item) (h : i.Ok) (rest : Text) :
    Ldap.fill values (i.text ++ rest) = (i.fill values).text ++ Ldap.fill values rest := by
  have hText : i.text ++ rest =
      ('(' :: (i.attr ++ i.comparison.text)) ++ (['*'].intercalate i.values ++ ')' :: rest) := by
    simp [Item.text, Item.valueText]
  rw [hText, fill_append, fill_intercalate]
  · simp [Item.text, Item.valueText, Item.fill]
  · rw [List.mem_cons, not_or]
    exact ⟨by decide, fun hMem => absurd (i.isFlat h _ hMem) (by decide)⟩

theorem Connective.char_ne_brace (op : Connective) : op.char ≠ '{' := by
  cases op <;> decide

theorem Clauses.fill_text (f : Clauses) (h : ∀ i ∈ f.items, i.Ok) (rest : Text) :
    Ldap.fill values (f.text ++ rest) =
      (f.mapItems (Item.fill values)).text ++ Ldap.fill values rest := by
  induction f generalizing rest with
  | nil => rfl
  | item i next ih =>
    show Ldap.fill values (i.text ++ next.text ++ rest) =
      ((i.fill values).text ++ (next.mapItems (Item.fill values)).text) ++ _
    rw [List.append_assoc, i.fill_text (h i List.mem_cons_self),
      ih fun j hj => h j (List.mem_cons_of_mem i hj), List.append_assoc]
  | group op inner next ihInner ih =>
    show Ldap.fill values ('(' :: op.char :: (inner.text ++ ')' :: next.text ++ rest)) =
      '(' :: op.char :: ((inner.mapItems (Item.fill values)).text ++
        ')' :: (next.mapItems (Item.fill values)).text ++ Ldap.fill values rest)
    rw [fill_cons_of_ne (by decide), fill_cons_of_ne op.char_ne_brace, List.append_assoc,
      ihInner fun i hi => h i (List.mem_append_left _ hi), List.append_assoc, List.cons_append,
      fill_cons_of_ne (by decide), ih fun i hi => h i (List.mem_append_right _ hi)]
    rfl

theorem Item.ok_fill (hValues : ∀ key, isValue (values key) = true) {i : Item} (h : i.Ok) :
    (i.fill values).Ok where
  attr := h.attr
  comparison := h.comparison
  parts := by
    show i.comparison.Parts (i.values.map _).length
    rw [List.length_map]
    exact h.parts
  values := by
    intro w hw
    obtain ⟨v, hv, rfl⟩ := List.mem_map.mp hw
    exact isValue_fill hValues (h.values v hv)

end

theorem findEmptyClause_of_ne {c : Char} (h : c ≠ '(') (s : Text) :
    findEmptyClause (c :: s) = none := by
  unfold findEmptyClause
  split
  · rename_i heq
    exact absurd (List.cons.inj heq).1 h
  · rfl

theorem findEmptyClause_of_not_alpha {c : Char} (h : c.isAlpha = false) (s : Text) :
    findEmptyClause ('(' :: c :: s) = none :=
  if_neg (by rw [h]; exact Bool.false_ne_true)

theorem findEmptyClause_of_dropWhile {c : Char} {s : Text}
    (h : ∀ tail, s.dropWhile isClauseNameChar ≠ '=' :: ')' :: tail) :
    findEmptyClause ('(' :: c :: s) = none := by
  unfold findEmptyClause
  split
  · rename_i heq
    obtain ⟨rfl, rfl⟩ := List.cons.inj (List.cons.inj heq).2
    split
    · split
      · rename_i tail heq
        exact absurd heq (h tail)
      · rfl
    · rfl
  · rfl

theorem findEmptyClause_empty {c : Char} {name : Text} (hc : c.isAlpha)
    (hName : ∀ d ∈ name, isClauseNameChar d = true) (rest : Text) :
    findEmptyClause ('(' :: c :: (name ++ '=' :: ')' :: rest)) = some (name.length + 3, []) := by
  have hEnd : isClauseNameChar '=' = false := by decide
  rw [findEmptyClause, if_pos hc, List.dropWhile_append_of_pos hName,
    List.takeWhile_append_of_pos hName,
    List.dropWhile_cons_of_neg (by rw [hEnd]; exact Bool.false_ne_true),
    List.takeWhile_cons_of_neg (by rw [hEnd]; exact Bool.false_ne_true)]
  simp

theorem Comparison.text_cons {comparison : Comparison} {attr : Text} (h : comparison.Ok attr) :
    ∃ c tail, comparison.text = c :: tail ∧ isClauseNameChar c = false ∧ c.isAlpha = false ∧
      (c = '=' → comparison = .equal ∧ tail = []) := by
  cases comparison with
  | equal => exact ⟨'=', [], rfl, by decide, by decide, fun _ => ⟨rfl, rfl⟩⟩
  | approx => exact ⟨'~', ['='], rfl, by decide, by decide, by decide⟩
  | greaterOrEqual => exact ⟨'>', ['='], rfl, by decide, by decide, by decide⟩
  | lessOrEqual => exact ⟨'<', ['='], rfl, by decide, by decide, by decide⟩
  | extensible dnAttrs rule =>
    have hColon : ∀ tail, (Comparison.extensible dnAttrs rule).text = ':' :: tail →
        ∃ c tail, (Comparison.extensible dnAttrs rule).text = c :: tail ∧
          isClauseNameChar c = false ∧ c.isAlpha = false ∧
          (c = '=' → Comparison.extensible dnAttrs rule = .equal ∧ tail = []) :=
      fun tail hTail =>
        ⟨':', tail, hTail, by decide, by decide, fun hSame => absurd hSame (by decide)⟩
    rcases h.2.1 with rfl | hDn
    · cases rule with
      | none => exact hColon ['='] rfl
      | some oid => exact hColon _ rfl
    · unfold isDnAttrs at hDn
      split at hDn
      · exact hColon _ rfl
      · cases hDn

theorem eq_of_intercalate_eq_nil {vs : List Text} (hNe : vs ≠ [])
    (h : ['*'].intercalate vs = []) : vs = [[]] := by
  cases vs with
  | nil => exact absurd rfl hNe
  | cons v vs =>
    cases vs with
    | nil =>
      rw [List.intercalate_singleton] at h
      rw [h]
    | cons w vs =>
      rw [intercalate_cons_cons] at h
      exact absurd h (by simp)

theorem Item.values_ne_nil {i : Item} (h : i.Ok) : i.values ≠ [] := by
  have hParts := h.parts
  intro hNil
  rw [hNil] at hParts
  cases hComparison : i.comparison <;> rw [hComparison] at hParts <;>
    simp [Comparison.Parts] at hParts

theorem Item.not_mem_valueText {i : Item} (h : i.Ok) {c : Char} (hc : c ∈ i.valueText) :
    c ≠ '(' ∧ c ≠ ')' := by
  rcases mem_intercalate hc with rfl | ⟨v, hv, hMem⟩
  · decide
  · exact ⟨(isValue_char (h.values v hv) hMem).1, (isValue_char (h.values v hv) hMem).2.1⟩

theorem Item.find_empty (i : Item) (h : i.isEmptyClause) (rest : Text) :
    findEmptyClause (i.text ++ rest) = some (i.text.length - 1, []) := by
  unfold isEmptyClause at h
  simp only [Bool.and_eq_true, decide_eq_true_eq] at h
  obtain ⟨⟨⟨hComparison, hValues⟩, hHead⟩, hTail⟩ := h
  cases hAttr : i.attr with
  | nil =>
    rw [hAttr] at hHead
    cases hHead
  | cons c name =>
    rw [hAttr] at hHead hTail
    have hText : i.text = '(' :: c :: (name ++ ['=', ')']) := by
      simp [Item.text, Item.valueText, hAttr, hComparison, hValues, Comparison.text]
    have hAppend : i.text ++ rest = '(' :: c :: (name ++ '=' :: ')' :: rest) := by
      simp [hText]
    have hName : ∀ d ∈ name, isClauseNameChar d = true := List.all_eq_true.mp hTail
    rw [hAppend, findEmptyClause_empty hHead hName rest, hText]
    simp

theorem Item.find_other (i : Item) (h : i.Ok) (hNot : i.isEmptyClause = false) (rest : Text) :
    findEmptyClause (i.text ++ rest) = none := by
  obtain ⟨c, tail, hComparison, hName, hAlpha, hEqual⟩ := Comparison.text_cons h.comparison
  have hText : i.text ++ rest =
      '(' :: (i.attr ++ c :: (tail ++ (i.valueText ++ ')' :: rest))) := by
    simp [Item.text, hComparison]
  rw [hText]
  cases hAttr : i.attr with
  | nil => exact findEmptyClause_of_not_alpha hAlpha _
  | cons a name =>
    cases ha : a.isAlpha with
    | false => exact findEmptyClause_of_not_alpha ha _
    | true =>
      rw [List.cons_append]
      refine findEmptyClause_of_dropWhile fun rest' hDrop => ?_
      rw [List.dropWhile_append] at hDrop
      split at hDrop
      · rename_i hAll
        have hAll' : ∀ d ∈ name, isClauseNameChar d = true :=
          List.dropWhile_eq_nil_iff.mp (List.isEmpty_iff.mp hAll)
        rw [List.dropWhile_cons_of_neg (by rw [hName]; exact Bool.false_ne_true)] at hDrop
        obtain ⟨rfl, hValue⟩ := List.cons.inj hDrop
        obtain ⟨hIsEqual, rfl⟩ := hEqual rfl
        have hNil : i.valueText = [] := by
          cases hValueText : i.valueText with
          | nil => rfl
          | cons d valueTail =>
            rw [hValueText] at hValue
            have hd := i.not_mem_valueText h (c := d) (by simp [hValueText])
            exact absurd (List.cons.inj hValue).1 hd.2
        have hValues := eq_of_intercalate_eq_nil (Item.values_ne_nil h) hNil
        rw [isEmptyClause, hAttr] at hNot
        have hNames : name.all isClauseNameChar = true := List.all_eq_true.mpr hAll'
        simp [hIsEqual, hValues, ha, hNames] at hNot
      · rename_i hSome
        cases hKept : name.dropWhile isClauseNameChar with
        | nil => simp [hKept] at hSome
        | cons d kept =>
          rw [hKept] at hDrop
          obtain ⟨rfl, -⟩ := List.cons.inj hDrop
          have hMem : '=' ∈ i.attr := by
            rw [hAttr]
            have hKeptMem : '=' ∈ name.dropWhile isClauseNameChar := by
              rw [hKept]
              exact List.mem_cons_self
            exact List.mem_cons_of_mem a ((List.dropWhile_sublist _).subset hKeptMem)
          rcases h.attr with hNil | hOk
          · rw [hNil] at hMem
            cases hMem
          · rcases char_of_isAttribute hOk hMem with hKey | hDot | hSemicolon
            · exact absurd hKey (by decide)
            · exact absurd hDot (by decide)
            · exact absurd hSemicolon (by decide)

theorem prune_append {s : Text} (h : ∀ c ∈ s, c ≠ '(') (rest : Text) :
    pruneEmptyLdapFilterClauses (s ++ rest) = s ++ pruneEmptyLdapFilterClauses rest := by
  unfold pruneEmptyLdapFilterClauses
  rw [scan_append fun c t hSuffix =>
    findEmptyClause_of_ne (h c (hSuffix.subset List.mem_cons_self)) _, List.flatten_append]
  congr 1
  exact List.flatMap_singleton' s

theorem prune_cons {c : Char} {s : Text} (h : findEmptyClause (c :: s) = none) :
    pruneEmptyLdapFilterClauses (c :: s) = c :: pruneEmptyLdapFilterClauses s := by
  unfold pruneEmptyLdapFilterClauses
  rw [scan_cons h]
  rfl

theorem Item.prune_other (i : Item) (h : i.Ok) (hNot : i.isEmptyClause = false) (rest : Text) :
    pruneEmptyLdapFilterClauses (i.text ++ rest) =
      i.text ++ pruneEmptyLdapFilterClauses rest := by
  have hFind := i.find_other h hNot rest
  have hBody : ∀ c ∈ i.attr ++ (i.comparison.text ++ (i.valueText ++ [')'])), c ≠ '(' := by
    intro c hc
    rw [← List.append_assoc] at hc
    rcases List.mem_append.mp hc with hFlat | hValue
    · rintro rfl
      exact absurd (i.isFlat h _ hFlat) (by decide)
    · rcases List.mem_append.mp hValue with hValue | hClose
      · exact (Item.not_mem_valueText h hValue).1
      · rw [List.mem_singleton.mp hClose]
        decide
  rw [Item.text, List.cons_append] at hFind ⊢
  rw [prune_cons hFind, prune_append hBody]
  rfl

theorem Clauses.prune_text (f : Clauses) (h : ∀ i ∈ f.items, i.Ok) (rest : Text) :
    pruneEmptyLdapFilterClauses (f.text ++ rest) =
      (f.without Item.isEmptyClause).text ++ pruneEmptyLdapFilterClauses rest := by
  induction f generalizing rest with
  | nil => rfl
  | item i next ih =>
    have hNext := ih (fun j hj => h j (List.mem_cons_of_mem i hj)) rest
    show pruneEmptyLdapFilterClauses (i.text ++ next.text ++ rest) =
      (if i.isEmptyClause then next.without Item.isEmptyClause
        else item i (next.without Item.isEmptyClause)).text ++ _
    rw [List.append_assoc]
    cases hEmpty : i.isEmptyClause with
    | true =>
      rw [if_pos rfl, ← hNext]
      have hNe : i.text ≠ [] := List.cons_ne_nil _ _
      unfold pruneEmptyLdapFilterClauses
      rw [scan_found hNe (i.find_empty hEmpty _)]
      rfl
    | false =>
      rw [if_neg Bool.false_ne_true, i.prune_other (h i List.mem_cons_self) hEmpty, hNext,
        ← List.append_assoc]
      rfl
  | group op inner next ihInner ih =>
    have hOp : findEmptyClause ('(' :: op.char ::
        (inner.text ++ ')' :: next.text ++ rest)) = none := by
      apply findEmptyClause_of_not_alpha
      cases op <;> decide
    have hChar : op.char ≠ '(' := by cases op <;> decide
    show pruneEmptyLdapFilterClauses
        ('(' :: op.char :: (inner.text ++ ')' :: next.text ++ rest)) =
      '(' :: op.char :: ((inner.without Item.isEmptyClause).text ++
        ')' :: (next.without Item.isEmptyClause).text ++ pruneEmptyLdapFilterClauses rest)
    rw [prune_cons hOp, prune_cons (findEmptyClause_of_ne hChar _), List.append_assoc,
      ihInner fun i hi => h i (List.mem_append_left _ hi), List.append_assoc, List.cons_append,
      prune_cons (findEmptyClause_of_ne (by decide) _),
      ih fun i hi => h i (List.mem_append_right _ hi)]
    rfl

end EsosWebui.Ldap
