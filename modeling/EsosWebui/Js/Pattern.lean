import EsosWebui.Js.Text

/-! The line patterns of hand-written parsers, read off the words of a trimmed
line, and the lines that a template with blanks between its parts prints. -/
namespace Js

/-- The text `{` that opens a block. -/
def openBrace : Text := ['{']

/-- The text `}` that closes one. -/
def closeBrace : Text := ['}']

/-- `^KEYWORD\s+(\S+)$` -/
def soleWord (keyword : Text) : List Text → Option Text
  | [k, name] => if k = keyword then some name else none
  | _ => none

/-- `^KEYWORD\s+(\S+)\s*\{?$` -/
def blockName (keyword : Text) : List Text → Option Text
  | [k, name] => if k = keyword then some name else none
  | [k, name, b] => if k = keyword ∧ b = openBrace then some name else none
  | _ => none

/-- `^[class]+$` -/
def consistsOf (charClass : Char → Bool) (s : Text) : Bool := !s.isEmpty && s.all charClass

/-- `^\d+$` -/
def isDigits (s : Text) : Bool := !s.isEmpty && s.all Char.isDigit

/-- `^KEYWORD\s+(\d)$` -/
def soleDigit (keyword : Text) (ws : List Text) : Option Char :=
  match soleWord keyword ws with
  | some [c] => if c.isDigit then some c else none
  | _ => none

/-- `^KEYWORD\s+(\d+)$` -/
def soleDigits (keyword : Text) (ws : List Text) : Option Text :=
  (soleWord keyword ws).filter isDigits

/-- `^KEYWORD\s+(\d+)\s+(\S+)\s*\{?$` -/
def numberedBlock (keyword : Text) : List Text → Option (Text × Text)
  | [k, digits, name] => if k = keyword ∧ isDigits digits then some (digits, name) else none
  | [k, digits, name, b] =>
    if k = keyword ∧ isDigits digits ∧ b = openBrace then some (digits, name) else none
  | _ => none

/-- `^(\S+)\s+(.+)$` on a trimmed line. -/
def keyValue (line : Text) : Option (Text × Text) :=
  let value := trimStart (afterWord line)
  if firstWord line = [] ∨ value = [] ∨ value.any isLineTerminator then none
  else some (firstWord line, value)

/-- `line.endsWith('{')` -/
def endsWithBrace (line : Text) : Bool := line.getLast? == some '{'

/-- `value.replace(/^"(.*)"$/, '$1')` -/
def unquote : Text → Text
  | '"' :: rest =>
    if rest.getLast? = some '"' ∧ ¬ rest.dropLast.any isLineTerminator then rest.dropLast
    else '"' :: rest
  | value => value

def templateLine (tabs : Nat) (parts : List Text) : Text :=
  List.replicate tabs '\t' ++ [' '].intercalate parts

def quotes (s : Text) : Nat := s.count '"'

theorem quotes_eq_zero {s : Text} (h : '"' ∉ s) : quotes s = 0 := List.count_eq_zero.mpr h

theorem quotes_eq_sum_words (s : Text) : quotes s = ((words s).map quotes).sum := by
  have hCount : (words s).flatten.count '"' = s.count '"' := by
    rw [flatten_words, List.count_filter (by decide)]
  rw [quotes, ← hCount, List.count_flatten]
  rfl

variable {ws : List Text}

theorem soleWord_eq_some {keyword name : Text} :
    soleWord keyword ws = some name ↔ ws = [keyword, name] := by
  unfold soleWord
  split
  · rename_i k n
    by_cases hk : k = keyword <;> simp [hk]
  · rename_i h
    simp only [reduceCtorEq, false_iff]
    rintro rfl
    exact h _ _ rfl

theorem blockName_eq_some {keyword name : Text} :
    blockName keyword ws = some name ↔
      ws = [keyword, name] ∨ ws = [keyword, name, openBrace] := by
  unfold blockName
  split
  · rename_i k n
    by_cases hk : k = keyword <;> simp [hk]
  · rename_i k n b
    by_cases hk : k = keyword <;> by_cases hb : b = openBrace <;> simp [hk, hb]
  · rename_i h₂ h₃
    simp only [reduceCtorEq, false_iff]
    rintro (rfl | rfl)
    · exact h₂ _ _ rfl
    · exact h₃ _ _ _ rfl

theorem numberedBlock_eq_some {keyword digits name : Text} :
    numberedBlock keyword ws = some (digits, name) ↔ isDigits digits = true ∧
      (ws = [keyword, digits, name] ∨ ws = [keyword, digits, name, openBrace]) := by
  unfold numberedBlock
  split
  · rename_i k d n
    by_cases hk : k = keyword <;> by_cases hd : isDigits d <;> grind
  · rename_i k d n b
    by_cases hk : k = keyword <;> by_cases hd : isDigits d <;> by_cases hb : b = openBrace <;>
      grind
  · rename_i h₃ h₄
    simp only [reduceCtorEq, false_iff]
    rintro ⟨-, rfl | rfl⟩
    · exact h₃ _ _ _ rfl
    · exact h₄ _ _ _ _ rfl

theorem soleDigit_eq_some {keyword : Text} {c : Char} :
    soleDigit keyword ws = some c ↔ ws = [keyword, [c]] ∧ c.isDigit = true := by
  unfold soleDigit
  split
  · rename_i d h
    rw [soleWord_eq_some] at h
    by_cases hd : d.isDigit <;> grind
  · rename_i h
    simp only [reduceCtorEq, false_iff]
    rintro ⟨rfl, -⟩
    exact h c (soleWord_eq_some.mpr rfl)

theorem soleDigits_eq_some {keyword digits : Text} :
    soleDigits keyword ws = some digits ↔ ws = [keyword, digits] ∧ isDigits digits = true := by
  rw [soleDigits, Option.filter_eq_some_iff, soleWord_eq_some]

theorem isWord_of_consistsOf {charClass : Char → Bool} {s : Text}
    (hClass : ∀ c, charClass c = true → IsGraphic c) (h : consistsOf charClass s) :
    IsWord s := by
  obtain ⟨hne, hAll⟩ : s ≠ [] ∧ ∀ c ∈ s, charClass c = true := by simpa [consistsOf] using h
  exact ⟨hne, fun c hc => (hClass c (hAll c hc)).isSpace⟩

theorem isWord_of_isDigits {s : Text} (h : isDigits s) : IsWord s :=
  isWord_of_consistsOf
    (fun c hc => isGraphic_of_isAlphanum (by rw [Char.isAlphanum, hc, Bool.or_true])) h

@[simp] theorem endsWithBrace_openBrace : endsWithBrace openBrace := rfl

theorem keyValue_eq_some {s k v : Text} (h : keyValue (trim s) = some (k, v)) :
    ∃ ws, words s = k :: ws ∧ words v = ws ∧ ws ≠ [] ∧ trim v = v ∧
      (∀ c ∈ v, isLineTerminator c = false) ∧ v <:+ trim s := by
  simp only [keyValue] at h
  split at h
  · simp at h
  · rename_i hOk
    simp only [not_or, Option.some.injEq, Prod.mk.injEq] at hOk h
    obtain ⟨hKey, hValue, hLine⟩ := hOk
    obtain ⟨rfl, rfl⟩ := h
    have hFirst : IsWord (firstWord (trim s)) := ⟨hKey, firstWord_isSpace _⟩
    have hWords := words_append hFirst (afterWord_startsWithSpace (trim s))
    rw [firstWord_append_afterWord, words_trim] at hWords
    obtain ⟨p, hp, hRest⟩ := exists_spaces_trimStart (afterWord (trim s))
    have hSuffix : trimStart (afterWord (trim s)) <:+ trim s :=
      (List.dropWhile_suffix _).trans (List.dropWhile_suffix _)
    have hTrim : trim (trimStart (afterWord (trim s))) = trimStart (afterWord (trim s)) := by
      refine trim_eq_self (head?_trimStart _) fun c hc => getLast?_trim s c ?_
      obtain ⟨pre, hPre⟩ := hSuffix
      rw [← hPre, List.getLast?_append, Option.mem_def.mp hc]
      simp
    refine ⟨_, hWords, ?_, ?_, hTrim, ?_, hSuffix⟩
    · conv_rhs => rw [← hRest]
      rw [words_spaces_append hp]
    · rw [← hRest, words_spaces_append hp, Ne, words_eq_nil_iff, hTrim]
      exact hValue
    · simpa using hLine

/-- Removing the quotes leaves a string alone or shortens it by two characters. -/
theorem unquote_cases (s : Text) :
    unquote s = s ∨ s = '"' :: unquote s ++ ['"'] := by
  unfold unquote
  split
  · rename_i rest
    split
    · rename_i h
      right
      have hne : rest ≠ [] := by rintro rfl; simp at h
      rw [List.getLast?_eq_some_getLast hne] at h
      have hLast : rest.getLast hne = '"' := by simpa using h.1
      rw [List.cons_append, ← hLast, List.dropLast_append_getLast hne]
    · exact Or.inl rfl
  · exact Or.inl rfl

/-- A value that changes when its quotes are removed has two quotation marks less afterwards. -/
theorem quotes_unquote (s : Text) : unquote s = s ∨ quotes (unquote s) + 2 = quotes s := by
  rcases unquote_cases s with h | h
  · exact Or.inl h
  · right
    conv_rhs => rw [h]
    simp [quotes]

theorem mem_of_mem_unquote {s : Text} {c : Char} (h : c ∈ unquote s) : c ∈ s := by
  rcases unquote_cases s with hs | hs
  · rwa [hs] at h
  · rw [hs]
    simp [h]

theorem intercalate_cons_cons (sep : Char) (x y : Text) (parts : List Text) :
    [sep].intercalate (x :: y :: parts) = x ++ sep :: [sep].intercalate (y :: parts) := by
  simp [List.intercalate]

variable {parts : List Text}

theorem mem_intercalate {sep c : Char} (h : c ∈ [sep].intercalate parts) :
    c = sep ∨ ∃ p ∈ parts, c ∈ p := by
  induction parts with
  | nil => simp [List.intercalate] at h
  | cons x parts ih =>
    cases parts with
    | nil => exact Or.inr ⟨x, by simp, by simpa [List.intercalate] using h⟩
    | cons y parts =>
      rw [intercalate_cons_cons] at h
      rcases List.mem_append.mp h with hx | hRest
      · exact Or.inr ⟨x, by simp, hx⟩
      · rcases List.mem_cons.mp hRest with hBlank | hRest
        · exact Or.inl hBlank
        · rcases ih hRest with hBlank | ⟨p, hp, hc⟩
          · exact Or.inl hBlank
          · exact Or.inr ⟨p, List.mem_cons_of_mem _ hp, hc⟩

theorem mem_intercalate_of_mem {sep c : Char} {p : Text} (hp : p ∈ parts) (hc : c ∈ p) :
    c ∈ [sep].intercalate parts := by
  induction parts with
  | nil => simp at hp
  | cons x parts ih =>
    cases parts with
    | nil =>
      obtain rfl := List.mem_singleton.mp hp
      simpa [List.intercalate] using hc
    | cons y parts =>
      rw [intercalate_cons_cons]
      rcases List.mem_cons.mp hp with rfl | hp
      · exact List.mem_append_left _ hc
      · exact List.mem_append_right _ (List.mem_cons_of_mem _ (ih hp))

theorem mem_of_mem_splitOn {sep c : Char} {s p : Text} (hp : p ∈ s.splitOn sep) (hc : c ∈ p) :
    c ∈ s := by
  have hJoin : [sep].intercalate (s.splitOn sep) = s := List.intercalate_splitOn sep
  exact hJoin ▸ mem_intercalate_of_mem hp hc

theorem words_intercalate (h : ∀ w ∈ parts, IsWord w) :
    words ([' '].intercalate parts) = parts := by
  induction parts with
  | nil => rfl
  | cons x parts ih =>
    cases parts with
    | nil => simpa [List.intercalate] using words_word (h x (by simp))
    | cons y parts =>
      rw [intercalate_cons_cons, words_append (h x (by simp)) (by simp),
        words_space_cons isSpace_blank, ih fun w hw => h w (by simp_all)]

theorem getLast?_intercalate (h : ∀ w ∈ parts, w ≠ []) :
    ([' '].intercalate parts).getLast? = (parts.getLast?.bind List.getLast?) := by
  induction parts with
  | nil => rfl
  | cons x parts ih =>
    cases parts with
    | nil => simp [List.intercalate]
    | cons y parts =>
      have hne : [' '].intercalate (y :: parts) ≠ [] := by
        cases parts with
        | nil => simpa [List.intercalate] using h y (by simp)
        | cons z parts => rw [intercalate_cons_cons]; simp [h y (by simp)]
      rw [intercalate_cons_cons, List.getLast?_append, List.getLast?_cons,
        ih fun w hw => h w (by simp_all)]
      rw [List.getLast?_cons_cons]
      rw [← ih fun w hw => h w (by simp_all), List.getLast?_eq_some_getLast hne]
      simp

theorem replicate_tab_isSpace (n : Nat) : ∀ c ∈ List.replicate n '\t', isSpace c = true := by
  intro c hc
  rw [(List.mem_replicate.mp hc).2]
  exact isSpace_tab

theorem words_templateLine (n : Nat) (h : ∀ w ∈ parts, IsWord w) :
    words (templateLine n parts) = parts := by
  rw [templateLine, words_spaces_append (replicate_tab_isSpace n), words_intercalate h]

theorem trim_templateLine (n : Nat) (h : ∀ w ∈ parts, IsWord w) :
    trim (templateLine n parts) = [' '].intercalate parts := by
  rw [templateLine, trim_spaces_append (replicate_tab_isSpace n)]
  refine trim_eq_self (fun c hc => ?_) fun c hc => ?_
  · cases parts with
    | nil => simp [List.intercalate] at hc
    | cons x parts =>
      have hx := h x (by simp)
      have hHead : ([' '].intercalate (x :: parts)).head? = x.head? := by
        cases parts with
        | nil => simp [List.intercalate]
        | cons y parts =>
          rw [intercalate_cons_cons, List.head?_append]
          cases x with
          | nil => exact absurd rfl hx.ne_nil
          | cons d x => simp
      rw [hHead] at hc
      exact hx.2 c (List.mem_of_mem_head? hc)
  · rw [getLast?_intercalate fun w hw => (h w hw).ne_nil] at hc
    obtain ⟨w, hw, hcw⟩ := Option.bind_eq_some_iff.mp hc
    exact (h w (List.mem_of_getLast? hw)).2 c (List.mem_of_getLast? hcw)

theorem endsWithBrace_templateLine {w : Text} (n : Nat) (h : ∀ x ∈ parts ++ [w], IsWord x) :
    endsWithBrace (trim (templateLine n (parts ++ [w]))) = endsWithBrace w := by
  rw [trim_templateLine n h, endsWithBrace,
    getLast?_intercalate fun x hx => (h x hx).ne_nil]
  simp [endsWithBrace]

theorem words_templateLine_pair {k v : Text} (n : Nat) (hk : IsWord k) :
    words (templateLine n [k, v]) = k :: words v := by
  have hPair : [' '].intercalate [k, v] = k ++ ' ' :: v := by simp [List.intercalate]
  rw [templateLine, words_spaces_append (replicate_tab_isSpace n), hPair,
    words_append hk (by simp), words_space_cons isSpace_blank]

theorem trim_templateLine_pair {k v : Text} (n : Nat) (hk : IsWord k) (hv : trim v ≠ []) :
    ∃ p, (∀ c ∈ p, isSpace c = true) ∧
      trim (templateLine n [k, v]) = k ++ ((' ' :: p) ++ trim v) := by
  obtain ⟨p, q, hp, hq, hSplit⟩ := exists_spaces_trim v
  have hLine : [' '].intercalate [k, v] = (k ++ ((' ' :: p) ++ trim v)) ++ q := by
    conv_lhs => rw [← hSplit]
    simp [List.intercalate]
  refine ⟨p, hp, ?_⟩
  rw [templateLine, trim_spaces_append (replicate_tab_isSpace n), hLine, trim]
  have hStart : trimStart ((k ++ ((' ' :: p) ++ trim v)) ++ q) =
      (k ++ ((' ' :: p) ++ trim v)) ++ q := by
    rw [trimStart_eq_self_iff, List.append_assoc, List.head?_append_of_ne_nil _ hk.ne_nil]
    exact fun c hc => hk.2 c (List.mem_of_mem_head? hc)
  rw [hStart, trimEnd_append_spaces hq, trimEnd_eq_self_iff]
  rw [← List.append_assoc, List.getLast?_append_of_ne_nil _ hv]
  exact getLast?_trim v

theorem templateLine_cons_pair (n : Nat) (k x y : Text) :
    templateLine n [k, x, y] = templateLine n [k, x ++ ' ' :: y] := by
  simp [templateLine, List.intercalate]

/-- A line for a key and a value reads back as the key and the trimmed value,
unless the value is blank or goes over a line end. -/
theorem keyValue_templateLine {k v : Text} (n : Nat) (hk : IsWord k) (hv : trim v ≠ [])
    (hLine : ∀ c ∈ v, isLineTerminator c = false) :
    keyValue (trim (templateLine n [k, v])) = some (k, trim v) := by
  obtain ⟨p, hp, hTrim⟩ := trim_templateLine_pair n hk hv
  have hFirst : firstWord (trim (templateLine n [k, v])) = k := by
    rw [hTrim, firstWord_append hk (by simp)]
  have hValue : trimStart (afterWord (trim (templateLine n [k, v]))) = trim v := by
    rw [hTrim, afterWord_append hk (by simp), trimStart_spaces_append (by simpa using hp),
      (trimStart_eq_self_iff _).mpr (head?_trim v)]
  have hMem : ∀ c ∈ trim v, isLineTerminator c = false := by
    obtain ⟨p, q, -, -, hSplit⟩ := exists_spaces_trim v
    intro c hc
    exact hLine c (by rw [← hSplit]; simp [hc])
  simp only [keyValue, hFirst, hValue]
  rw [if_neg]
  simpa [hk.ne_nil, hv] using hMem

end Js
