import EsosWebui.Fs.CreateFs
import EsosWebui.Js.Lines

/-! The keymap of the console: what is written for one, and what is read back. -/
namespace EsosWebui.SystemConfig

open Js
open Fs (shellSingleQuoteForRemote)

def withoutEnd (letters text : Text) : Text :=
  if (text.rtake letters.length).map Char.toLower = letters then text.rdrop letters.length
  else text

/-- `null` is an identifier that is empty. -/
def normalizeKeymapId (input : Text) : Option Text :=
  let raw := trim input
  if raw = [] then none
  else
    let base := (raw.splitOn '/').getLast?.getD raw
    let id := trim (withoutEnd ".map".toList (withoutEnd ".map.gz".toList base))
    if id = [] then none else some id

/-- `[a-zA-Z0-9._-]` -/
def isKeymapChar (c : Char) : Bool := c.isAlphanum || "._-".toList.contains c

/-- `^[a-zA-Z0-9][a-zA-Z0-9._-]*$` -/
def matchesKeymap : Text → Bool
  | [] => false
  | c :: rest => c.isAlphanum && rest.all isKeymapChar

def validateKeymapId (value : Text) : Option Text :=
  let v := trim value
  if v = [] then some "Keymap vide".toList
  else if 64 < utf16Length v then some "Keymap trop long".toList
  else if matchesKeymap v = false then some "Keymap invalide".toList
  else none

def isKeymapAllowed (keymapId : Text) (available : List Text) : Bool :=
  (validateKeymapId keymapId).isNone && available.contains keymapId

def requestedKeymap (body : Text) (available : List Text) : Except Text Text :=
  let keymap := trim body
  match validateKeymapId keymap with
  | some err => .error err
  | none =>
    if isKeymapAllowed keymap available then .ok keymap
    else .error "Keymap non supporté".toList

/-- `[A-Za-z0-9_]` -/
def isIdentChar (c : Char) : Bool := c.isAlphanum || c = '_'

/-- The text from where the word stands for itself: `text.slice(text.search(/\bword\b/))`. -/
def fromWord (word : Text) : Option Char → Text → Option Text
  | _, [] => none
  | before, c :: rest =>
    if startsWith (c :: rest) word && !before.any isIdentChar &&
        !((c :: rest).drop word.length).head?.any isIdentChar then some (c :: rest)
    else fromWord word (some c) rest

def loadkeysWord : Text := "loadkeys".toList

/-- `text.replace(/^\s*loadkeys\s+/i, '')` -/
def afterLoadkeys (text : Text) : Text :=
  let start := trimStart text
  let rest := start.drop loadkeysWord.length
  if (start.take loadkeysWord.length).map Char.toLower = loadkeysWord && rest.head?.any isSpace
  then trimStart rest
  else text

def stripOuterQuotes (v : Text) : Text :=
  let s := trim v
  if startsWith s ['\''] && endsWith s ['\''] || startsWith s ['"'] && endsWith s ['"'] then
    s.tail.dropLast
  else s

def loadkeysArg (line : Text) : Option Text :=
  let trimmed := trim line
  if trimmed = [] || startsWith trimmed ['#'] then none
  else
    match fromWord loadkeysWord none trimmed with
    | none => none
    | some found =>
      let argRaw := trim ((afterLoadkeys found).takeWhile (· ≠ '#'))
      if argRaw = [] then none else some (stripOuterQuotes argRaw)

def parseRcKeymap (content : Text) : Option Text :=
  let lastArg := (lines content).foldl (fun last line => (loadkeysArg line).or last) none
  (lastArg.filter (· ≠ [])).bind normalizeKeymapId

def serializeRcKeymap (keymapId : Text) : Text :=
  let q := shellSingleQuoteForRemote keymapId
  joinLines [
    "#!/bin/sh".toList,
    "# Managed by ESOS WebUI — console keymap (TTY only)".toList,
    "if command -v loadkeys >/dev/null 2>&1; then".toList,
    "  loadkeys ".toList ++ q ++ " 2>/dev/null || loadkeys ".toList ++ q,
    "fi".toList,
    []]

structure Blanks where
  text : Text
  isSpace : ∀ c ∈ text, Js.isSpace c = true
  oneLine : '\n' ∉ text

/-- A word without quotation marks and without the mark of a comment. -/
structure PlainArg where
  text : Text
  isWord : IsWord text
  plain : ∀ c ∈ ['\'', '"', '#'], c ∉ text

inductive Quoting where
  | bare
  | single
  | double

def Quoting.apply : Quoting → Text → Text
  | .bare, text => text
  | .single, text => '\'' :: text ++ ['\'']
  | .double, text => '"' :: text ++ ['"']

inductive RcLine where
  | blank (blanks : Blanks)
  | comment (indent : Blanks) (text : Text) (oneLine : '\n' ∉ text)
  | loadkeys (indent gap : Blanks) (gap_ne_nil : gap.text ≠ []) (quoting : Quoting)
      (arg : PlainArg) (after : Blanks)

namespace RcLine

def toText : RcLine → Text
  | blank blanks => blanks.text
  | comment indent text _ => indent.text ++ '#' :: text
  | loadkeys indent gap _ quoting arg after =>
    indent.text ++ (loadkeysWord ++ gap.text ++ quoting.apply arg.text) ++ after.text

def arg? : RcLine → Option Text
  | blank _ | comment .. => none
  | loadkeys _ _ _ _ arg _ => some arg.text

end RcLine

def rcText (script : List RcLine) : Text := joinLines (script.map RcLine.toText)

def lastArgument (script : List RcLine) : Option Text := (script.filterMap RcLine.arg?).getLast?

theorem not_isIdentChar_of_isSpace {c : Char} (h : isSpace c) : isIdentChar c = false := by
  by_contra hNot
  rcases Bool.or_eq_true_iff.mp (Bool.eq_true_of_not_eq_false hNot) with hAlnum | hOther
  · rw [(isGraphic_of_isAlphanum hAlnum).isSpace] at h
    cases h
  · obtain rfl : c = '_' := of_decide_eq_true hOther
    revert h
    decide

theorem fromWord_append {word rest : Text} (hNe : word ≠ [])
    (hRest : rest.head?.any isIdentChar = false) :
    fromWord word none (word ++ rest) = some (word ++ rest) := by
  cases word with
  | nil => exact absurd rfl hNe
  | cons c word =>
    have hStart : startsWith (c :: (word ++ rest)) (c :: word) = true :=
      startsWith_iff.mpr (List.prefix_append (c :: word) rest)
    have hDrop : (c :: (word ++ rest)).drop (c :: word).length = rest := List.drop_left
    rw [List.cons_append, fromWord, hStart, hDrop, hRest]
    rfl

theorem afterLoadkeys_append {rest : Text} (h : rest.head?.any isSpace) :
    afterLoadkeys (loadkeysWord ++ rest) = trimStart rest := by
  have hStart : trimStart (loadkeysWord ++ rest) = loadkeysWord ++ rest := by
    refine (trimStart_eq_self_iff _).mpr fun c hc => ?_
    obtain rfl : 'l' = c := Option.some.inj hc
    decide
  have hWord : loadkeysWord.map Char.toLower = loadkeysWord := by decide
  rw [afterLoadkeys, hStart, List.take_left, List.drop_left, hWord, h, if_pos (by simp)]

section

variable {gap arg : Text}

theorem loadkeysArg_of_trim {line : Text} (hTrim : trim line = loadkeysWord ++ (gap ++ arg))
    (hGap : ∀ c ∈ gap, isSpace c = true) (hNe : gap ≠ []) (hArg : trim arg = arg)
    (hArgNe : arg ≠ []) (hPlain : '#' ∉ arg) :
    loadkeysArg line = some (stripOuterQuotes arg) := by
  obtain ⟨c, gap, rfl⟩ := List.exists_cons_of_ne_nil hNe
  have hSpace : isSpace c = true := hGap c List.mem_cons_self
  have hFound : fromWord loadkeysWord none (loadkeysWord ++ (c :: gap ++ arg)) =
      some (loadkeysWord ++ (c :: gap ++ arg)) :=
    fromWord_append (by decide) (not_isIdentChar_of_isSpace hSpace)
  have hAfter : afterLoadkeys (loadkeysWord ++ (c :: gap ++ arg)) = arg := by
    rw [@afterLoadkeys_append (c :: gap ++ arg) hSpace, trimStart_spaces_append hGap,
      trimStart_eq_self_iff]
    intro d hd
    have hHead := head?_trim arg
    rw [hArg] at hHead
    exact hHead d hd
  have hWhole : arg.takeWhile (· ≠ '#') = arg :=
    List.takeWhile_eq_self_iff.mpr fun d hd => by
      simpa using fun hEq : d = '#' => hPlain (hEq ▸ hd)
  have hComment : startsWith (loadkeysWord ++ (c :: gap ++ arg)) ['#'] = false := rfl
  rw [loadkeysArg, hTrim]
  dsimp only
  rw [hComment, if_neg (by simp), hFound]
  dsimp only
  rw [hAfter, hWhole, hArg, if_neg hArgNe]

end

theorem loadkeysArg_of_nil {line : Text} (h : trim line = []) : loadkeysArg line = none := by
  rw [loadkeysArg, h]
  rfl

theorem loadkeysArg_of_comment {line rest : Text} (h : trim line = '#' :: rest) :
    loadkeysArg line = none := by
  rw [loadkeysArg, h]
  rfl

theorem foldl_or_eq_getLast? {α β : Type} (f : α → Option β) (l : List α) :
    l.foldl (fun last a => (f a).or last) none = (l.filterMap f).getLast? := by
  induction l using List.reverseRecOn with
  | nil => rfl
  | append_singleton l a ih =>
    rw [List.foldl_concat, ih, List.filterMap_append, List.getLast?_append]
    cases hf : f a <;> simp [hf]

theorem parseRcKeymap_eq (content : Text) : parseRcKeymap content =
    (((lines content).filterMap loadkeysArg).getLast?.filter (· ≠ [])).bind normalizeKeymapId := by
  rw [parseRcKeymap, foldl_or_eq_getLast?]

section

variable {arg : PlainArg} (quoting : Quoting)

theorem PlainArg.not_quoted {c : Char} (hc : c ∈ ['\'', '"', '#']) :
    startsWith arg.text [c] = false := by
  have hPlain := arg.plain c hc
  cases hText : arg.text with
  | nil => rfl
  | cons d rest =>
    rw [hText] at hPlain
    have hNe : c ≠ d := fun hEq => hPlain (hEq ▸ List.mem_cons_self)
    simp [startsWith, List.isPrefixOf, hNe]

theorem trim_quoted (arg : PlainArg) : trim (quoting.apply arg.text) = quoting.apply arg.text := by
  cases quoting with
  | bare => exact arg.isWord.trim_eq
  | single => exact trim_of_ends (by decide) (by decide) arg.text
  | double => exact trim_of_ends (by decide) (by decide) arg.text

omit quoting in
theorem stripOuterQuotes_single (text : Text) :
    stripOuterQuotes ('\'' :: text ++ ['\'']) = text := by
  have hEnds : endsWith ('\'' :: text ++ ['\'']) ['\''] = true :=
    endsWith_iff.mpr (List.suffix_append _ _)
  have hStarts : startsWith ('\'' :: text ++ ['\'']) ['\''] = true := rfl
  rw [stripOuterQuotes, trim_of_ends (by decide) (by decide), hStarts, hEnds]
  exact List.dropLast_concat

omit quoting in
theorem stripOuterQuotes_double (text : Text) :
    stripOuterQuotes ('"' :: text ++ ['"']) = text := by
  have hEnds : endsWith ('"' :: text ++ ['"']) ['"'] = true :=
    endsWith_iff.mpr (List.suffix_append _ _)
  have hStarts : startsWith ('"' :: text ++ ['"']) ['"'] = true := rfl
  rw [stripOuterQuotes, trim_of_ends (by decide) (by decide), hStarts, hEnds, Bool.and_self,
    Bool.or_true]
  exact List.dropLast_concat

theorem stripOuterQuotes_quoted (arg : PlainArg) :
    stripOuterQuotes (quoting.apply arg.text) = arg.text := by
  cases quoting with
  | bare =>
    have hSingle := @PlainArg.not_quoted arg '\'' (by simp)
    have hDouble := @PlainArg.not_quoted arg '"' (by simp)
    rw [Quoting.apply, stripOuterQuotes, arg.isWord.trim_eq, hSingle, hDouble]
    rfl
  | single => exact stripOuterQuotes_single arg.text
  | double => exact stripOuterQuotes_double arg.text

theorem hash_not_mem_quoted (arg : PlainArg) : '#' ∉ quoting.apply arg.text := by
  have hPlain := arg.plain '#' (by simp)
  cases quoting <;> simp [Quoting.apply, hPlain]

theorem newline_not_mem_quoted (arg : PlainArg) : '\n' ∉ quoting.apply arg.text := by
  have hWord : '\n' ∉ arg.text := fun hMem => absurd (arg.isWord.2 _ hMem) (by decide)
  cases quoting <;> simp [Quoting.apply, hWord]

theorem quoted_ne_nil (arg : PlainArg) : quoting.apply arg.text ≠ [] := by
  cases quoting <;> simp [Quoting.apply, arg.isWord.ne_nil]

omit quoting in
theorem loadkeysArg_toText (line : RcLine) : loadkeysArg line.toText = line.arg? := by
  cases line with
  | blank blanks =>
    refine loadkeysArg_of_nil ((words_eq_nil_iff _).mp ?_)
    exact (words_append_spaces blanks.isSpace []).trans words_nil
  | comment indent text oneLine =>
    have hHead : ∀ c ∈ ('#' :: text).head?, isSpace c = false := by
      intro c hc
      obtain rfl : '#' = c := Option.some.inj hc
      decide
    have hTrim : trim (indent.text ++ '#' :: text) = trimEnd ('#' :: text) := by
      rw [trim_spaces_append indent.isSpace, trim, (trimStart_eq_self_iff _).mpr hHead]
    obtain ⟨rest, hRest⟩ : ∃ rest, trimEnd ('#' :: text) = '#' :: rest := by
      obtain ⟨p, hp, hText⟩ := exists_spaces_trimEnd ('#' :: text)
      cases hEnd : trimEnd ('#' :: text) with
      | nil =>
        rw [hEnd, List.nil_append] at hText
        exact absurd (hp '#' (hText ▸ List.mem_cons_self)) (by decide)
      | cons c rest =>
        rw [hEnd] at hText
        obtain ⟨rfl, -⟩ := List.cons.inj hText
        exact ⟨rest, rfl⟩
    exact loadkeysArg_of_comment (hTrim.trans hRest)
  | loadkeys indent gap gap_ne_nil quoting arg after =>
    have hInner : trim (loadkeysWord ++ gap.text ++ quoting.apply arg.text) =
        loadkeysWord ++ gap.text ++ quoting.apply arg.text := by
      apply trim_eq_self
      · intro c hc
        obtain rfl : 'l' = c := Option.some.inj hc
        decide
      · rw [List.getLast?_append_of_ne_nil _ (quoted_ne_nil quoting arg)]
        have hLast := getLast?_trim (quoting.apply arg.text)
        rwa [trim_quoted] at hLast
    have hTrim : trim (RcLine.loadkeys indent gap gap_ne_nil quoting arg after).toText =
        loadkeysWord ++ (gap.text ++ quoting.apply arg.text) := by
      rw [RcLine.toText, trim_between indent.isSpace after.isSpace, hInner, List.append_assoc]
    rw [loadkeysArg_of_trim hTrim gap.isSpace gap_ne_nil (trim_quoted quoting arg)
      (quoted_ne_nil quoting arg) (hash_not_mem_quoted quoting arg), stripOuterQuotes_quoted]
    rfl

omit quoting in
theorem newline_not_mem_toText (line : RcLine) : '\n' ∉ line.toText := by
  cases line with
  | blank blanks => exact blanks.oneLine
  | comment indent text oneLine => simp [RcLine.toText, indent.oneLine, oneLine]
  | loadkeys indent gap gap_ne_nil quoting arg after =>
    have hWord : '\n' ∉ loadkeysWord := by decide
    simp [RcLine.toText, indent.oneLine, hWord, gap.oneLine, newline_not_mem_quoted,
      after.oneLine]

omit quoting in
theorem parseRcKeymap_rcText (script : List RcLine) :
    parseRcKeymap (rcText script) = (lastArgument script).bind normalizeKeymapId := by
  have hLines : (lines (rcText script)).filterMap loadkeysArg = script.filterMap RcLine.arg? := by
    cases script with
    | nil => rfl
    | cons line script =>
      rw [rcText, lines_joinLines ?_ (by simp), List.filterMap_map]
      · exact List.filterMap_congr fun l _ => loadkeysArg_toText l
      · intro l hl
        obtain ⟨line, -, rfl⟩ := List.mem_map.mp hl
        exact newline_not_mem_toText line
  rw [parseRcKeymap_eq, hLines, ← lastArgument]
  cases hLast : lastArgument script with
  | none => rfl
  | some text =>
    obtain ⟨line, -, hArg⟩ := List.mem_filterMap.mp (List.mem_of_getLast? hLast)
    have hNe : text ≠ [] := by
      cases line with
      | blank _ => cases hArg
      | comment _ _ _ => cases hArg
      | loadkeys _ _ _ _ arg _ =>
        obtain rfl := Option.some.inj hArg
        exact arg.isWord.ne_nil
    rw [Option.filter_some_pos (by simpa using hNe)]

end

theorem withoutEnd_append_cons {letters : Text} {c : Char} (h : c.toLower ∉ letters)
    (front k : Text) :
    withoutEnd letters (front ++ c :: k) = front ++ c :: withoutEnd letters k := by
  by_cases hLength : letters.length ≤ k.length
  · have hTake : (front ++ c :: k).rtake letters.length = k.rtake letters.length := by
      rw [List.rtake, List.rtake, List.append_cons, List.drop_append, List.drop_of_length_le]
      · rw [List.nil_append]
        congr 1
        simp
        omega
      · simp
        omega
    have hDrop : (front ++ c :: k).rdrop letters.length =
        front ++ c :: k.rdrop letters.length := by
      rw [List.rdrop, List.rdrop, List.append_cons, List.take_append, List.take_of_length_le]
      · rw [List.append_assoc]
        congr 3
        simp
        omega
      · simp
        omega
    rw [withoutEnd, withoutEnd, hTake, hDrop]
    split
    · rfl
    · rfl
  · have hLong : ¬ ((front ++ c :: k).rtake letters.length).map Char.toLower = letters := by
      intro hEq
      have hMem : c ∈ (front ++ c :: k).rtake letters.length := by
        rw [List.rtake, List.drop_append_of_le_length (by simp; omega)]
        exact List.mem_append_right _ List.mem_cons_self
      exact h (hEq ▸ List.mem_map_of_mem hMem)
    have hShort : ¬ (k.rtake letters.length).map Char.toLower = letters := by
      intro hEq
      have hLengths := congrArg List.length hEq
      rw [List.length_map, List.rtake, List.length_drop] at hLengths
      omega
    rw [withoutEnd, withoutEnd, if_neg hLong, if_neg hShort]

theorem isPrefix_withoutEnd (letters text : Text) : withoutEnd letters text <+: text := by
  rw [withoutEnd]
  split
  · exact List.take_prefix _ _
  · exact List.prefix_rfl

def baseId (k : Text) : Text := withoutEnd ".map".toList (withoutEnd ".map.gz".toList k)

theorem isPrefix_baseId (k : Text) : baseId k <+: k :=
  (isPrefix_withoutEnd _ _).trans (isPrefix_withoutEnd _ _)

def misreadFront : Text := "null || loadkeys ".toList

theorem head?_misreadFront : misreadFront.head? = some 'n' := by decide

/-- What the parser takes for the keymap: the text behind the last slash. -/
def misread (k : Text) : Text := misreadFront ++ '\'' :: k

theorem baseId_misread (k : Text) : baseId (misread k) = misread (baseId k) := by
  have hGz : Char.toLower '\'' ∉ ".map.gz".toList := by decide
  have hMap : Char.toLower '\'' ∉ ".map".toList := by decide
  have hFirst := withoutEnd_append_cons hGz misreadFront k
  have hSecond := withoutEnd_append_cons hMap misreadFront
    (withoutEnd ".map.gz".toList k)
  exact (congrArg (withoutEnd ".map".toList) hFirst).trans hSecond

section

variable {k : Text}

/-- An identifier that the checks accept. -/
structure IsKeymap (k : Text) : Prop where
  isWord : IsWord k
  chars : ∀ c ∈ k, isKeymapChar c = true

theorem isSpace_of_isKeymapChar {c : Char} (h : isKeymapChar c) : isSpace c = false := by
  rcases Bool.or_eq_true_iff.mp h with hAlnum | hOther
  · exact (isGraphic_of_isAlphanum hAlnum).isSpace
  · have hKnown : "._-".toList.all (fun c => !isSpace c) = true := by decide
    simpa using List.all_eq_true.mp hKnown c (List.contains_iff_mem.mp hOther)

theorem isKeymap_of_matches (h : matchesKeymap k) : IsKeymap k := by
  cases k with
  | nil => cases h
  | cons c rest =>
    obtain ⟨hFirst, hRest⟩ := Bool.and_eq_true_iff.mp h
    have hChars : ∀ d ∈ c :: rest, isKeymapChar d = true := by
      intro d hd
      rcases List.mem_cons.mp hd with rfl | hd
      · rw [isKeymapChar, hFirst, Bool.true_or]
      · exact List.all_eq_true.mp hRest d hd
    exact ⟨⟨List.cons_ne_nil _ _, fun d hd => isSpace_of_isKeymapChar (hChars d hd)⟩, hChars⟩

theorem isKeymap_of_requestedKeymap {body : Text} {available : List Text}
    (h : requestedKeymap body available = .ok k) : IsKeymap k := by
  rw [requestedKeymap] at h
  cases hValid : validateKeymapId (trim body) with
  | some err =>
    rw [hValid] at h
    cases h
  | none =>
    rw [hValid] at h
    dsimp only at h
    split at h
    · obtain rfl := Except.ok.inj h
      refine isKeymap_of_matches ?_
      by_contra hNot
      rw [validateKeymapId, trim_trim, if_pos (Bool.eq_false_iff.mpr hNot)] at hValid
      split_ifs at hValid
    · cases h

theorem IsKeymap.not_mem (h : IsKeymap k) {c : Char} (hc : isKeymapChar c = false) : c ∉ k :=
  fun hMem => absurd (h.chars c hMem) (by simp [hc])

theorem IsKeymap.normalizeKeymapId (h : IsKeymap k) :
    normalizeKeymapId k = if baseId k = [] then none else some (baseId k) := by
  have hOne : k.splitOn '/' = [k] := List.splitOn_eq_singleton (h.not_mem (by decide))
  have hTrim : trim (baseId k) = baseId k := by
    apply trim_eq_self
    · exact fun c hc => h.isWord.2 c ((isPrefix_baseId k).subset (List.mem_of_head? hc))
    · exact fun c hc => h.isWord.2 c ((isPrefix_baseId k).subset (List.mem_of_getLast? hc))
  rw [SystemConfig.normalizeKeymapId, h.isWord.trim_eq, if_neg h.isWord.ne_nil, hOne]
  show (if trim (baseId k) = [] then none else some (trim (baseId k))) = _
  rw [hTrim]

def fallbackText : Text := "' 2>/dev/null || loadkeys '".toList

/-- The words of the line that loads the keymap. -/
def loadArgument (k : Text) : Text := k ++ fallbackText ++ k

theorem IsKeymap.normalizeKeymapId_loadArgument (h : IsKeymap k) :
    SystemConfig.normalizeKeymapId (loadArgument k) = some (misread (baseId k)) := by
  have hSlash : '/' ∉ k := h.not_mem (by decide)
  have hParts : loadArgument k =
      (k ++ "' 2>".toList) ++ '/' :: ("dev".toList ++ '/' :: misread k) := by
    have hBreaks : ∀ a b c : Text, k ++ (a ++ '/' :: (b ++ '/' :: (c ++ ['\'']))) ++ k =
        (k ++ a) ++ '/' :: (b ++ '/' :: (c ++ '\'' :: k)) := by simp
    have hText : fallbackText = "' 2>".toList ++
        '/' :: ("dev".toList ++ '/' :: (misreadFront ++ ['\''])) := by decide
    rw [loadArgument, hText]
    exact hBreaks _ _ _
  have hLast : ((loadArgument k).splitOn '/').getLast?.getD (loadArgument k) = misread k := by
    have hMisread : '/' ∉ misread k := by
      have hFront : '/' ∉ misreadFront := by decide
      rw [misread, List.mem_append, List.mem_cons]
      rintro (hIn | hIn | hIn)
      · exact hFront hIn
      · exact absurd hIn (by decide)
      · exact hSlash hIn
    rw [hParts, List.splitOn_append_cons_self, List.splitOn_append_cons_self,
      List.splitOn_eq_singleton hMisread, ← List.append_assoc, List.getLast?_concat]
    rfl
  have hTrim : trim (loadArgument k) = loadArgument k := by
    apply trim_eq_self
    · intro c hc
      rw [loadArgument, List.append_assoc, List.head?_append_of_ne_nil _ h.isWord.ne_nil] at hc
      exact h.isWord.2 c (List.mem_of_head? hc)
    · intro c hc
      rw [loadArgument, List.getLast?_append_of_ne_nil _ h.isWord.ne_nil] at hc
      exact h.isWord.2 c (List.mem_of_getLast? hc)
  have hNe : loadArgument k ≠ [] := fun hNil =>
    h.isWord.ne_nil (List.append_eq_nil_iff.mp hNil).2
  have hId : trim (misread (baseId k)) = misread (baseId k) := by
    apply trim_eq_self
    · intro c hc
      rw [misread, List.head?_append, head?_misreadFront] at hc
      obtain rfl : 'n' = c := Option.some.inj hc
      decide
    · intro c hc
      rw [misread, List.getLast?_append_of_ne_nil _ (List.cons_ne_nil _ _)] at hc
      rcases List.mem_cons.mp (List.mem_of_getLast? hc) with rfl | hIn
      · decide
      · exact h.isWord.2 c ((isPrefix_baseId k).subset hIn)
  rw [SystemConfig.normalizeKeymapId, hTrim, if_neg hNe, hLast]
  show (if trim (baseId (misread k)) = [] then none else some (trim (baseId (misread k)))) = _
  rw [baseId_misread, hId, if_neg]
  exact List.append_ne_nil_of_right_ne_nil _ (List.cons_ne_nil _ _)

def guardLine : Text := "if command -v loadkeys >/dev/null 2>&1; then".toList

def loadIndent : Text := "  loadkeys ".toList

def fallbackStart : Text := " 2>/dev/null || loadkeys ".toList

def loadLine (k : Text) : Text :=
  loadIndent ++ shellSingleQuoteForRemote k ++ fallbackStart ++ shellSingleQuoteForRemote k

theorem IsKeymap.loadkeysArg_loadLine (h : IsKeymap k) :
    loadkeysArg (loadLine k) = some (loadArgument k) := by
  have hQuote : shellSingleQuoteForRemote k = '\'' :: k ++ ['\''] :=
    Fs.quote_of_not_mem (h.not_mem (by decide))
  have hIndent : loadIndent = [' ', ' '] ++ (loadkeysWord ++ [' ']) := by decide
  have hBetween : fallbackText = '\'' :: fallbackStart ++ ['\''] := by decide
  have hLine : loadLine k =
      [' ', ' '] ++ (loadkeysWord ++ ([' '] ++ ('\'' :: loadArgument k ++ ['\'']))) := by
    have hJoin : ∀ a b c : Text, a ++ (b ++ [' ']) ++ ('\'' :: k ++ ['\'']) ++ c ++
          ('\'' :: k ++ ['\'']) =
        a ++ (b ++ ([' '] ++ ('\'' :: (k ++ ('\'' :: c ++ ['\'']) ++ k) ++ ['\'']))) := by simp
    rw [loadLine, hQuote, loadArgument, hBetween, hIndent]
    exact hJoin _ _ _
  have hTrim : trim (loadLine k) =
      loadkeysWord ++ ([' '] ++ ('\'' :: loadArgument k ++ ['\''])) := by
    rw [hLine, trim_spaces_append (by simp)]
    apply trim_eq_self
    · intro c hc
      obtain rfl : 'l' = c := Option.some.inj hc
      decide
    · intro c hc
      have hEnd : (loadkeysWord ++ ([' '] ++ ('\'' :: loadArgument k ++ ['\'']))).getLast? =
          some '\'' := by
        rw [← List.append_assoc, ← List.append_assoc, List.getLast?_concat]
      obtain rfl : '\'' = c := Option.some.inj (hEnd.symm.trans hc)
      decide
  have hPlain : '#' ∉ '\'' :: loadArgument k ++ ['\''] := by
    have hKeymap : '#' ∉ k := h.not_mem (by decide)
    have hText : '#' ∉ fallbackText := by decide
    rw [loadArgument, List.cons_append, List.mem_cons, List.mem_append, List.mem_append,
      List.mem_append]
    rintro (hIn | ((hIn | hIn) | hIn) | hIn)
    · exact absurd hIn (by decide)
    · exact hKeymap hIn
    · exact hText hIn
    · exact hKeymap hIn
    · exact absurd hIn (by decide)
  rw [loadkeysArg_of_trim hTrim (by simp) (List.cons_ne_nil _ _)
    (trim_of_ends (by decide) (by decide) _) (by simp) hPlain, stripOuterQuotes_single]

/-- For every keymap, the parser finds the end of the fallback in the script. -/
theorem IsKeymap.parseRcKeymap_serializeRcKeymap (h : IsKeymap k) :
    parseRcKeymap (serializeRcKeymap k) = some (misread (baseId k)) := by
  have hLines : lines (serializeRcKeymap k) = ["#!/bin/sh".toList,
      "# Managed by ESOS WebUI — console keymap (TTY only)".toList, guardLine, loadLine k,
      "fi".toList, []] := by
    refine lines_joinLines ?_ (List.cons_ne_nil _ _)
    have hShebang : '\n' ∉ "#!/bin/sh".toList := by decide
    have hComment : '\n' ∉ "# Managed by ESOS WebUI — console keymap (TTY only)".toList := by decide
    have hGuard : '\n' ∉ guardLine := by decide
    have hFi : '\n' ∉ "fi".toList := by decide
    have hLoad : '\n' ∉ loadLine k := by
      have hKeymap : '\n' ∉ k := h.not_mem (by decide)
      have hIndent : '\n' ∉ loadIndent := by decide
      have hFallback : '\n' ∉ fallbackStart := by decide
      rw [loadLine, Fs.quote_of_not_mem (h.not_mem (by decide))]
      simp [hKeymap, hIndent, hFallback]
    intro line hLine
    rcases List.mem_cons.mp hLine with rfl | hLine
    · exact hShebang
    rcases List.mem_cons.mp hLine with rfl | hLine
    · exact hComment
    rcases List.mem_cons.mp hLine with rfl | hLine
    · exact hGuard
    rcases List.mem_cons.mp hLine with rfl | hLine
    · exact hLoad
    rcases List.mem_cons.mp hLine with rfl | hLine
    · exact hFi
    · obtain rfl := List.mem_singleton.mp hLine
      exact List.not_mem_nil
  have hArgs : (lines (serializeRcKeymap k)).filterMap loadkeysArg =
      (loadkeysArg guardLine).toList ++ [loadArgument k] := by
    have hShebang : loadkeysArg "#!/bin/sh".toList = none := by decide
    have hComment : loadkeysArg "# Managed by ESOS WebUI — console keymap (TTY only)".toList =
        none := by decide
    have hFi : loadkeysArg "fi".toList = none := by decide
    have hNil : loadkeysArg [] = none := rfl
    rw [hLines, List.filterMap_cons_none hShebang, List.filterMap_cons_none hComment]
    cases hGuard : loadkeysArg guardLine with
    | none =>
      rw [List.filterMap_cons_none hGuard, List.filterMap_cons_some h.loadkeysArg_loadLine,
        List.filterMap_cons_none hFi, List.filterMap_cons_none hNil]
      rfl
    | some arg =>
      rw [List.filterMap_cons_some hGuard, List.filterMap_cons_some h.loadkeysArg_loadLine,
        List.filterMap_cons_none hFi, List.filterMap_cons_none hNil]
      rfl
  have hNe : loadArgument k ≠ [] := fun hNil =>
    h.isWord.ne_nil (List.append_eq_nil_iff.mp hNil).2
  rw [parseRcKeymap_eq, hArgs, List.getLast?_concat, Option.filter_some_pos (by simpa using hNe)]
  exact h.normalizeKeymapId_loadArgument

theorem IsKeymap.misread_ne (h : IsKeymap k) :
    parseRcKeymap (serializeRcKeymap k) ≠ SystemConfig.normalizeKeymapId k := by
  rw [h.parseRcKeymap_serializeRcKeymap, h.normalizeKeymapId]
  intro hSame
  split at hSame
  · cases hSame
  · have hLength := congrArg List.length (Option.some.inj hSame)
    rw [misread, List.length_append, List.length_cons] at hLength
    omega

end

/-- No keymap that is saved is read back; of a simple script, the last argument is. -/
theorem keymap_never_read_back (body : Text) (available : List Text) (script : List RcLine) :
    (∀ k, requestedKeymap body available = .ok k →
      parseRcKeymap (serializeRcKeymap k) ≠ normalizeKeymapId k) ∧
    parseRcKeymap (rcText script) = (lastArgument script).bind normalizeKeymapId :=
  ⟨fun _ h => (isKeymap_of_requestedKeymap h).misread_ne, parseRcKeymap_rcText script⟩

theorem requestedKeymap_us : requestedKeymap " us".toList ["us".toList] = .ok "us".toList := by
  decide

/-- `us` is saved, and an empty script has no keymap. -/
theorem keymap_never_read_back_us :
    parseRcKeymap (serializeRcKeymap "us".toList) ≠ normalizeKeymapId "us".toList ∧
      parseRcKeymap [] = none := by
  obtain ⟨hSaved, hScript⟩ := keymap_never_read_back " us".toList ["us".toList] []
  exact ⟨hSaved _ requestedKeymap_us, hScript⟩

/-- The keymap `us` is read back as `null || loadkeys 'us`. -/
theorem us_misread :
    requestedKeymap "us".toList ["us".toList] = .ok "us".toList ∧
    parseRcKeymap (serializeRcKeymap "us".toList) = some "null || loadkeys 'us".toList ∧
    parseRcKeymap (serializeRcKeymap "us".toList) ≠ normalizeKeymapId "us".toList := by
  have hKeymap : IsKeymap "us".toList := isKeymap_of_matches (by decide)
  refine ⟨by decide, ?_, hKeymap.misread_ne⟩
  rw [hKeymap.parseRcKeymap_serializeRcKeymap]
  decide

end EsosWebui.SystemConfig
