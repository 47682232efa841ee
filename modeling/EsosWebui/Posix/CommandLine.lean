import Mathlib.Data.List.Basic
import Mathlib.Tactic.SplitIfs

/-! How a command line becomes words, and how a utility reads its words: which are options, which
are values of options, and which are operands. -/
namespace Posix

/-- Where a shell stands in a line. -/
inductive Lexing where
  | between
  | word (read : List Char)
  | quoted (read : List Char)
  | escaped (read : List Char)

/-- The words of a line that is made of plain characters, single quotes, backslashes and blanks.
There are none for a line that uses anything else of the shell's language. -/
def wordsFrom (plain : Char → Bool) : Lexing → List Char → Option (List (List Char))
  | .between, [] => some []
  | .word read, [] => some [read]
  | .quoted _, [] | .escaped _, [] => none
  | .between, c :: rest =>
    if c = ' ' then wordsFrom plain .between rest
    else if c = '\'' then wordsFrom plain (.quoted []) rest
    else if c = '\\' then wordsFrom plain (.escaped []) rest
    else if plain c then wordsFrom plain (.word [c]) rest
    else none
  | .word read, c :: rest =>
    if c = ' ' then (wordsFrom plain .between rest).map (read :: ·)
    else if c = '\'' then wordsFrom plain (.quoted read) rest
    else if c = '\\' then wordsFrom plain (.escaped read) rest
    else if plain c then wordsFrom plain (.word (read ++ [c])) rest
    else none
  | .quoted read, c :: rest =>
    if c = '\'' then wordsFrom plain (.word read) rest
    else wordsFrom plain (.quoted (read ++ [c])) rest
  | .escaped read, c :: rest => wordsFrom plain (.word (read ++ [c])) rest

structure IsPlain (plain : Char → Bool) : Prop where
  blank : plain ' ' = false
  quote : plain '\'' = false
  backslash : plain '\\' = false

def escapeQuotes (text : List Char) : List Char :=
  text.flatMap fun c => if c = '\'' then ['\'', '\\', '\'', '\''] else [c]

def quoteWord (plain : Char → Bool) (text : List Char) : List Char :=
  if text ≠ [] ∧ text.all plain then text else '\'' :: (escapeQuotes text ++ ['\''])

section

variable {plain : Char → Bool} {c : Char} {read text rest : List Char}

theorem IsPlain.ne (h : IsPlain plain) (hc : plain c) : c ≠ ' ' ∧ c ≠ '\'' ∧ c ≠ '\\' := by
  refine ⟨?_, ?_, ?_⟩
  · rintro rfl
    simp [h.blank] at hc
  · rintro rfl
    simp [h.quote] at hc
  · rintro rfl
    simp [h.backslash] at hc

theorem wordsFrom_word_append (h : IsPlain plain) (hText : text.all plain) :
    wordsFrom plain (.word read) (text ++ rest) = wordsFrom plain (.word (read ++ text)) rest := by
  induction text generalizing read with
  | nil => simp
  | cons c text ih =>
    simp only [List.all_cons, Bool.and_eq_true] at hText
    obtain ⟨hBlank, hQuote, hBackslash⟩ := h.ne hText.1
    rw [List.cons_append, wordsFrom, if_neg hBlank, if_neg hQuote, if_neg hBackslash,
      if_pos hText.1, ih hText.2]
    simp

theorem wordsFrom_quoted_append :
    wordsFrom plain (.quoted read) (escapeQuotes text ++ '\'' :: rest) =
      wordsFrom plain (.word (read ++ text)) rest := by
  induction text generalizing read with
  | nil => simp [escapeQuotes, wordsFrom]
  | cons c text ih =>
    simp only [escapeQuotes, List.flatMap_cons, List.append_assoc] at ih ⊢
    by_cases hc : c = '\''
    · subst hc
      -- the quotes are closed, one is read after a backslash, and they are opened again
      simp only [if_true, List.cons_append, List.nil_append]
      rw [wordsFrom, if_pos rfl, wordsFrom, if_neg (by decide), if_neg (by decide), if_pos rfl,
        wordsFrom, wordsFrom, if_neg (by decide), if_pos rfl, ih]
      simp
    · rw [if_neg hc, List.cons_append, wordsFrom, if_neg hc, List.nil_append, ih]
      simp

theorem wordsFrom_quoteWord_append (h : IsPlain plain) (text : List Char) :
    wordsFrom plain .between (quoteWord plain text ++ rest) =
      wordsFrom plain (.word text) rest := by
  rw [quoteWord]
  split_ifs with hText
  · obtain ⟨hNe, hAll⟩ := hText
    cases text with
    | nil => exact absurd rfl hNe
    | cons c text =>
      simp only [List.all_cons, Bool.and_eq_true] at hAll
      obtain ⟨hBlank, hQuote, hBackslash⟩ := h.ne hAll.1
      rw [List.cons_append, wordsFrom, if_neg hBlank, if_neg hQuote, if_neg hBackslash,
        if_pos hAll.1, wordsFrom_word_append h hAll.2, List.singleton_append]
  · rw [List.cons_append, wordsFrom, if_neg (by decide), if_pos rfl, List.append_assoc,
      List.singleton_append, wordsFrom_quoted_append, List.nil_append]

theorem wordsFrom_intercalate (h : IsPlain plain) (texts : List (List Char)) :
    wordsFrom plain .between ([' '].intercalate (texts.map (quoteWord plain))) = some texts := by
  induction texts with
  | nil => simp [wordsFrom]
  | cons text texts ih =>
    cases texts with
    | nil =>
      have hWord := @wordsFrom_quoteWord_append plain [] h text
      simp only [List.append_nil] at hWord
      simp [hWord, wordsFrom]
    | cons next texts =>
      rw [List.map_cons, List.map_cons, List.intercalate_cons_cons, List.append_assoc,
        wordsFrom_quoteWord_append h, List.singleton_append, wordsFrom, if_pos rfl,
        ← List.map_cons, ih, Option.map_some]

end

/-- How a shell reads the next character. What follows a comment sign or `$'` is not modelled. -/
inductive Quoting where
  | plain
  | dollar
  | single
  | double
  | escaped
  | escapedInDouble
  | unread
  deriving DecidableEq

/-- A character that stands for itself, or one that means something to the shell. -/
inductive Mark where
  | literal (c : Char)
  | active (c : Char)
  deriving DecidableEq

/-- The words that are read, and the one that is being read; an operator is a word of its own. -/
structure Reader where
  quoting : Quoting := .plain
  current : Option (List Mark) := none
  words : List (List Mark) := []

namespace Reader

def finish (r : Reader) : List (List Mark) := r.words ++ r.current.toList

def add (r : Reader) (marks : List Mark) (quoting : Quoting) : Reader :=
  { r with quoting, current := some (r.current.getD [] ++ marks) }

def step (r : Reader) (c : Char) : Reader :=
  match r.quoting with
  | .plain | .dollar =>
    if c = ' ' ∨ c = '\t' then { words := r.finish }
    else if c ∈ ";&|<>()\n".toList then { words := r.finish ++ [[.active c]] }
    else if c = '\'' then r.add [] (if r.quoting = .dollar then .unread else .single)
    else if c = '"' then r.add [] .double
    else if c = '\\' then { r with quoting := .escaped }
    else if c = '#' ∧ r.current = none then { r with quoting := .unread }
    else if c = '$' then r.add [.active c] .dollar
    else r.add [if c ∈ "`*?[]{}~#=%!".toList then .active c else .literal c] .plain
  | .single => if c = '\'' then r.add [] .plain else r.add [.literal c] .single
  | .double =>
    if c = '"' then r.add [] .plain
    else if c = '\\' then { r with quoting := .escapedInDouble }
    else r.add [if c = '$' ∨ c = '`' then .active c else .literal c] .double
  | .escaped => if c = '\n' then { r with quoting := .plain } else r.add [.literal c] .plain
  | .escapedInDouble =>
    if c = '\n' then r.add [] .double
    else r.add (if c ∈ "$`\"\\".toList then [.literal c] else [.literal '\\', .literal c]) .double
  | .unread => r

def read (r : Reader) (text : List Char) : Reader := text.foldl step r

end Reader

def shellWords (text : List Char) : Option (List (List Mark)) :=
  let r := Reader.read {} text
  if r.quoting = .plain ∨ r.quoting = .dollar then some r.finish else none

/-- Wherever it stands outside of quotes, a text adds just these characters to a word. -/
def Spells (text : List Char) (marks : List Mark) : Prop :=
  ∀ r : Reader, r.quoting = .plain → r.read text = r.add marks .plain

section

variable {r : Reader} {c : Char} {text text' : List Char} {marks marks' : List Mark}

namespace Reader

theorem add_add {q q' : Quoting} : (r.add marks q).add marks' q' = r.add (marks ++ marks') q' := by
  simp [add]

theorem read_append : r.read (text ++ text') = (r.read text).read text' := List.foldl_append

theorem read_escapeQuotes (hr : r.quoting = .single) :
    r.read (escapeQuotes text ++ ['\'']) = r.add (text.map .literal) .plain := by
  induction text generalizing r with
  | nil => simp [escapeQuotes, read, step, hr]
  | cons c text ih =>
    have hNext : r.read (if c = '\'' then ['\'', '\\', '\'', '\''] else [c]) =
        r.add [.literal c] .single := by
      split_ifs with hQuote
      · simp [hQuote, read, step, add, hr]
      · simp [hQuote, read, step, hr]
    rw [escapeQuotes, List.flatMap_cons, List.append_assoc, ← escapeQuotes, read_append, hNext,
      ih rfl, add_add]
    rfl

end Reader

theorem spells_quoted (text : List Char) :
    Spells ('\'' :: (escapeQuotes text ++ ['\''])) (text.map .literal) := by
  intro r hr
  have hQuote : r.step '\'' = r.add [] .single := by simp [Reader.step, hr]
  rw [Reader.read, List.foldl_cons, hQuote]
  exact (Reader.read_escapeQuotes rfl).trans Reader.add_add

theorem Spells.append (h : Spells text marks) (h' : Spells text' marks') :
    Spells (text ++ text') (marks ++ marks') := by
  intro r hr
  rw [Reader.read_append, h r hr, h' _ rfl, Reader.add_add]

/-- A character that is ordinary outside of quotes too. -/
def IsOrdinary (c : Char) : Prop := c ∉ " \t;&|<>()\n'\"\\$`*?[]{}~#=%!".toList

theorem spells_ordinary (hText : ∀ c ∈ text, IsOrdinary c) (hNe : text ≠ []) :
    Spells text (text.map .literal) := by
  have hOne {c : Char} (hc : IsOrdinary c) : Spells [c] [.literal c] := by
    intro r hr
    simp only [IsOrdinary, String.reduceToList, List.mem_cons, List.not_mem_nil, or_false,
      not_or] at hc
    simp [Reader.read, Reader.step, hr, hc]
  induction text with
  | nil => exact absurd rfl hNe
  | cons c text ih =>
    rw [List.forall_mem_cons] at hText
    by_cases hLast : text = []
    · rw [hLast]
      exact hOne hText.1
    · exact (hOne hText.1).append (ih hText.2 hLast)

variable {texts : List (List Char)} {words : List (List Mark)}

theorem Reader.read_intercalate (hText : Spells text marks) (h : List.Forall₂ Spells texts words)
    (hr : r.quoting = .plain) (hNone : r.current = none) :
    (r.read ([' '].intercalate (text :: texts))).quoting = .plain ∧
      (r.read ([' '].intercalate (text :: texts))).finish = r.words ++ marks :: words := by
  induction h generalizing text marks r with
  | nil =>
    rw [List.intercalate_singleton, hText r hr]
    simp [add, finish, hNone]
  | @cons next word texts words hNext h ih =>
    have hBlank : (r.add marks .plain).read [' '] = { words := r.words ++ [marks] } := by
      simp [read, step, add, finish, hNone]
    rw [List.intercalate_cons_cons, read_append, read_append, hText r hr, hBlank]
    obtain ⟨hPlain, hFinish⟩ := @ih { words := r.words ++ [marks] } _ _ hNext rfl rfl
    refine ⟨hPlain, hFinish.trans ?_⟩
    rw [List.append_assoc, List.singleton_append]

theorem shellWords_intercalate (h : List.Forall₂ Spells texts words) :
    shellWords ([' '].intercalate texts) = some words := by
  cases h with
  | nil => rfl
  | cons hText h =>
    obtain ⟨hPlain, hFinish⟩ := @Reader.read_intercalate {} _ _ _ _ hText h rfl rfl
    rw [shellWords, if_pos (.inl hPlain), hFinish]
    rfl

end

/-- What a word is to the utility that is given it. -/
inductive Reading where
  | option
  | valueOf (option : List Char)
  | terminator
  | operand

/-- A hyphen that more follows begins an option; a hyphen alone is an operand. -/
def IsOption (word : List Char) : Prop := word.head? = some '-' ∧ word ≠ ['-']

instance (word : List Char) : Decidable (IsOption word) := inferInstanceAs (Decidable (_ ∧ _))

/-- The words of a utility. An option may stand anywhere before `--`, and takes the next word as
its value when `takesNext` says so. -/
def readWords (takesNext : List Char → Bool) : List (List Char) → List Reading
  | [] => []
  | [word] =>
    [if word = ['-', '-'] then .terminator else if IsOption word then .option else .operand]
  | word :: next :: rest =>
    if word = ['-', '-'] then .terminator :: .operand :: rest.map fun _ => .operand
    else if IsOption word then
      if takesNext word then .option :: .valueOf word :: readWords takesNext rest
      else .option :: readWords takesNext (next :: rest)
    else .operand :: readWords takesNext (next :: rest)

section

variable {takesNext : List Char → Bool} {word next : List Char} {rest : List (List Char)}

theorem head?_readWords_eq_operand_iff (takesNext : List Char → Bool) (word : List Char)
    (rest : List (List Char)) :
    (readWords takesNext (word :: rest)).head? = some .operand ↔ ¬ IsOption word := by
  have hTerminator : IsOption ['-', '-'] := by decide
  cases rest with
  | nil =>
    rw [readWords]
    split_ifs with hEnd hOption
    · simp [hEnd, hTerminator]
    · simp [hOption]
    · simp [hOption]
  | cons next rest =>
    rw [readWords]
    split_ifs with hEnd hOption hTakes
    · simp [hEnd, hTerminator]
    · simp [hOption]
    · simp [hOption]
    · simp [hOption]

theorem readWords_flag (hOption : IsOption word) (hEnd : word ≠ ['-', '-'])
    (hTakes : takesNext word = false) (rest : List (List Char)) :
    readWords takesNext (word :: rest) = .option :: readWords takesNext rest := by
  cases rest with
  | nil => simp [readWords, hOption, hEnd]
  | cons next rest => simp [readWords, hOption, hEnd, hTakes]

theorem readWords_value (hOption : IsOption word) (hEnd : word ≠ ['-', '-'])
    (hTakes : takesNext word) (next : List Char) (rest : List (List Char)) :
    readWords takesNext (word :: next :: rest) =
      .option :: .valueOf word :: readWords takesNext rest := by
  simp [readWords, hOption, hEnd, hTakes]

end

/-- The words of a line up to the first `|` outside quotes, and what stands after it. -/
def wordsToPipe (plain : Char → Bool) : Lexing → List Char → Option (List (List Char) × List Char)
  | _, [] => none
  | .between, c :: rest =>
    if c = '|' then some ([], rest)
    else if c = ' ' then wordsToPipe plain .between rest
    else if c = '\'' then wordsToPipe plain (.quoted []) rest
    else if c = '\\' then wordsToPipe plain (.escaped []) rest
    else if plain c then wordsToPipe plain (.word [c]) rest
    else none
  | .word read, c :: rest =>
    if c = '|' then some ([read], rest)
    else if c = ' ' then
      (wordsToPipe plain .between rest).map fun (words, after) => (read :: words, after)
    else if c = '\'' then wordsToPipe plain (.quoted read) rest
    else if c = '\\' then wordsToPipe plain (.escaped read) rest
    else if plain c then wordsToPipe plain (.word (read ++ [c])) rest
    else none
  | .quoted read, c :: rest =>
    if c = '\'' then wordsToPipe plain (.word read) rest
    else wordsToPipe plain (.quoted (read ++ [c])) rest
  | .escaped read, c :: rest => wordsToPipe plain (.word (read ++ [c])) rest

/-- One pass of `printf` over its format, and the arguments that are left; there is none for a
format that uses more than `%s` and `\n`. -/
def printfOnce : List Char → List (List Char) → Option (List Char × List (List Char))
  | [], args => some ([], args)
  | '%' :: 's' :: format, args =>
    (printfOnce format args.tail).map fun (text, rest) => (args.headD [] ++ text, rest)
  | '\\' :: 'n' :: format, args =>
    (printfOnce format args).map fun (text, rest) => ('\n' :: text, rest)
  | c :: format, args =>
    if c = '%' ∨ c = '\\' then none
    else (printfOnce format args).map fun (text, rest) => (c :: text, rest)

/-- What `printf` writes: the format is used again while arguments are left. -/
def printf (format : List Char) : Nat → List (List Char) → Option (List Char)
  | 0, args => (printfOnce format args).map Prod.fst
  | passes + 1, args =>
    (printfOnce format args).bind fun (text, rest) =>
      if rest = [] ∨ rest.length = args.length then some text
      else (printf format passes rest).map (text ++ ·)

variable {plain : Char → Bool} {read text rest : List Char}

theorem wordsToPipe_quoted_append :
    wordsToPipe plain (.quoted read) (escapeQuotes text ++ '\'' :: rest) =
      wordsToPipe plain (.word (read ++ text)) rest := by
  induction text generalizing read with
  | nil => simp [escapeQuotes, wordsToPipe]
  | cons c text ih =>
    simp only [escapeQuotes, List.flatMap_cons, List.append_assoc] at ih ⊢
    by_cases hc : c = '\''
    · subst hc
      simp only [if_true, List.cons_append, List.nil_append]
      rw [wordsToPipe, if_pos rfl, wordsToPipe, if_neg (by decide), if_neg (by decide),
        if_neg (by decide), if_pos rfl, wordsToPipe, wordsToPipe, if_neg (by decide),
        if_neg (by decide), if_pos rfl, ih]
      simp
    · rw [if_neg hc, List.cons_append, wordsToPipe, if_neg hc, List.nil_append, ih]
      simp

end Posix
