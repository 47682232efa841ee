import EsosWebui.Js.Strings

/-! The lines of a text, and their words. -/
namespace Js

/-- `text.split('\n')` -/
def lines (text : Text) : List Text := text.splitOn '\n'

/-- `lines.join('\n')` -/
def joinLines (ls : List Text) : Text := ['\n'].intercalate ls

theorem newline_not_mem_of_mem_lines {text line : Text} (h : line ∈ lines text) : '\n' ∉ line :=
  not_mem_of_mem_splitOn h

theorem lines_of_newline_not_mem {line : Text} (h : '\n' ∉ line) : lines line = [line] :=
  List.splitOn_eq_singleton h

theorem joinLines_lines (text : Text) : joinLines (lines text) = text :=
  List.intercalate_splitOn '\n'

theorem lines_append_newline (a b : Text) : lines (a ++ '\n' :: b) = lines a ++ lines b :=
  List.splitOn_append_cons_self a b

theorem joinLines_cons {line : Text} {ls : List Text} (h : ls ≠ []) :
    joinLines (line :: ls) = line ++ '\n' :: joinLines ls := by
  obtain ⟨next, rest, rfl⟩ := List.exists_cons_of_ne_nil h
  exact intercalate_cons_cons '\n' line next rest

theorem lines_joinLines_concat {ls : List Text} (h : ∀ line ∈ ls, '\n' ∉ line) (text : Text) :
    lines (joinLines (ls ++ [text])) = ls ++ lines text := by
  induction ls with
  | nil =>
    have hOne : joinLines [text] = text := List.intercalate_singleton
    rw [List.nil_append, hOne, List.nil_append]
  | cons line ls ih =>
    have hLine : '\n' ∉ line := h line List.mem_cons_self
    rw [List.cons_append, joinLines_cons (by simp), lines_append_newline,
      lines_of_newline_not_mem hLine, ih fun l hl => h l (List.mem_cons_of_mem _ hl)]
    rfl

theorem lines_joinLines {ls : List Text} (h : ∀ line ∈ ls, '\n' ∉ line) (hNe : ls ≠ []) :
    lines (joinLines ls) = ls := List.splitOn_intercalate '\n' h hNe

theorem lines_joinLines_flatMap {ls : List Text} (hNe : ls ≠ []) :
    lines (joinLines ls) = ls.flatMap lines := by
  induction ls with
  | nil => exact absurd rfl hNe
  | cons line ls ih =>
    cases ls with
    | nil => simp [show joinLines [line] = line from List.intercalate_singleton]
    | cons next ls =>
      rw [joinLines_cons (List.cons_ne_nil next ls), lines_append_newline,
        ih (List.cons_ne_nil next ls)]
      rfl

theorem length_lines (text : Text) : (lines text).length = text.count '\n' + 1 := by
  induction text with
  | nil => rfl
  | cons c text ih =>
    rw [lines, List.splitOn_cons_eq_if_modifyHead]
    by_cases hc : c = '\n'
    · subst hc
      rw [if_pos (by decide), List.length_cons, List.count_cons_self]
      exact congrArg (· + 1) ih
    · rw [if_neg (by simpa using hc), List.length_modifyHead, List.count_cons_of_ne hc]
      exact ih

theorem flatten_lines (text : Text) : (lines text).flatten = text.filter (· != '\n') := by
  induction text with
  | nil => rfl
  | cons c text ih =>
    rw [lines, List.splitOn_cons_eq_if_modifyHead]
    by_cases hc : c = '\n'
    · subst hc
      rw [if_pos (by decide), List.flatten_cons, List.filter_cons_of_neg (by decide)]
      exact ih
    · rw [if_neg (by simpa using hc), List.filter_cons_of_pos (by simpa using hc), ← ih]
      obtain ⟨first, rest, hSplit⟩ := List.exists_cons_of_ne_nil (List.splitOn_ne_nil '\n' text)
      rw [lines, hSplit]
      rfl

theorem exists_line_of_newline_not_mem {a : Text} (b : Text) (h : '\n' ∉ a) :
    ∃ line ∈ lines (a ++ b), a <+: line := by
  by_cases hBreak : '\n' ∈ b
  · obtain ⟨first, rest, rfl, hFirst⟩ := List.eq_append_cons_of_mem hBreak
    have hLine : '\n' ∉ a ++ first := by simp [h, hFirst]
    refine ⟨a ++ first, ?_, List.prefix_append a first⟩
    rw [← List.append_assoc, lines_append_newline, lines_of_newline_not_mem hLine]
    simp
  · have hLine : '\n' ∉ a ++ b := by simp [h, hBreak]
    refine ⟨a ++ b, ?_, List.prefix_append a b⟩
    rw [lines_of_newline_not_mem hLine]
    simp

theorem exists_line_of_append {line a : Text} (b : Text) (h : line ∈ lines a) :
    ∃ longer ∈ lines (a ++ b), line <+: longer := by
  by_cases hBreak : '\n' ∈ a
  · -- only the text behind the last line feed gets longer
    obtain ⟨last, before, hReverse, hLast⟩ :=
      List.eq_append_cons_of_mem (List.mem_reverse.mpr hBreak)
    obtain rfl : a = before.reverse ++ '\n' :: last.reverse := by
      rw [← List.reverse_reverse a, hReverse]
      simp
    have hLastLine : '\n' ∉ last.reverse := by simpa using hLast
    rw [lines_append_newline, lines_of_newline_not_mem hLastLine] at h
    rw [List.append_assoc, List.cons_append, lines_append_newline]
    rcases List.mem_append.mp h with h | h
    · exact ⟨line, List.mem_append_left _ h, List.prefix_rfl⟩
    · obtain rfl := List.mem_singleton.mp h
      obtain ⟨longer, hLonger, hPrefix⟩ := exists_line_of_newline_not_mem b hLastLine
      exact ⟨longer, List.mem_append_right _ hLonger, hPrefix⟩
  · rw [lines_of_newline_not_mem hBreak] at h
    obtain rfl := List.mem_singleton.mp h
    exact exists_line_of_newline_not_mem b hBreak

theorem lines_replicate_newline (n : Nat) :
    lines (List.replicate n '\n') = List.replicate (n + 1) [] := by
  induction n with
  | zero => rfl
  | succ n ih =>
    rw [List.replicate_succ, ← List.nil_append ('\n' :: _), lines_append_newline, ih]
    rfl

theorem lines_append_replicate_newline (text : Text) (n : Nat) :
    lines (text ++ List.replicate n '\n') = lines text ++ List.replicate n [] := by
  cases n with
  | zero => simp
  | succ n => rw [List.replicate_succ, lines_append_newline, lines_replicate_newline]

theorem flatten_sublist {α : Type} {a b : List (List α)} (h : a.Sublist b) :
    a.flatten.Sublist b.flatten := by
  induction h with
  | slnil => exact List.Sublist.refl _
  | cons part _ ih => exact ih.trans (List.sublist_append_right part _)
  | cons_cons part _ ih => exact ih.append_left part

/-- Lines with some blanks behind them hold a longer text only if it is longer by line feeds. -/
theorem eq_replicate_of_sublist {text more : Text} {k : Nat}
    (h : (lines (text ++ more)).Sublist (lines text ++ List.replicate k [])) :
    more.length ≤ k ∧ more = List.replicate more.length '\n' := by
  have hCount := h.length_le
  rw [length_lines, List.count_append, List.length_append, length_lines,
    List.length_replicate] at hCount
  have hChars := (flatten_sublist h).length_le
  rw [flatten_lines, List.filter_append, List.length_append, List.flatten_append, flatten_lines,
    List.length_append, List.flatten_replicate_nil, List.length_nil] at hChars
  have hNone : more.filter (· != '\n') = [] := List.eq_nil_of_length_eq_zero (by omega)
  have hAll : ∀ c ∈ more, c = '\n' := by
    intro c hc
    simpa using List.filter_eq_nil_iff.mp hNone c hc
  have hReplicate : more = List.replicate more.length '\n' :=
    List.eq_replicate_of_mem hAll
  refine ⟨?_, hReplicate⟩
  have hLength : more.count '\n' = more.length := by
    rw [hReplicate, List.count_replicate_self, List.length_replicate]
  omega

theorem trimEnd_append {s t : Text} (h : trimEnd s = s) : trimEnd (s ++ t) = s ++ trimEnd t := by
  obtain ⟨q, hq, hSplit⟩ := exists_spaces_trimEnd t
  have hText : s ++ t = (s ++ trimEnd t) ++ q := by rw [List.append_assoc, hSplit]
  rw [hText, trimEnd_append_spaces hq]
  by_cases hNil : trimEnd t = []
  · rw [hNil, List.append_nil, h]
  · have hIdem : trimEnd (trimEnd t) = trimEnd t := List.rdropWhile_idempotent _ _
    rw [trimEnd_eq_self_iff, List.getLast?_append_of_ne_nil _ hNil]
    exact (trimEnd_eq_self_iff _).mp hIdem

theorem trimEnd_append_cons {c : Char} (hc : isSpace c = false) (s t : Text) :
    trimEnd (s ++ c :: t) = s ++ c :: trimEnd t := by
  have hTrim : trimEnd (s ++ [c]) = s ++ [c] := by
    rw [trimEnd_eq_self_iff]
    simp [hc]
  rw [← List.singleton_append, ← List.append_assoc, trimEnd_append hTrim, List.append_assoc,
    List.singleton_append]

theorem length_trimEnd_le (s : Text) : (trimEnd s).length ≤ s.length := by
  obtain ⟨q, -, hSplit⟩ := exists_spaces_trimEnd s
  conv_rhs => rw [← hSplit]
  simp

theorem trim_cons {c : Char} (hc : isSpace c = false) (s : Text) :
    trim (c :: s) = c :: trimEnd s := by
  have hStart : trimStart (c :: s) = c :: s := List.dropWhile_cons_of_neg (by simp [hc])
  rw [trim, hStart]
  exact trimEnd_append_cons hc [] s

theorem trim_append_spaces {s spaces : Text} (h : ∀ c ∈ spaces, isSpace c = true) :
    trim (s ++ spaces) = trim s := by
  obtain ⟨front, hFront, hSplit⟩ := exists_spaces_trimStart s
  cases hRest : trimStart s with
  | nil =>
    rw [hRest, List.append_nil] at hSplit
    have hAll : ∀ c ∈ s ++ spaces, isSpace c = true := by
      intro c hc
      rcases List.mem_append.mp hc with hc | hc
      · exact hFront c (hSplit ▸ hc)
      · exact h c hc
    have hNil : trimStart (s ++ spaces) = [] := List.dropWhile_eq_nil_iff.mpr hAll
    rw [trim, trim, hNil, hRest]
  | cons c rest =>
    have hStart : trimStart (s ++ spaces) = trimStart s ++ spaces := by
      rw [← hSplit, List.append_assoc, trimStart_spaces_append hFront,
        trimStart_spaces_append hFront, (trimStart_eq_self_iff _).mpr,
        (trimStart_eq_self_iff _).mpr (head?_trimStart s)]
      rw [hRest]
      have hHead := head?_trimStart s
      rwa [hRest] at hHead
    rw [trim, hStart, trimEnd_append_spaces h, trim]

theorem trim_between {before text after : Text} (hBefore : ∀ c ∈ before, isSpace c = true)
    (hAfter : ∀ c ∈ after, isSpace c = true) : trim (before ++ text ++ after) = trim text := by
  rw [trim_append_spaces hAfter, trim_spaces_append hBefore]

theorem trim_of_ends {first last : Char} (hFirst : isSpace first = false)
    (hLast : isSpace last = false) (text : Text) :
    trim (first :: text ++ [last]) = first :: text ++ [last] := by
  apply trim_eq_self
  · intro c hc
    obtain rfl : first = c := Option.some.inj hc
    exact hFirst
  · intro c hc
    rw [List.getLast?_concat] at hc
    obtain rfl : last = c := Option.some.inj hc
    exact hLast

theorem words_append_space {c : Char} (hc : isSpace c) (a b : Text) :
    words (a ++ c :: b) = words a ++ words b := by
  rw [words, List.splitOnP_append_cons a b hc, List.filter_append]
  rfl

theorem words_joinLines (ls : List Text) : words (joinLines ls) = ls.flatMap words := by
  induction ls with
  | nil => rfl
  | cons line ls ih =>
    cases ls with
    | nil =>
      have hOne : joinLines [line] = line := List.intercalate_singleton
      simp [hOne]
    | cons next ls =>
      rw [joinLines_cons (List.cons_ne_nil next ls), words_append_space (by decide), ih]
      rfl

theorem words_eq_flatMap_lines (text : Text) : words text = (lines text).flatMap words := by
  rw [← words_joinLines, joinLines_lines]

theorem words_ne_nil {c : Char} {text : Text} (hMem : c ∈ text) (hc : isSpace c = false) :
    words text ≠ [] := by
  intro hNil
  have hTrim : trim text = [] := (words_eq_nil_iff text).mp hNil
  obtain ⟨p, q, hp, hq, hText⟩ := exists_spaces_trim text
  rw [hTrim, List.append_nil] at hText
  rcases List.mem_append.mp (hText ▸ hMem) with hIn | hIn
  · exact absurd (hp c hIn) (by simp [hc])
  · exact absurd (hq c hIn) (by simp [hc])

theorem length_words_le {text line : Text} (h : line ∈ lines text) :
    (words line).length ≤ (words text).length := by
  obtain ⟨before, after, hSplit⟩ := List.append_of_mem h
  rw [words_eq_flatMap_lines text, hSplit, List.flatMap_append, List.flatMap_cons,
    List.length_append, List.length_append]
  omega

theorem newline_not_mem_of_words_eq {text line : Text}
    (hFirst : ∀ c ∈ text.head?, isSpace c = false) (hLast : ∀ c ∈ text.getLast?, isSpace c = false)
    (hLine : line ∈ lines text) (hWords : words line = words text) : '\n' ∉ text := by
  intro hMem
  obtain ⟨a, b, rfl⟩ := List.append_of_mem hMem
  have hBefore : words a ≠ [] := by
    cases a with
    | nil => exact absurd (hFirst '\n' rfl) (by decide)
    | cons c a => exact words_ne_nil List.mem_cons_self (hFirst c rfl)
  have hAfter : words b ≠ [] := by
    cases hEnd : b.getLast? with
    | none =>
      obtain rfl := List.getLast?_eq_none_iff.mp hEnd
      exact absurd (hLast '\n' (by simp)) (by decide)
    | some c =>
      refine words_ne_nil (List.mem_of_getLast? hEnd) (hLast c ?_)
      simp [List.getLast?_append, List.getLast?_cons, hEnd]
  have hBreak : words (a ++ '\n' :: b) = words a ++ words b := words_append_space (by decide) a b
  have hLength : (words line).length = (words a).length + (words b).length := by
    rw [hWords, hBreak, List.length_append]
  have hPosBefore := List.length_pos_iff.mpr hBefore
  have hPosAfter := List.length_pos_iff.mpr hAfter
  rw [lines_append_newline] at hLine
  rcases List.mem_append.mp hLine with hIn | hIn
  · have := length_words_le hIn
    omega
  · have := length_words_le hIn
    omega

end Js
