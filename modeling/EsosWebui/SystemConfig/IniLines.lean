import EsosWebui.Js.Lines
import EsosWebui.SystemConfig.NetworkConf

/-! What the parser makes of a line, and of the lines that are written for a section. -/
namespace EsosWebui.SystemConfig

open Js RegExp

def OneLine (s : Text) : Prop := ∀ c ∈ s, isLineTerminator c = false

theorem dot_iff {c : Char} : dot c = true ↔ isLineTerminator c = false := by simp [dot]

theorem sectionPattern_eq_some {line : Text} {captures : List Text}
    (h : sectionPattern.match line = some captures) :
    ∃ name, captures = [name] ∧ name ≠ [] ∧ OneLine name ∧ line = headerLine name := by
  obtain ⟨read, rest, rfl, hRead⟩ := reads_of_match_start h
  obtain ⟨_, rfl, hGroup⟩ := reads_chain_literal.mp hRead
  obtain ⟨name, _, _, rfl, rfl, ⟨hNe, hName⟩, hClose⟩ := reads_chain_group_plus.mp hGroup
  obtain ⟨_, rfl, hEnd⟩ := reads_chain_literal.mp hClose
  obtain ⟨rfl, rfl, rfl⟩ := reads_chain_stop.mp hEnd
  exact ⟨name, rfl, hNe, fun c hc => dot_iff.mp (hName c hc), by simp [headerLine]⟩

theorem sectionPattern_headerLine {name : Text} (hNe : name ≠ []) (hLine : OneLine name) :
    sectionPattern.match (headerLine name) = some [name] := by
  have hRead : (chain [.literal ['['], .group (.plus dot), .literal [']'], .stop false]).Reads none
      (headerLine name) [] [name] := by
    refine reads_chain_literal.mpr ⟨name ++ [']'], rfl, ?_⟩
    refine reads_chain_group_plus.mpr
      ⟨name, [']'], [], rfl, rfl, ⟨hNe, fun c hc => dot_iff.mpr (hLine c hc)⟩, ?_⟩
    refine reads_chain_literal.mpr ⟨[], rfl, ?_⟩
    exact reads_chain_stop.mpr ⟨rfl, rfl, rfl⟩
  obtain ⟨found, hFound⟩ := exists_match_start hRead
  rw [List.append_nil] at hFound
  obtain ⟨other, rfl, -, -, hSame⟩ := sectionPattern_eq_some hFound
  have hOther : name = other := List.append_cancel_right (List.cons.inj hSame).2
  rw [← hOther] at hFound
  exact hFound

/-- A line is split at its first `=`. -/
theorem keyValuePattern_eq_some {line : Text} {captures : List Text}
    (h : keyValuePattern.match line = some captures) :
    ∃ before after, line = before ++ '=' :: after ∧ before ≠ [] ∧ '=' ∉ before ∧
      OneLine (trimStart after) ∧
      trim (captures.getD 0 []) = trim before ∧ trim (captures.getD 1 []) = trim after := by
  obtain ⟨read, rest, rfl, hRead⟩ := reads_of_match_start h
  obtain ⟨key, _, _, rfl, rfl, ⟨hNe, hKey⟩, hSpaces⟩ := reads_chain_group_plusLazy.mp hRead
  obtain ⟨left, _, rfl, hLeft, hEquals⟩ := reads_chain_star.mp hSpaces
  obtain ⟨_, rfl, hMore⟩ := reads_chain_literal.mp hEquals
  obtain ⟨right, _, rfl, hRight, hGroup⟩ := reads_chain_star.mp hMore
  obtain ⟨value, _, _, rfl, rfl, hValue, hEnd⟩ := reads_chain_group_star.mp hGroup
  obtain ⟨rfl, rfl, rfl⟩ := reads_chain_stop.mp hEnd
  refine ⟨key ++ left, right ++ value, by simp, by simp [hNe], ?_, ?_, ?_, ?_⟩
  · intro hMem
    rcases List.mem_append.mp hMem with hMem | hMem
    · simpa using hKey _ hMem
    · exact absurd (hLeft _ hMem) (by decide)
  · rw [trimStart_spaces_append hRight]
    exact fun c hc => dot_iff.mp (hValue c ((List.dropWhile_suffix _).subset hc))
  · exact (trim_append_spaces hLeft).symm
  · exact (trim_spaces_append hRight).symm

theorem exists_keyValuePattern {before after : Text} (hNe : before ≠ []) (hKey : '=' ∉ before)
    (hLine : OneLine (trimStart after)) :
    ∃ captures, keyValuePattern.match (before ++ '=' :: after) = some captures := by
  obtain ⟨right, hRight, hAfter⟩ := exists_spaces_trimStart after
  have hRead : (chain [.group (.plusLazy (· != '=')), .star isSpace, .literal ['='], .star isSpace,
      .group (.star dot), .stop false]).Reads none (before ++ '=' :: after) []
      [before, trimStart after] := by
    refine reads_chain_group_plusLazy.mpr ⟨before, '=' :: after, _, rfl, rfl, ⟨hNe, ?_⟩, ?_⟩
    · simpa using fun c hc (h : c = '=') => hKey (h ▸ hc)
    refine reads_chain_star.mpr ⟨[], '=' :: after, rfl, by simp, ?_⟩
    refine reads_chain_literal.mpr ⟨after, rfl, ?_⟩
    refine reads_chain_star.mpr ⟨right, trimStart after, hAfter.symm, hRight, ?_⟩
    refine reads_chain_group_star.mpr ⟨trimStart after, [], [], by simp, rfl, ?_, ?_⟩
    · exact fun c hc => dot_iff.mpr (hLine c hc)
    · exact reads_chain_stop.mpr ⟨rfl, rfl, rfl⟩
  obtain ⟨found, hFound⟩ := exists_match_start hRead
  rw [List.append_nil] at hFound
  exact ⟨found, hFound⟩

/-- A key as the parser keeps it. -/
structure CleanKey (key : Text) : Prop where
  nonempty : key ≠ []
  trimmed : trim key = key
  noEquals : '=' ∉ key
  noBreak : '\n' ∉ key
  notSemicolon : key.head? ≠ some ';'
  notHash : key.head? ≠ some '#'

/-- A value as the parser keeps it, and the name of a section too. -/
structure CleanValue (value : Text) : Prop where
  trimmed : trim value = value
  oneLine : OneLine value

def OpensSection (e : Text × Text) : Prop :=
  e.1.head? = some '[' ∧ OneLine e.1 ∧ e.2.getLast? = some ']'

theorem oneLine_of_mem {s t : Text} (h : OneLine t) (hSub : s ⊆ t) : OneLine s :=
  fun c hc => h c (hSub hc)

theorem trim_trimStart (s : Text) : trim (trimStart s) = trim s := by
  obtain ⟨p, hp, hSplit⟩ := exists_spaces_trimStart s
  conv_rhs => rw [← hSplit, trim_spaces_append hp]

theorem cleanValue_trim {s : Text} (h : OneLine (trimStart s)) : CleanValue (trim s) where
  trimmed := trim_trim s
  oneLine := by
    rw [← trim_trimStart]
    exact oneLine_of_mem h (trim_subset _)

theorem head?_append_left {s t : Text} (h : s ≠ []) : (s ++ t).head? = s.head? := by
  cases s with
  | nil => exact absurd rfl h
  | cons c s => rfl

theorem head?_trim_of_trimmed {s t line : Text} (hLine : trim line = line) (hSplit : line = s ++ t)
    (hs : s ≠ []) : trim s ≠ [] ∧ (trim s).head? = line.head? := by
  have hHead : ∀ c ∈ s.head?, isSpace c = false := by
    intro c hc
    refine head?_trim line c ?_
    rw [hLine, hSplit, head?_append_left hs]
    exact hc
  have hStart : trimStart s = s := (trimStart_eq_self_iff s).mpr hHead
  obtain ⟨q, hq, hEnd⟩ := exists_spaces_trimEnd s
  have hTrim : trim s = trimEnd s := by rw [trim, hStart]
  have hNe : trimEnd s ≠ [] := by
    intro hNil
    rw [hNil, List.nil_append] at hEnd
    obtain ⟨c, rest, rfl⟩ := List.exists_cons_of_ne_nil hs
    have hFalse := hHead c rfl
    rw [hq c (hEnd ▸ List.mem_cons_self)] at hFalse
    cases hFalse
  rw [hTrim]
  refine ⟨hNe, ?_⟩
  rw [hSplit, head?_append_left hs]
  conv_rhs => rw [← hEnd]
  exact (head?_append_left hNe).symm

theorem cleanValue_of_iniLine {rawLine name : Text} (h : iniLine rawLine = .header name) :
    CleanValue name := by
  unfold iniLine at h
  dsimp only at h
  split at h
  · cases h
  split at h
  · rename_i captures hMatch
    obtain ⟨text, rfl, -, hLine, -⟩ := sectionPattern_eq_some hMatch
    cases h
    exact cleanValue_trim (oneLine_of_mem hLine (List.dropWhile_suffix _).subset)
  · split at h <;> cases h

theorem clean_of_iniLine {rawLine key value : Text} (h : iniLine rawLine = .entry key value)
    (hRaw : '\n' ∉ rawLine) : CleanKey key ∧ CleanValue value := by
  unfold iniLine at h
  dsimp only at h
  split at h
  · cases h
  rename_i hText
  split at h
  · cases h
  split at h
  · rename_i captures hMatch
    obtain ⟨before, after, hLine, hNe, hKey, hAfter, hFirst, hSecond⟩ :=
      keyValuePattern_eq_some hMatch
    cases h
    rw [hFirst, hSecond]
    obtain ⟨hNonempty, hHead⟩ :=
      head?_trim_of_trimmed (trim_trim rawLine) hLine hNe
    simp only [not_or] at hText
    refine ⟨⟨hNonempty, trim_trim _, ?_, ?_, ?_, ?_⟩, cleanValue_trim hAfter⟩
    · exact fun hMem => hKey (trim_subset _ hMem)
    · refine fun hMem => hRaw (trim_subset _ ?_)
      rw [hLine]
      exact List.mem_append_left _ (trim_subset _ hMem)
    · rw [hHead]
      exact hText.2.1
    · rw [hHead]
      exact hText.2.2
  · cases h

theorem getLast?_headerLine (name : Text) : (headerLine name).getLast? = some ']' := by
  rw [headerLine, ← List.cons_append, List.getLast?_concat]

theorem iniLine_headerLine {name : Text} (hName : CleanValue name) (hNe : name ≠ []) :
    iniLine (headerLine name) = .header name := by
  have hTrim : trim (headerLine name) = headerLine name := by
    refine trim_eq_self (fun c hc => ?_) fun c hc => ?_
    · obtain rfl : '[' = c := Option.some.inj hc
      decide
    · obtain rfl : ']' = c := Option.some.inj ((getLast?_headerLine name).symm.trans hc)
      decide
  unfold iniLine
  rw [hTrim, if_neg (by simp [headerLine]), sectionPattern_headerLine hNe hName.oneLine]
  exact congrArg _ hName.trimmed

theorem iniLine_headerLine_nil : iniLine (headerLine []) = .skipped := by decide

/-- What follows the `=` of a printed entry, once its line is trimmed. -/
def afterEquals (value : Text) : Text := if value = [] then [] else ' ' :: value

variable {e : Text × Text} (hKey : CleanKey e.1) (hValue : CleanValue e.2)
include hKey hValue

theorem trim_entryLine : trim (entryLine e) = (e.1 ++ [' ']) ++ '=' :: afterEquals e.2 := by
  have hHead (t : Text) : ∀ c ∈ (e.1 ++ t).head?, isSpace c = false := by
    rw [head?_append_left hKey.nonempty]
    have hTrim := head?_trim e.1
    rwa [hKey.trimmed] at hTrim
  have hText : entryLine e = ((e.1 ++ [' ']) ++ '=' :: [' ']) ++ e.2 := by
    show e.1 ++ [' ', '=', ' '] ++ e.2 = _
    simp
  rw [hText, afterEquals]
  split
  · rename_i hNil
    have hSplit : e.1 ++ [' '] ++ '=' :: [' '] ++ e.2 = (e.1 ++ [' ', '=']) ++ [' '] := by
      simp [hNil]
    rw [hSplit, trim_append_spaces (by simp), trim_eq_self (hHead _)]
    · simp
    · intro c hc
      have hLast : (e.1 ++ [' ', '=']).getLast? = some '=' := by
        rw [List.getLast?_append_of_ne_nil _ (by simp)]
        rfl
      obtain rfl : '=' = c := Option.some.inj (hLast.symm.trans hc)
      decide
  · rename_i hNe
    rw [trim_eq_self]
    · simp
    · rw [List.append_assoc, List.append_assoc]
      exact hHead _
    · rw [List.getLast?_append_of_ne_nil _ hNe]
      have hTrim := getLast?_trim e.2
      rwa [hValue.trimmed] at hTrim

theorem exists_headerLine_iff :
    (∃ name, name ≠ [] ∧ OneLine name ∧ trim (entryLine e) = headerLine name) ↔
      OpensSection e := by
  rw [trim_entryLine hKey hValue]
  have hLine : (e.1 ++ [' ']) ++ '=' :: afterEquals e.2 =
      e.1 ++ (' ' :: '=' :: afterEquals e.2) := by simp
  rw [hLine]
  constructor
  · rintro ⟨name, -, hName, hEq⟩
    refine ⟨?_, ?_, ?_⟩
    · rw [← head?_append_left hKey.nonempty, hEq]
      rfl
    · intro c hc
      have hMem : c ∈ headerLine name := hEq ▸ List.mem_append_left _ hc
      simp only [headerLine, List.mem_cons, List.mem_append, List.not_mem_nil, or_false] at hMem
      rcases hMem with rfl | hMem | rfl
      · decide
      · exact hName c hMem
      · decide
    · have hLast := getLast?_headerLine name
      rw [← hEq, List.getLast?_append_of_ne_nil _ (by simp), afterEquals] at hLast
      split at hLast
      · simp at hLast
      · rename_i hNe
        obtain ⟨c, value, hCons⟩ := List.exists_cons_of_ne_nil hNe
        rw [hCons] at hLast ⊢
        simpa [List.getLast?_cons_cons] using hLast
  · rintro ⟨hHead, hOne, hLast⟩
    have hNe : e.2 ≠ [] := by
      intro hNil
      simp [hNil] at hLast
    obtain ⟨key, hKeyEq⟩ : ∃ key, e.1 = '[' :: key := by
      obtain ⟨c, key, hCons⟩ := List.exists_cons_of_ne_nil hKey.nonempty
      rw [hCons, List.head?_cons, Option.some.injEq] at hHead
      exact ⟨key, by rw [hCons, hHead]⟩
    obtain ⟨value, hValueEq⟩ : ∃ value, e.2 = value ++ [']'] := by
      refine ⟨e.2.dropLast, ?_⟩
      have hGet := List.dropLast_append_getLast? ']' hLast
      exact hGet.symm
    refine ⟨key ++ ' ' :: '=' :: ' ' :: value, by simp, ?_, ?_⟩
    · intro c hc
      simp only [List.mem_append, List.mem_cons] at hc
      rcases hc with hc | rfl | rfl | rfl | hc
      · exact hOne c (by simp [hKeyEq, hc])
      · decide
      · decide
      · decide
      · exact hValue.oneLine c (by simp [hValueEq, hc])
    · rw [afterEquals, if_neg hNe, hKeyEq, hValueEq]
      simp [headerLine]

theorem entryLine_text :
    trim (entryLine e) ≠ [] ∧ (trim (entryLine e)).head? ≠ some ';' ∧
      (trim (entryLine e)).head? ≠ some '#' := by
  have hHead : (trim (entryLine e)).head? = e.1.head? := by
    rw [trim_entryLine hKey hValue, List.append_assoc, head?_append_left hKey.nonempty]
  refine ⟨?_, hHead ▸ hKey.notSemicolon, hHead ▸ hKey.notHash⟩
  intro hNil
  rw [hNil, List.head?_nil] at hHead
  exact hKey.nonempty (List.head?_eq_none_iff.mp hHead.symm)

theorem iniLine_entryLine (h : ¬ OpensSection e) :
    iniLine (entryLine e) = .entry e.1 e.2 := by
  obtain ⟨hNe, hSemicolon, hHash⟩ := entryLine_text hKey hValue
  have hSection : sectionPattern.match (trim (entryLine e)) = none := by
    cases hMatch : sectionPattern.match (trim (entryLine e)) with
    | none => rfl
    | some captures =>
      obtain ⟨name, -, hName⟩ := sectionPattern_eq_some hMatch
      exact absurd ((exists_headerLine_iff hKey hValue).mp ⟨name, hName⟩) h
  have hSpaced : '=' ∉ e.1 ++ [' '] := by simp [hKey.noEquals]
  have hAfter : trimStart (afterEquals e.2) = e.2 := by
    unfold afterEquals
    split
    · rename_i hNil
      rw [hNil]
      rfl
    · rw [trimStart_space_cons isSpace_blank, trimStart_eq_self_iff]
      have hTrim := head?_trim e.2
      rwa [hValue.trimmed] at hTrim
  have hLine := trim_entryLine hKey hValue
  have hBefore : e.1 ++ [' '] ≠ [] := List.append_ne_nil_of_left_ne_nil hKey.nonempty _
  obtain ⟨captures, hMatch⟩ :=
    exists_keyValuePattern hBefore hSpaced (hAfter.symm ▸ hValue.oneLine)
  rw [← hLine] at hMatch
  obtain ⟨before, after, hSplit, -, hOther, -, hFirst, hSecond⟩ := keyValuePattern_eq_some hMatch
  obtain ⟨rfl, rfl⟩ := eq_of_append_cons_eq hSpaced hOther (hLine.symm.trans hSplit)
  have hKeyText : trim (e.1 ++ [' ']) = e.1 := by
    rw [trim_append_spaces (by simp), hKey.trimmed]
  have hValueText : trim (afterEquals e.2) = e.2 := by
    rw [← trim_trimStart, hAfter, hValue.trimmed]
  unfold iniLine
  rw [if_neg (by simp [hNe, hSemicolon, hHash]), hSection]
  dsimp only
  rw [hMatch]
  dsimp only
  rw [hFirst, hSecond, hKeyText, hValueText]

theorem iniLine_entryLine_of_opens (h : OpensSection e) :
    ∃ name, name ≠ [] ∧ iniLine (entryLine e) = .header name := by
  obtain ⟨hNe, hSemicolon, hHash⟩ := entryLine_text hKey hValue
  obtain ⟨name, hName, hLine, hText⟩ := (exists_headerLine_iff hKey hValue).mpr h
  have hEquals : '=' ∈ trim name := by
    have hMem : '=' ∈ headerLine name := by
      rw [← hText, trim_entryLine hKey hValue]
      simp
    have hIn : '=' ∈ name := by simpa [headerLine] using hMem
    obtain ⟨p, q, hp, hq, hSplit⟩ := exists_spaces_trim name
    rw [← hSplit] at hIn
    simp only [List.mem_append] at hIn
    rcases hIn with (hIn | hIn) | hIn
    · exact absurd (hp _ hIn) (by decide)
    · exact hIn
    · exact absurd (hq _ hIn) (by decide)
  refine ⟨trim name, List.ne_nil_of_mem hEquals, ?_⟩
  unfold iniLine
  rw [if_neg (by simp [hNe, hSemicolon, hHash]), hText, sectionPattern_headerLine hName hLine]
  rfl

end EsosWebui.SystemConfig
