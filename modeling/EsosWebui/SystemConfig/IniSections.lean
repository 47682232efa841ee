import EsosWebui.SystemConfig.IniLines

/-! What the parser makes of a file: where its sections come from, and how written ones read
back. -/
namespace EsosWebui.SystemConfig

open Js

variable {s : IniState} {events : List IniLine} {name key value : Text} {fields : SectionMap}

theorem IniState.step_entry (s : IniState) (key value : Text) :
    s.step (.entry key value) = s ∨ ∃ current, s.step (.entry key value) =
      { s with sections := s.sections.modify current fun fields => fields.set key value } := by
  cases hCurrent : s.current with
  | none => exact Or.inl (by simp only [step, hCurrent])
  | some current => exact Or.inr ⟨current, by simp only [step, hCurrent]⟩

theorem IniState.mem_keys_step {event : IniLine} (h : name ∈ (s.step event).sections.keys) :
    name ∈ s.sections.keys ∨ event = .header name := by
  cases event with
  | skipped => exact Or.inl h
  | header other =>
    rcases OrderedMap.mem_keys_set.mp h with rfl | h
    · exact Or.inr rfl
    · exact Or.inl h
  | entry k v =>
    left
    rcases s.step_entry k v with hStep | ⟨current, hStep⟩
    · rwa [hStep] at h
    · rw [hStep] at h
      exact (OrderedMap.mem_keys_modify _).mp h

theorem IniState.get_step {event : IniLine}
    (hFields : (s.step event).sections.get name = some fields)
    (hValue : fields.get key = some value) :
    (∃ old, s.sections.get name = some old ∧ old.get key = some value) ∨
      event = .entry key value := by
  cases event with
  | skipped => exact Or.inl ⟨fields, hFields, hValue⟩
  | header other =>
    simp only [step, OrderedMap.get_set] at hFields
    split at hFields
    · cases hFields
      cases hValue
    · exact Or.inl ⟨fields, hFields, hValue⟩
  | entry k v =>
    rcases s.step_entry k v with hStep | ⟨current, hStep⟩
    · rw [hStep] at hFields
      exact Or.inl ⟨fields, hFields, hValue⟩
    · rw [hStep] at hFields
      dsimp only at hFields
      rw [OrderedMap.get_modify] at hFields
      split at hFields
      · rename_i hName
        obtain ⟨old, hOld, rfl⟩ := Option.map_eq_some_iff.mp hFields
        rw [OrderedMap.get_set] at hValue
        split at hValue
        · rename_i hKey
          right
          rw [hKey, Option.some.inj hValue]
        · exact Or.inl ⟨old, hName ▸ hOld, hValue⟩
      · exact Or.inl ⟨fields, hFields, hValue⟩

theorem mem_keys_foldl (h : name ∈ (events.foldl IniState.step s).sections.keys) :
    name ∈ s.sections.keys ∨ .header name ∈ events := by
  induction events generalizing s with
  | nil => exact Or.inl h
  | cons event events ih =>
    rcases ih h with h | h
    · rcases IniState.mem_keys_step h with h | rfl
      · exact Or.inl h
      · exact Or.inr List.mem_cons_self
    · exact Or.inr (List.mem_cons_of_mem _ h)

theorem get_foldl (hFields : (events.foldl IniState.step s).sections.get name = some fields)
    (hValue : fields.get key = some value) :
    (∃ old, s.sections.get name = some old ∧ old.get key = some value) ∨
      .entry key value ∈ events := by
  induction events generalizing s with
  | nil => exact Or.inl ⟨fields, hFields, hValue⟩
  | cons event events ih =>
    rcases ih hFields with ⟨old, hOld, hOldValue⟩ | h
    · rcases IniState.get_step hOld hOldValue with hBefore | rfl
      · exact Or.inl hBefore
      · exact Or.inr List.mem_cons_self
    · exact Or.inr (List.mem_cons_of_mem _ h)

variable {content : Text}

theorem exists_header_of_mem_keys (h : name ∈ (parseIni content).keys) :
    ∃ rawLine ∈ content.splitOn '\n', iniLine rawLine = .header name := by
  rcases mem_keys_foldl h with hNone | hMem
  · exact absurd hNone List.not_mem_nil
  · exact List.mem_map.mp hMem

theorem exists_entry_of_get (hFields : (parseIni content).get name = some fields)
    (hValue : fields.get key = some value) :
    ∃ rawLine ∈ content.splitOn '\n', iniLine rawLine = .entry key value := by
  rcases get_foldl hFields hValue with ⟨old, hOld, -⟩ | hMem
  · cases hOld
  · exact List.mem_map.mp hMem

structure CleanSection (b : Text × SectionMap) : Prop where
  name : CleanValue b.1
  keys : ∀ e ∈ b.2.entries, CleanKey e.1
  values : ∀ e ∈ b.2.entries, CleanValue e.2

theorem cleanSection_of_mem_parseIni {b : Text × SectionMap}
    (h : b ∈ (parseIni content).entries) : CleanSection b := by
  have hGet : (parseIni content).get b.1 = some b.2 := OrderedMap.get_eq_some_iff.mpr h
  have hEntry : ∀ e ∈ b.2.entries, CleanKey e.1 ∧ CleanValue e.2 := by
    intro e he
    obtain ⟨rawLine, hLine, hRead⟩ :=
      exists_entry_of_get hGet (OrderedMap.get_eq_some_iff.mpr he)
    exact clean_of_iniLine hRead (not_mem_of_mem_splitOn hLine)
  obtain ⟨rawLine, -, hRead⟩ :=
    exists_header_of_mem_keys (OrderedMap.mem_keys_iff_get.mpr ⟨_, hGet⟩)
  exact ⟨cleanValue_of_iniLine hRead, fun e he => (hEntry e he).1, fun e he => (hEntry e he).2⟩

def sectionLines (b : Text × SectionMap) : List Text :=
  [] :: headerLine b.1 :: b.2.entries.map entryLine

def writtenLines (blocks : List (Text × SectionMap)) : List Text :=
  preamble ++ blocks.flatMap sectionLines

structure PrintableSection (b : Text × SectionMap) : Prop where
  named : b.1 ≠ []
  entries : ∀ e ∈ b.2.entries, ¬ OpensSection e

theorem CleanValue.noBreak (h : CleanValue value) : '\n' ∉ value := by
  intro hMem
  exact absurd (h.oneLine _ hMem) (by decide)

theorem CleanSection.noBreak {b : Text × SectionMap} (h : CleanSection b) :
    ∀ line ∈ sectionLines b, '\n' ∉ line := by
  intro line hLine
  simp only [sectionLines, List.mem_cons, List.mem_map] at hLine
  rcases hLine with rfl | rfl | ⟨e, he, rfl⟩
  · exact List.not_mem_nil
  · simp [headerLine, h.name.noBreak]
  · intro hMem
    rcases List.mem_append.mp hMem with hMem | hMem
    · rcases List.mem_append.mp hMem with hMem | hMem
      · exact (h.keys e he).noBreak hMem
      · exact absurd hMem (by decide)
    · exact (h.values e he).noBreak hMem

/-- What the lines of a section read as, whether or not it prints well. -/
theorem CleanSection.iniLine_cases {b : Text × SectionMap} (h : CleanSection b) {line : Text}
    (hLine : line ∈ sectionLines b) :
    iniLine line = .skipped ∨ (∃ name, name ≠ [] ∧ iniLine line = .header name) ∨
      ∃ e ∈ b.2.entries, ¬ OpensSection e ∧ iniLine line = .entry e.1 e.2 := by
  simp only [sectionLines, List.mem_cons, List.mem_map] at hLine
  rcases hLine with rfl | rfl | ⟨e, he, rfl⟩
  · exact Or.inl rfl
  · by_cases hName : b.1 = []
    · rw [hName]
      exact Or.inl iniLine_headerLine_nil
    · exact Or.inr (Or.inl ⟨b.1, hName, iniLine_headerLine h.name hName⟩)
  · by_cases hOpens : OpensSection e
    · exact Or.inr (Or.inl (iniLine_entryLine_of_opens (h.keys e he) (h.values e he) hOpens))
    · exact Or.inr (Or.inr ⟨e, he, hOpens,
        iniLine_entryLine (h.keys e he) (h.values e he) hOpens⟩)

theorem unlines_eq_intercalate (lines : List Text) :
    unlines lines = ['\n'].intercalate (lines ++ [[]]) := by
  induction lines with
  | nil => rfl
  | cons line lines ih =>
    have hCons : unlines (line :: lines) = line ++ '\n' :: unlines lines := by
      simp [unlines]
    rw [hCons, ih]
    cases lines with
    | nil => simp [List.intercalate]
    | cons next lines => exact (intercalate_cons_cons '\n' line next (lines ++ [[]])).symm

theorem parseIni_unlines {lines : List Text} (h : ∀ line ∈ lines, '\n' ∉ line) :
    parseIni (unlines lines) = ((lines.map iniLine).foldl IniState.step {}).sections := by
  have hSplit : (unlines lines).splitOn '\n' = lines ++ [[]] := by
    rw [unlines_eq_intercalate]
    refine List.splitOn_intercalate '\n' (fun line hLine => ?_) (by simp)
    rcases List.mem_append.mp hLine with hLine | hLine
    · exact h line hLine
    · rw [List.mem_singleton.mp hLine]
      exact List.not_mem_nil
  rw [parseIni, hSplit, List.map_append, List.foldl_append]
  rfl

theorem foldl_entries {sections : IniMap} (hNew : name ∉ sections.keys) (fields : SectionMap)
    (entries : List (Text × Text)) :
    (entries.map fun e => IniLine.entry e.1 e.2).foldl IniState.step
        { sections := sections.set name fields, current := some name } =
      { sections := sections.set name (fields.setAll entries), current := some name } := by
  induction entries generalizing fields with
  | nil => rfl
  | cons e entries ih =>
    have hStep : IniState.step { sections := sections.set name fields, current := some name }
        (.entry e.1 e.2) =
          { sections := sections.set name (fields.set e.1 e.2), current := some name } := by
      simp only [IniState.step]
      rw [OrderedMap.modify_set_of_not_mem hNew]
    rw [List.map_cons, List.foldl_cons, hStep, ih]
    rfl

theorem foldl_sectionLines {b : Text × SectionMap} (hClean : CleanSection b)
    (hPrint : PrintableSection b) (hNew : b.1 ∉ s.sections.keys) :
    ((sectionLines b).map iniLine).foldl IniState.step s =
      { sections := s.sections.set b.1 b.2, current := some b.1 } := by
  have hEntries : (b.2.entries.map entryLine).map iniLine =
      b.2.entries.map fun e => .entry e.1 e.2 := by
    rw [List.map_map]
    exact List.map_congr_left fun e he =>
      iniLine_entryLine (hClean.keys e he) (hClean.values e he) (hPrint.entries e he)
  have hLines : (sectionLines b).map iniLine =
      .skipped :: .header b.1 :: b.2.entries.map fun e => .entry e.1 e.2 := by
    rw [sectionLines, List.map_cons, List.map_cons, hEntries,
      iniLine_headerLine hClean.name hPrint.named]
    rfl
  rw [hLines]
  have hFold := foldl_entries hNew OrderedMap.empty b.2.entries
  rw [OrderedMap.setAll_entries] at hFold
  exact hFold

theorem foldl_sections {blocks : List (Text × SectionMap)} (hClean : ∀ b ∈ blocks, CleanSection b)
    (hPrint : ∀ b ∈ blocks, PrintableSection b)
    (hNodup : (blocks.map Prod.fst).Nodup) (hNew : ∀ b ∈ blocks, b.1 ∉ s.sections.keys) :
    (((blocks.flatMap sectionLines).map iniLine).foldl IniState.step s).sections.entries =
      s.sections.entries ++ blocks := by
  induction blocks generalizing s with
  | nil => simp
  | cons b blocks ih =>
    rw [List.map_cons, List.nodup_cons] at hNodup
    obtain ⟨hFirst, hRest⟩ := List.forall_mem_cons.mp hNew
    rw [List.flatMap_cons, List.map_append, List.foldl_append,
      foldl_sectionLines (hClean b List.mem_cons_self) (hPrint b List.mem_cons_self) hFirst, ih,
      OrderedMap.entries_set_of_not_mem hFirst, List.append_assoc, List.singleton_append]
    · exact fun d hd => hClean d (List.mem_cons_of_mem _ hd)
    · exact fun d hd => hPrint d (List.mem_cons_of_mem _ hd)
    · exact hNodup.2
    · intro d hd hMem
      rcases OrderedMap.mem_keys_set.mp hMem with hEq | hMem
      · exact hNodup.1 (hEq ▸ List.mem_map_of_mem hd)
      · exact hRest d hd hMem

theorem iniLine_preamble : ∀ line ∈ preamble, iniLine line = .skipped ∧ '\n' ∉ line := by decide

variable {blocks : List (Text × SectionMap)} (hClean : ∀ b ∈ blocks, CleanSection b)
include hClean

theorem parseIni_written :
    parseIni (unlines (writtenLines blocks)) =
      (((blocks.flatMap sectionLines).map iniLine).foldl IniState.step {}).sections := by
  rw [parseIni_unlines, writtenLines, List.map_append, List.foldl_append]
  · rfl
  · intro line hLine
    rcases List.mem_append.mp hLine with hLine | hLine
    · exact (iniLine_preamble line hLine).2
    · obtain ⟨b, hb, hLine⟩ := List.mem_flatMap.mp hLine
      exact (hClean b hb).noBreak line hLine

theorem parseIni_written_entries (hPrint : ∀ b ∈ blocks, PrintableSection b)
    (hNodup : (blocks.map Prod.fst).Nodup) :
    (parseIni (unlines (writtenLines blocks))).entries = blocks := by
  rw [parseIni_written hClean, foldl_sections hClean hPrint hNodup]
  · rfl
  · intro b _
    exact List.not_mem_nil

theorem not_opensSection_of_get (hFields : (parseIni (unlines (writtenLines blocks))).get name =
    some fields) (hValue : fields.get key = some value) : ¬ OpensSection (key, value) := by
  rw [parseIni_written hClean] at hFields
  rcases get_foldl hFields hValue with ⟨old, hOld, -⟩ | hMem
  · cases hOld
  obtain ⟨line, hLine, hRead⟩ := List.mem_map.mp hMem
  obtain ⟨b, hb, hLine⟩ := List.mem_flatMap.mp hLine
  rcases (hClean b hb).iniLine_cases hLine with h | ⟨other, -, h⟩ | ⟨e, -, hOpens, h⟩
  · cases h.symm.trans hRead
  · cases h.symm.trans hRead
  · cases h.symm.trans hRead
    exact hOpens

/-- A section without a name is never read from a written file. -/
theorem nil_not_mem_keys : [] ∉ (parseIni (unlines (writtenLines blocks))).keys := by
  intro hMem
  rw [parseIni_written hClean] at hMem
  rcases mem_keys_foldl hMem with hNone | hMem
  · exact absurd hNone List.not_mem_nil
  obtain ⟨line, hLine, hRead⟩ := List.mem_map.mp hMem
  obtain ⟨b, hb, hLine⟩ := List.mem_flatMap.mp hLine
  rcases (hClean b hb).iniLine_cases hLine with h | ⟨other, hNe, h⟩ | ⟨e, -, -, h⟩
  · cases h.symm.trans hRead
  · exact hNe (IniLine.header.inj (h.symm.trans hRead))
  · cases h.symm.trans hRead

end EsosWebui.SystemConfig
