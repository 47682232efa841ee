import EsosWebui.Scst.Reread

/-! What every parsed configuration satisfies: names are words, values stay on
their line, numbers were read from digits, and objects know their parents. -/
namespace EsosWebui.Scst

open Js

/-- A key and a value as the pattern of an attribute line captures them, up to quotes. -/
structure ParsedAttr (e : Text × Text) : Prop where
  key : IsWord e.1
  notComment : e.1.head? ≠ some '#'
  oneLine : ∀ c ∈ e.2, isLineTerminator c = false

def ParsedNumber (n : Number) : Prop := ∃ digits, isDigits digits = true ∧ n = Number.parseInt digits

theorem parsedNumber_parseInt {digits : Text} (h : isDigits digits) :
    ParsedNumber (Number.parseInt digits) := ⟨digits, h, Eq.refl _⟩

theorem parsedNumber_zero : ParsedNumber (.int 0) :=
  ⟨['0'], rfl, (Number.ofNat_of_lt (n := 0) (Nat.two_pow_pos _)).symm⟩

structure Device.WellFormed (handler : Text) (x : Device) : Prop where
  name : IsWord x.name
  handler : x.handler = handler
  filename : ∀ c ∈ x.filename, isLineTerminator c = false
  attrs : ∀ e ∈ x.attrs.entries, ParsedAttr e ∧ e.1 ≠ Keyword.filename

structure Handler.WellFormed (x : Handler) : Prop where
  name : IsWord x.name
  devices : ∀ d ∈ x.devices, d.WellFormed x.name

structure Lun.WellFormed (x : Lun) : Prop where
  id : ParsedNumber x.id
  device : IsWord x.device

structure Group.WellFormed (x : Group) : Prop where
  name : IsWord x.name
  initiators : ∀ i ∈ x.initiators, IsWord i
  luns : ∀ l ∈ x.luns, l.WellFormed

structure Target.WellFormed (driver : Text) (x : Target) : Prop where
  name : IsWord x.name
  driver : x.driver = driver
  attrs : ∀ e ∈ x.attrs.entries, ParsedAttr e
  groups : ∀ g ∈ x.groups, g.WellFormed
  luns : ∀ l ∈ x.luns, l.WellFormed

structure Driver.WellFormed (x : Driver) : Prop where
  name : IsWord x.name
  targets : ∀ t ∈ x.targets, t.WellFormed x.name

structure AluaTargetGroupConfig.WellFormed (x : AluaTargetGroupConfig) : Prop where
  name : IsWord x.name
  groupId : ParsedNumber x.groupId
  targets : ∀ t ∈ x.targets, IsWord t

structure AluaDeviceGroupConfig.WellFormed (x : AluaDeviceGroupConfig) : Prop where
  name : IsWord x.name
  devices : ∀ d ∈ x.devices, IsWord d
  targetGroups : ∀ t ∈ x.targetGroups, t.WellFormed

structure ScstConfig.WellFormed (c : ScstConfig) : Prop where
  handlers : ∀ h ∈ c.handlers, h.WellFormed
  drivers : ∀ d ∈ c.drivers, d.WellFormed
  deviceGroups : ∀ g ∈ c.deviceGroups, g.WellFormed

theorem forall_mem_modify {α : Type} {P : α → Prop} {f : α → α} {i : Nat} {l : List α}
    (h : ∀ x ∈ l, P x) (hf : ∀ x, P x → P (f x)) : ∀ x ∈ l.modify i f, P x := by
  intro x hx
  rcases mem_modify hx with hx | ⟨y, hy, rfl⟩
  · exact h x hx
  · exact hf y (h y hy)

theorem forall_mem_append_singleton {α : Type} {P : α → Prop} {l : List α} {x : α}
    (h : ∀ y ∈ l, P y) (hx : P x) : ∀ y ∈ l ++ [x], P y := by
  intro y hy
  rcases List.mem_append.mp hy with hy | hy
  · exact h y hy
  · rw [List.mem_singleton.mp hy]
    exact hx

namespace ScstConfig.WellFormed

variable {c : ScstConfig}

theorem modifyHandler (h : c.WellFormed) {i : Nat} {f : Handler → Handler}
    (hf : ∀ x, x.WellFormed → (f x).WellFormed) : (c.modifyHandler i f).WellFormed :=
  { h with handlers := forall_mem_modify h.handlers hf }

theorem modifyDriver (h : c.WellFormed) {i : Nat} {f : Driver → Driver}
    (hf : ∀ x, x.WellFormed → (f x).WellFormed) : (c.modifyDriver i f).WellFormed :=
  { h with drivers := forall_mem_modify h.drivers hf }

theorem modifyDeviceGroup (h : c.WellFormed) {i : Nat}
    {f : AluaDeviceGroupConfig → AluaDeviceGroupConfig}
    (hf : ∀ x, x.WellFormed → (f x).WellFormed) : (c.modifyDeviceGroup i f).WellFormed :=
  { h with deviceGroups := forall_mem_modify h.deviceGroups hf }

theorem modifyTarget (h : c.WellFormed) {d t : Nat} {f : Target → Target}
    (hf : ∀ driver x, x.WellFormed driver → (f x).WellFormed driver) :
    (c.modifyTarget d t f).WellFormed :=
  h.modifyDriver fun x hx =>
    { name := hx.name
      targets := forall_mem_modify (P := Target.WellFormed x.name) hx.targets (hf x.name) }

theorem modifyGroup (h : c.WellFormed) {d t g : Nat} {f : Group → Group}
    (hf : ∀ x, x.WellFormed → (f x).WellFormed) : (c.modifyGroup d t g f).WellFormed :=
  h.modifyTarget fun _ _ hx => { hx with groups := forall_mem_modify hx.groups hf }

theorem modifyLun (h : c.WellFormed) {lun : LunRef} {f : Lun → Lun}
    (hf : ∀ x, x.WellFormed → (f x).WellFormed) : (c.modifyLun f lun).WellFormed := by
  cases lun with
  | ofTarget d t l =>
    exact h.modifyTarget fun _ _ hx => { hx with luns := forall_mem_modify hx.luns hf }
  | ofGroup d t g l =>
    exact h.modifyGroup fun _ hx => { hx with luns := forall_mem_modify hx.luns hf }

end ScstConfig.WellFormed

section

variable {raw : Text} {c : ScstConfig}

private theorem isWord_of_words {line : Text} {ws : List Text} {w : Text} (h : words line = ws)
    (hw : w ∈ ws) : IsWord w := isWord_of_mem_words (s := line) (h ▸ hw)

private theorem isWord_of_blockName {line keyword name : Text}
    (h : blockName keyword (words line) = some name) : IsWord name := by
  rcases blockName_eq_some.mp h with h | h
  · exact isWord_of_words h (by simp)
  · exact isWord_of_words h (by simp)

private theorem isWord_of_soleWord {line keyword name : Text}
    (h : soleWord keyword (words line) = some name) : IsWord name :=
  isWord_of_words (soleWord_eq_some.mp h) (by simp)

private theorem newLun_wellFormed {line digits device : Text}
    (h : numberedBlock Keyword.lun (words line) = some (digits, device)) :
    (newLun digits device).WellFormed := by
  obtain ⟨hDigits, h⟩ := numberedBlock_eq_some.mp h
  refine ⟨parsedNumber_parseInt hDigits, ?_⟩
  rcases h with h | h <;> exact isWord_of_words h (by simp [newLun])

theorem parsedAttr_of_keyValue {k v : Text} (hHash : (trim raw).head? ≠ some '#')
    (h : keyValue (trim raw) = some (k, v)) : ParsedAttr (k, unquote (trim v)) := by
  obtain ⟨ws, hWords, -, -, hTrim, hLine, -⟩ := keyValue_eq_some h
  obtain ⟨rest, hEq, hk, -, -⟩ := exists_of_words_trim hWords
  refine ⟨hk, ?_, fun c hc => hLine c ?_⟩
  · rwa [hEq, List.head?_append_of_ne_nil _ hk.ne_nil] at hHash
  · rw [hTrim] at hc
    exact mem_of_mem_unquote hc

theorem rootLine_wellFormed (h : c.WellFormed) : (rootLine c (trim raw)).1.WellFormed := by
  unfold rootLine
  split
  · rename_i name hName
    exact { h with
      handlers := forall_mem_append_singleton h.handlers ⟨isWord_of_blockName hName, by simp⟩ }
  · split
    · rename_i name hName
      exact { h with
        drivers := forall_mem_append_singleton h.drivers ⟨isWord_of_blockName hName, by simp⟩ }
    · split
      · rename_i name hName
        exact { h with
          deviceGroups := forall_mem_append_singleton h.deviceGroups
            ⟨isWord_of_blockName hName, by simp, by simp⟩ }
      · exact h

theorem handlerLine_wellFormed (h : c.WellFormed) (i : Nat) :
    (handlerLine i c (trim raw)).1.WellFormed := by
  unfold handlerLine
  split
  · rename_i name hName
    refine h.modifyHandler fun x hx => ⟨hx.name, ?_⟩
    exact forall_mem_append_singleton hx.devices
      ⟨isWord_of_blockName hName, rfl, by simp, by simp [Record.empty]⟩
  · exact h

theorem driverLine_wellFormed (h : c.WellFormed) (i : Nat) :
    (driverLine i c (trim raw)).1.WellFormed := by
  unfold driverLine
  split
  · exact h.modifyDriver fun x hx => { hx with }
  · split
    · rename_i name hName
      refine h.modifyDriver fun x hx => ⟨hx.name, ?_⟩
      exact forall_mem_append_singleton hx.targets
        ⟨isWord_of_blockName hName, rfl, by simp [Record.empty], by simp, by simp⟩
    · exact h

theorem deviceGroupLine_wellFormed (h : c.WellFormed) (i : Nat) :
    (deviceGroupLine i c (trim raw)).1.WellFormed := by
  unfold deviceGroupLine
  split
  · rename_i name hName
    exact h.modifyDeviceGroup fun x hx =>
      { hx with devices := forall_mem_append_singleton hx.devices (isWord_of_soleWord hName) }
  · split
    · rename_i name hName
      refine h.modifyDeviceGroup fun x hx => ⟨hx.name, hx.devices, ?_⟩
      exact forall_mem_append_singleton hx.targetGroups
        ⟨isWord_of_blockName hName, parsedNumber_zero, by simp⟩
    · exact h

theorem deviceLine_wellFormed (h : c.WellFormed) (hHash : (trim raw).head? ≠ some '#') (i d : Nat) :
    (deviceLine i d c (trim raw)).1.WellFormed := by
  refine h.modifyHandler fun x hx => ⟨hx.name, forall_mem_modify hx.devices fun y hy => ?_⟩
  unfold Device.readAttr
  split
  · rename_i k v hkv
    have hAttr := parsedAttr_of_keyValue hHash hkv
    split
    · exact { hy with filename := hAttr.oneLine }
    · rename_i hKey
      refine { hy with attrs := fun e he => ?_ }
      rcases Record.mem_entries_set he with he | ⟨rfl, -⟩
      · exact hy.attrs e he
      · exact ⟨hAttr, hKey⟩
  · exact hy

theorem targetLine_wellFormed (h : c.WellFormed) (hHash : (trim raw).head? ≠ some '#') (d t : Nat) :
    (targetLine d t c (trim raw)).1.WellFormed := by
  unfold targetLine
  split
  · exact h.modifyTarget fun _ _ hx => { hx with }
  · split
    · exact h.modifyTarget fun _ _ hx => { hx with }
    · split
      · rename_i name hName
        exact h.modifyTarget fun _ _ hx =>
          { hx with
            groups := forall_mem_append_singleton hx.groups
              ⟨isWord_of_blockName hName, by simp, by simp⟩ }
      · split
        · rename_i digits device hLun
          exact h.modifyTarget fun _ _ hx =>
            { hx with luns := forall_mem_append_singleton hx.luns (newLun_wellFormed hLun) }
        · refine h.modifyTarget fun _ x hx => ?_
          unfold Target.readAttr
          split
          · rename_i k v hkv
            refine { hx with attrs := fun e he => ?_ }
            rcases Record.mem_entries_set he with he | ⟨rfl, -⟩
            · exact hx.attrs e he
            · exact parsedAttr_of_keyValue hHash hkv
          · exact hx

theorem aluaTargetGroupLine_wellFormed (h : c.WellFormed) (g t : Nat) :
    (aluaTargetGroupLine g t c (trim raw)).1.WellFormed := by
  unfold aluaTargetGroupLine
  split
  · rename_i digits hDigits
    refine h.modifyDeviceGroup fun x hx =>
      { hx with targetGroups := forall_mem_modify hx.targetGroups fun y hy => ?_ }
    exact { hy with groupId := parsedNumber_parseInt (soleDigits_eq_some.mp hDigits).2 }
  · split
    · rename_i name hName
      refine h.modifyDeviceGroup fun x hx =>
        { hx with targetGroups := forall_mem_modify hx.targetGroups fun y hy => ?_ }
      exact { hy with
        targets := forall_mem_append_singleton hy.targets (isWord_of_soleWord hName) }
    · exact h

theorem groupLine_wellFormed (h : c.WellFormed) (d t g : Nat) :
    (groupLine d t g c (trim raw)).1.WellFormed := by
  unfold groupLine
  split
  · rename_i name hName
    exact h.modifyGroup fun _ hx =>
      { hx with
        initiators := forall_mem_append_singleton hx.initiators (isWord_of_soleWord hName) }
  · split
    · rename_i digits device hLun
      exact h.modifyGroup fun _ hx =>
        { hx with luns := forall_mem_append_singleton hx.luns (newLun_wellFormed hLun) }
    · exact h

theorem lunAttrsLine_wellFormed (h : c.WellFormed) (lun : LunRef) :
    (lunAttrsLine lun c (trim raw)).1.WellFormed := by
  refine h.modifyLun fun x hx => ?_
  unfold Lun.readAttr
  split
  · exact { hx with }
  · split
    · exact { hx with }
    · exact hx

theorem contextLine_wellFormed (h : c.WellFormed) (hHash : (trim raw).head? ≠ some '#')
    (ctx : ParserContext) : (contextLine ctx c (trim raw)).1.WellFormed := by
  cases ctx with
  | root => exact rootLine_wellFormed h
  | handler i => exact handlerLine_wellFormed h i
  | driver i => exact driverLine_wellFormed h i
  | deviceGroup i => exact deviceGroupLine_wellFormed h i
  | device i d => exact deviceLine_wellFormed h hHash i d
  | target d t => exact targetLine_wellFormed h hHash d t
  | aluaTargetGroup g t => exact aluaTargetGroupLine_wellFormed h g t
  | group d t g => exact groupLine_wellFormed h d t g
  | lunAttrs lun => exact lunAttrsLine_wellFormed h lun

end

namespace ParserState

theorem pop_config (st : ParserState) : st.pop.config = st.config := by
  unfold pop
  split <;> rfl

theorem readLine_config (st : ParserState) (line : Text) :
    (st.readLine line).config = (contextLine st.top st.config line).1 := by
  simp only [readLine]
  split <;> rfl

theorem step_config_cases (st : ParserState) (raw : Text) :
    (st.step raw).config = st.config ∨
      ((trim raw).head? ≠ some '#' ∧ trim raw ≠ closeBrace ∧
        st.step raw = st.readLine (trim raw) ∧
        (st.step raw).config = (contextLine st.top st.config (trim raw)).1) := by
  simp only [step]
  split
  · exact Or.inl rfl
  · rename_i hSkip
    split
    · exact Or.inl (pop_config st)
    · rename_i hClose
      exact Or.inr ⟨fun h => hSkip (Or.inr h), hClose, rfl, readLine_config st _⟩

theorem step_wellFormed {st : ParserState} (h : st.config.WellFormed) (raw : Text) :
    (st.step raw).config.WellFormed := by
  rcases st.step_config_cases raw with hSame | ⟨hHash, -, -, hRead⟩
  · rwa [hSame]
  · rw [hRead]
    exact contextLine_wellFormed h hHash st.top

theorem run_wellFormed {st : ParserState} (h : st.config.WellFormed) (lines : List Text) :
    (st.run lines).config.WellFormed := by
  induction lines generalizing st with
  | nil => exact h
  | cons line lines ih => exact ih (step_wellFormed h line)

end ParserState

theorem parseScstConf_wellFormed (raw : Text) : (parseScstConf raw).WellFormed :=
  ParserState.run_wellFormed
    ⟨by simp [ParserState.initial, ScstConfig.empty],
      by simp [ParserState.initial, ScstConfig.empty],
      by simp [ParserState.initial, ScstConfig.empty]⟩ _

end EsosWebui.Scst
