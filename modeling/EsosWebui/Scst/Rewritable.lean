import EsosWebui.Scst.File

/-! The configurations that survive being written and read again. -/
namespace EsosWebui.Scst

open Js

/-- A value that is read back as it is written: not blank, without white space
around it, and not between quotes. -/
def PlainValue (v : Text) : Prop := v ≠ [] ∧ trim v = v ∧ unquote v = v

instance (v : Text) : Decidable (PlainValue v) := inferInstanceAs (Decidable (_ ∧ _ ∧ _))

structure Device.Rewritable (x : Device) : Prop where
  filename : x.filename = [] ∨ PlainValue x.filename
  attrs : ∀ e ∈ x.attrs.entries, PlainValue e.2

/-- A LUN without attributes: the serialiser writes none but `read_only`. -/
structure Lun.Rewritable (x : Lun) : Prop where
  id : x.id.PrintsAsDigits
  attrs : x.attrs = .empty

/-- An attribute line of a target that is read as neither a flag, a group nor a LUN. -/
structure TargetAttrRewritable (e : Text × Text) : Prop where
  plain : PlainValue e.2
  notEnabled : soleDigit Keyword.enabled (e.1 :: words e.2) = none
  notGroup : blockName Keyword.group (e.1 :: words e.2) = none
  notLun : numberedBlock Keyword.lun (e.1 :: words e.2) = none

structure Target.Rewritable (x : Target) : Prop where
  attrs : ∀ e ∈ x.attrs.entries, TargetAttrRewritable e
  groups : ∀ g ∈ x.groups, ∀ l ∈ g.luns, l.Rewritable
  luns : ∀ l ∈ x.luns, l.Rewritable

def AluaTargetGroupConfig.Rewritable (x : AluaTargetGroupConfig) : Prop :=
  x.groupId.isPositive = true → x.groupId.PrintsAsDigits

/-- Every entry is written on a line that is read back as that entry. -/
structure ScstConfig.EntriesRewritable (c : ScstConfig) : Prop where
  devices : ∀ h ∈ c.handlers, ∀ d ∈ h.devices, d.Rewritable
  targets : ∀ d ∈ c.drivers, ∀ t ∈ d.targets, t.Rewritable
  targetGroups : ∀ g ∈ c.deviceGroups, ∀ t ∈ g.targetGroups, t.Rewritable

/-- Every entry is read back from its line, and no LUN takes what follows it into its scope. -/
structure ScstConfig.Rewritable (c : ScstConfig) : Prop extends c.EntriesRewritable where
  closed : c.Closed

theorem PlainValue.words_ne_nil {v : Text} (h : PlainValue v) : words v ≠ [] := by
  rw [Ne, words_eq_nil_iff, h.2.1]
  exact h.1

theorem ParsedAttr.readable {e : Text × Text} (h : ParsedAttr e) (hPlain : PlainValue e.2) :
    AttrReadable e :=
  ⟨h.key, h.notComment, oneLine_of_parsed h.oneLine, fun _ => hPlain.words_ne_nil⟩

theorem Device.WellFormed.readable {handler : Text} {x : Device} (h : x.WellFormed handler)
    (hx : x.Rewritable) : x.Readable :=
  ⟨h.name, oneLine_of_parsed h.filename, fun e he => (h.attrs e he).1.readable (hx.attrs e he)⟩

theorem Lun.WellFormed.readable {x : Lun} (h : x.WellFormed) (hx : x.Rewritable) : x.Readable :=
  ⟨hx.id, h.device⟩

theorem Target.WellFormed.readable {driver : Text} {x : Target} (h : x.WellFormed driver)
    (hx : x.Rewritable) : x.Readable where
  name := h.name
  attrs e he :=
    { (h.attrs e he).readable (hx.attrs e he).plain with
      notGroup := (hx.attrs e he).notGroup
      notLun := (hx.attrs e he).notLun }
  groups g hg :=
    ⟨(h.groups g hg).name, (h.groups g hg).initiators,
      fun l hl => ((h.groups g hg).luns l hl).readable (hx.groups g hg l hl)⟩
  luns l hl := (h.luns l hl).readable (hx.luns l hl)

theorem ParsedNumber.eq_zero {n : Number} (h : ParsedNumber n) (hPos : n.isPositive = false) :
    n = .int 0 := by
  obtain ⟨digits, -, rfl⟩ := h
  unfold Number.parseInt Number.ofNat at hPos ⊢
  split
  · rename_i hRange
    rw [if_pos hRange] at hPos
    have hZero : roundToDouble (Nat.ofDigitChars 10 digits 0) = 0 := by
      simpa [Number.isPositive] using hPos
    rw [hZero]
    rfl
  · rename_i hRange
    rw [if_neg hRange] at hPos
    exact absurd hPos (by decide)

theorem AluaTargetGroupConfig.WellFormed.readable {x : AluaTargetGroupConfig} (h : x.WellFormed)
    (hx : x.Rewritable) : x.Readable := by
  refine ⟨h.name, ?_, h.targets⟩
  cases hPos : x.groupId.isPositive with
  | true => exact isWord_of_isDigits (hx hPos).1
  | false =>
    rw [h.groupId.eq_zero hPos]
    decide +kernel

theorem Handler.WellFormed.readable {x : Handler} (h : x.WellFormed)
    (hx : ∀ d ∈ x.devices, d.Rewritable) : x.Readable :=
  ⟨h.name, fun d hd => (h.devices d hd).readable (hx d hd)⟩

theorem Driver.WellFormed.readable {x : Driver} (h : x.WellFormed)
    (hx : ∀ t ∈ x.targets, t.Rewritable) : x.Readable :=
  ⟨h.name, fun t ht => (h.targets t ht).readable (hx t ht)⟩

theorem AluaDeviceGroupConfig.WellFormed.readable {x : AluaDeviceGroupConfig} (h : x.WellFormed)
    (hx : ∀ t ∈ x.targetGroups, t.Rewritable) : x.Readable :=
  ⟨h.name, h.devices, fun t ht => (h.targetGroups t ht).readable (hx t ht)⟩

theorem ScstConfig.WellFormed.scopeSafe {c : ScstConfig} (h : c.WellFormed) (hc : c.Rewritable) :
    c.ScopeSafe where
  handlers x hx := (h.handlers x hx).readable (hc.devices x hx)
  drivers x hx := (h.drivers x hx).readable (hc.targets x hx)
  deviceGroups x hx := (h.deviceGroups x hx).readable (hc.targetGroups x hx)
  closed := hc.closed

theorem keyValue_of_plain {k v : Text} (n : Nat) (hk : IsWord k) (hv : PlainValue v)
    (hLine : ∀ c ∈ v, isLineTerminator c = false) :
    keyValue (trim (templateLine n [k, v])) = some (k, v) := by
  rw [keyValue_templateLine n hk (by rw [hv.2.1]; exact hv.1) hLine, hv.2.1]

theorem Device.reread_eq {handler : Text} {x : Device} (h : x.WellFormed handler)
    (hx : x.Rewritable) : x.reread handler = x := by
  have hName (y : Device) : (if x.filename = [] then [] else
      [templateLine 2 [Keyword.filename, x.filename]]).foldl
        (fun y line => y.readAttr (trim line)) { y with filename := [] } =
      { y with filename := x.filename } := by
    split
    · rename_i hNil
      rw [hNil]
      rfl
    · rename_i hNil
      have hPlain := hx.filename.resolve_left hNil
      have hKey : IsWord Keyword.filename := by decide
      simp [Device.readAttr, keyValue_of_plain 2 hKey hPlain h.filename, hPlain.2.1, hPlain.2.2]
  have hAttrs (entries : List (Text × Text)) (hEntries : ∀ e ∈ entries, e ∈ x.attrs.entries)
      (y : Device) : (entries.map fun e => templateLine 2 [e.1, e.2]).foldl
        (fun y line => y.readAttr (trim line)) y =
      { y with attrs := entries.foldl (fun r e => r.set e.1 e.2) y.attrs } := by
    induction entries generalizing y with
    | nil => rfl
    | cons e entries ih =>
      have he := h.attrs e (hEntries e (by simp))
      have hPlain := hx.attrs e (hEntries e (by simp))
      have hRead : y.readAttr (trim (templateLine 2 [e.1, e.2])) =
          { y with attrs := y.attrs.set e.1 e.2 } := by
        simp [Device.readAttr, keyValue_of_plain 2 he.1.key hPlain he.1.oneLine, he.2,
          hPlain.2.1, hPlain.2.2]
      rw [List.map_cons, List.foldl_cons, hRead, ih fun f hf => hEntries f (by simp [hf])]
      rfl
  have hFile := hName { name := x.name, handler := handler, filename := [], attrs := .empty }
  rw [Device.reread, Device.bodyLines, List.foldl_append, hFile, attrLines,
    hAttrs _ fun e he => he]
  have hRebuilt := Record.ofEntries_entries x.attrs
  rw [Record.ofEntries] at hRebuilt
  simp only [hRebuilt, ← h.handler]

theorem Lun.reread_eq {x : Lun} (hx : x.Rewritable) : x.reread = x := by
  rw [Lun.reread, ← hx.attrs]

theorem Target.rereadOwn_eq {driver : Text} {x : Target} (h : x.WellFormed driver)
    (hx : x.Rewritable) : x.rereadOwn driver = { x with groups := [], luns := [] } := by
  have hHw (y : Target) : (if x.hwTarget then [templateLine 2 [Keyword.hwTarget]] else []).foldl
      (fun y line => y.readOwnLine (trim line)) { y with hwTarget := false } =
      { y with hwTarget := x.hwTarget } := by
    cases x.hwTarget with
    | false => rfl
    | true =>
      have hLine : trim (templateLine 2 [Keyword.hwTarget]) = Keyword.hwTarget :=
        trim_templateLine 2 (by decide)
      simp [Target.readOwnLine, hLine]
  have hEnabled (y : Target) :
      (if x.enabled then [] else [templateLine 2 [Keyword.enabled, ['0']]]).foldl
        (fun y line => y.readOwnLine (trim line)) { y with enabled := true } =
      { y with enabled := x.enabled } := by
    cases x.enabled with
    | true => rfl
    | false =>
      have hLine : trim (templateLine 2 [Keyword.enabled, ['0']]) ≠ Keyword.hwTarget := by
        decide
      have hWords : words (templateLine 2 [Keyword.enabled, ['0']]) = [Keyword.enabled, ['0']] :=
        words_templateLine 2 (by decide)
      simp [Target.readOwnLine, hLine, hWords, soleDigit, soleWord]
  have hAttrs (entries : List (Text × Text)) (hEntries : ∀ e ∈ entries, e ∈ x.attrs.entries)
      (y : Target) : (entries.map fun e => templateLine 2 [e.1, e.2]).foldl
        (fun y line => y.readOwnLine (trim line)) y =
      { y with attrs := entries.foldl (fun r e => r.set e.1 e.2) y.attrs } := by
    induction entries generalizing y with
    | nil => rfl
    | cons e entries ih =>
      have he := h.attrs e (hEntries e (by simp))
      have hAttr := hx.attrs e (hEntries e (by simp))
      have hWords := words_templateLine_pair 2 he.key (v := e.2)
      have hNotHw : trim (templateLine 2 [e.1, e.2]) ≠ Keyword.hwTarget := by
        intro hEq
        have hOne : (words (templateLine 2 [e.1, e.2])).length = 1 := by
          rw [← words_trim, hEq]
          decide
        rw [hWords] at hOne
        simp [hAttr.plain.words_ne_nil] at hOne
      have hRead : y.readOwnLine (trim (templateLine 2 [e.1, e.2])) =
          { y with attrs := y.attrs.set e.1 e.2 } := by
        simp [Target.readOwnLine, hNotHw, hWords, hAttr.notEnabled, Target.readAttr,
          keyValue_of_plain 2 he.key hAttr.plain he.oneLine, hAttr.plain.2.1, hAttr.plain.2.2]
      rw [List.map_cons, List.foldl_cons, hRead, ih fun f hf => hEntries f (by simp [hf])]
      rfl
  have hFirst := hHw
    { name := x.name, driver := driver, enabled := true, hwTarget := false, attrs := .empty,
      groups := [], luns := [] }
  have hSecond := hEnabled
    { name := x.name, driver := driver, enabled := true, hwTarget := x.hwTarget, attrs := .empty,
      groups := [], luns := [] }
  rw [Target.rereadOwn, Target.ownLines, List.foldl_append, List.foldl_append, hFirst, hSecond,
    attrLines, hAttrs _ fun e he => he]
  have hRebuilt := Record.ofEntries_entries x.attrs
  rw [Record.ofEntries] at hRebuilt
  simp only [hRebuilt, ← h.driver]

theorem map_eq_self {α : Type} {f : α → α} {l : List α} (h : ∀ x ∈ l, f x = x) : l.map f = l := by
  conv_rhs => rw [← List.map_id l]
  exact List.map_congr_left h

theorem Target.reread_eq {driver : Text} {x : Target} (h : x.WellFormed driver)
    (hx : x.Rewritable) : x.reread driver = x := by
  have hGroups : x.groups.map Group.reread = x.groups :=
    map_eq_self fun g hg => by
      rw [Group.reread, map_eq_self fun l hl => Lun.reread_eq (hx.groups g hg l hl)]
  have hLuns : x.luns.map Lun.reread = x.luns :=
    map_eq_self fun l hl => Lun.reread_eq (hx.luns l hl)
  rw [Target.reread, rereadOwn_eq h hx, hGroups, hLuns]

theorem rereadGroupId_eq {n : Number} (h : ParsedNumber n)
    (hn : n.isPositive = true → n.PrintsAsDigits) : rereadGroupId n = n := by
  unfold rereadGroupId
  cases hPos : n.isPositive with
  | true => rw [if_pos ⟨rfl, (hn hPos).1⟩, (hn hPos).2]
  | false => rw [if_neg (by simp), h.eq_zero hPos]

theorem ScstConfig.reread_eq {c : ScstConfig} (h : c.WellFormed) (hc : c.EntriesRewritable) :
    c.reread = c := by
  have hHandlers : c.handlers.map Handler.reread = c.handlers :=
    map_eq_self fun x hx => by
      rw [Handler.reread, map_eq_self fun d hd =>
        Device.reread_eq ((h.handlers x hx).devices d hd) (hc.devices x hx d hd)]
  have hDrivers : c.drivers.map Driver.reread = c.drivers :=
    map_eq_self fun x hx => by
      rw [Driver.reread, map_eq_self fun t ht =>
        Target.reread_eq ((h.drivers x hx).targets t ht) (hc.targets x hx t ht)]
  have hGroups : c.deviceGroups.map AluaDeviceGroupConfig.reread = c.deviceGroups :=
    map_eq_self fun x hx => by
      rw [AluaDeviceGroupConfig.reread, map_eq_self fun t ht => by
        rw [AluaTargetGroupConfig.reread,
          rereadGroupId_eq ((h.deviceGroups x hx).targetGroups t ht).groupId
            (hc.targetGroups x hx t ht)]]
  rw [ScstConfig.reread, hHandlers, hDrivers, hGroups]

theorem parseScstConf_serializeScstConfig_eq {c : ScstConfig} (h : c.WellFormed)
    (hc : c.Rewritable) : parseScstConf (serializeScstConfig c) = c := by
  rw [parseScstConf_serializeScstConfig (h.scopeSafe hc),
    ScstConfig.reread_eq h hc.toEntriesRewritable]

end EsosWebui.Scst
