import EsosWebui.Scst.Rewritable

/-! A weight of configurations that no line can raise by more than its own
weight. An entry that would not be read back as it is written weighs more than
its line. -/
namespace EsosWebui.Scst

open Js

/-- One for a line whose number would not be written in the digits it was read from. -/
def badNumber (ws : List Text) : Nat :=
  match numberedBlock Keyword.lun ws with
  | some (digits, _) => if (Number.parseInt digits).PrintsAsDigits then 0 else 1
  | none =>
    match soleDigits Keyword.groupId ws with
    | some digits => if (Number.parseInt digits).PrintsAsDigits then 0 else 1
    | none => 0

def lineWeight : List Text → Nat
  | [] => 0
  | [w] => if w = Keyword.hwTarget then 1 else 0
  | ws => 1 + 6 * (ws.map quotes).sum + badNumber ws

def nameWeight (name : Text) : Nat := 1 + 6 * quotes name

def attrWeight (e : Text × Text) : Nat :=
  1 + 6 * (quotes e.1 + quotes e.2) + badNumber (e.1 :: words e.2) +
    if PlainValue e.2 then 0 else 1

def targetAttrWeight (e : Text × Text) : Nat :=
  attrWeight e +
    if soleDigit Keyword.enabled (e.1 :: words e.2) = none ∧
        blockName Keyword.group (e.1 :: words e.2) = none ∧
        numberedBlock Keyword.lun (e.1 :: words e.2) = none then 0
    else 1

def Device.weight (x : Device) : Nat :=
  nameWeight x.name +
    (if x.filename = [] then 0 else attrWeight (Keyword.filename, x.filename)) +
    (x.attrs.entries.map attrWeight).sum

def Handler.weight (x : Handler) : Nat := nameWeight x.name + (x.devices.map Device.weight).sum

/-- The weight of a LUN, with `k` for each attribute that is never written. -/
def Lun.weight (k : Nat) (x : Lun) : Nat :=
  nameWeight x.device + (if x.id.PrintsAsDigits then 0 else 1) + x.readOnly.toNat +
    k * x.attrs.entries.length

def Group.weight (k : Nat) (x : Group) : Nat :=
  nameWeight x.name + (x.initiators.map nameWeight).sum + (x.luns.map (Lun.weight k)).sum

def Target.weight (k : Nat) (x : Target) : Nat :=
  nameWeight x.name + x.hwTarget.toNat + (!x.enabled).toNat +
    (x.attrs.entries.map targetAttrWeight).sum + (x.groups.map (Group.weight k)).sum +
    (x.luns.map (Lun.weight k)).sum

def Driver.weight (k : Nat) (x : Driver) : Nat :=
  nameWeight x.name + (!x.enabled).toNat + (x.targets.map (Target.weight k)).sum

def AluaTargetGroupConfig.weight (x : AluaTargetGroupConfig) : Nat :=
  nameWeight x.name +
    (if x.groupId.isPositive then if x.groupId.PrintsAsDigits then 1 else 2 else 0) +
    (x.targets.map nameWeight).sum

def AluaDeviceGroupConfig.weight (x : AluaDeviceGroupConfig) : Nat :=
  nameWeight x.name + (x.devices.map nameWeight).sum +
    (x.targetGroups.map AluaTargetGroupConfig.weight).sum

def ScstConfig.weight (k : Nat) (c : ScstConfig) : Nat :=
  (c.handlers.map Handler.weight).sum + (c.drivers.map (Driver.weight k)).sum +
    (c.deviceGroups.map AluaDeviceGroupConfig.weight).sum

section

variable {c : ScstConfig} {k n : Nat}

theorem weight_modifyHandler_le {h : Nat} {f : Handler → Handler}
    (hf : ∀ x, (f x).weight ≤ x.weight + n) :
    (c.modifyHandler h f).weight k ≤ c.weight k + n := by
  have := sum_modify_le hf h c.handlers
  simp only [ScstConfig.weight, ScstConfig.modifyHandler]
  omega

theorem weight_modifyDriver_le {d : Nat} {f : Driver → Driver}
    (hf : ∀ x, (f x).weight k ≤ x.weight k + n) :
    (c.modifyDriver d f).weight k ≤ c.weight k + n := by
  have := sum_modify_le hf d c.drivers
  simp only [ScstConfig.weight, ScstConfig.modifyDriver]
  omega

theorem weight_modifyDeviceGroup_le {g : Nat}
    {f : AluaDeviceGroupConfig → AluaDeviceGroupConfig}
    (hf : ∀ x, (f x).weight ≤ x.weight + n) :
    (c.modifyDeviceGroup g f).weight k ≤ c.weight k + n := by
  have := sum_modify_le hf g c.deviceGroups
  simp only [ScstConfig.weight, ScstConfig.modifyDeviceGroup]
  omega

theorem weight_modifyTarget_le {d t : Nat} {f : Target → Target}
    (hf : ∀ x, (f x).weight k ≤ x.weight k + n) :
    (c.modifyTarget d t f).weight k ≤ c.weight k + n :=
  weight_modifyDriver_le fun x => by
    have := sum_modify_le hf t x.targets
    simp only [Driver.weight, Driver.modifyTarget]
    omega

/-- A change that adds less than an amount to the target that is there. -/
theorem weight_modifyTarget_lt {d t : Nat} {f : Target → Target} {x : Target}
    (hx : c.target? d t = some x) (hf : (f x).weight k < x.weight k + n) :
    (c.modifyTarget d t f).weight k < c.weight k + n := by
  obtain ⟨y, hy, hyx⟩ := Option.bind_eq_some_iff.mp hx
  have hDriver : (y.modifyTarget t f).weight k < y.weight k + n := by
    have := sum_modify_lt hyx hf
    simp only [Driver.weight, Driver.modifyTarget]
    omega
  have := sum_modify_lt hy hDriver
  simp only [ScstConfig.weight, ScstConfig.modifyTarget, ScstConfig.modifyDriver]
  omega

theorem weight_modifyGroup_le {d t g : Nat} {f : Group → Group}
    (hf : ∀ x, (f x).weight k ≤ x.weight k + n) :
    (c.modifyGroup d t g f).weight k ≤ c.weight k + n :=
  weight_modifyTarget_le fun x => by
    have := sum_modify_le hf g x.groups
    simp only [Target.weight, Target.modifyGroup]
    omega

theorem weight_modifyLun_le {f : Lun → Lun} (hf : ∀ x, (f x).weight k ≤ x.weight k + n)
    (lun : LunRef) :
    (c.modifyLun f lun).weight k ≤ c.weight k + n := by
  cases lun with
  | ofTarget d t l =>
    refine weight_modifyTarget_le fun x => ?_
    have := sum_modify_le hf l x.luns
    simp only [Target.weight, Target.modifyLun]
    omega
  | ofGroup d t g l =>
    refine weight_modifyGroup_le fun x => ?_
    have := sum_modify_le hf l x.luns
    simp only [Group.weight, Group.modifyLun]
    omega

theorem weight_modifyTargetGroup_le {g t : Nat}
    {f : AluaTargetGroupConfig → AluaTargetGroupConfig}
    (hf : ∀ x, (f x).weight ≤ x.weight + n) :
    (c.modifyDeviceGroup g (AluaDeviceGroupConfig.modifyTargetGroup t f)).weight k ≤
      c.weight k + n :=
  weight_modifyDeviceGroup_le fun x => by
    have := sum_modify_le hf t x.targetGroups
    simp only [AluaDeviceGroupConfig.weight, AluaDeviceGroupConfig.modifyTargetGroup]
    omega

end

theorem lineWeight_of_length {ws : List Text} (h : 2 ≤ ws.length) :
    lineWeight ws = 1 + 6 * (ws.map quotes).sum + badNumber ws := by
  match ws, h with
  | _ :: _ :: _, _ => rfl

theorem nameWeight_le_of_blockName {keyword name : Text} {ws : List Text}
    (h : blockName keyword ws = some name) : nameWeight name ≤ lineWeight ws := by
  rcases blockName_eq_some.mp h with rfl | rfl <;>
    rw [lineWeight_of_length (by simp), nameWeight] <;> simp <;> omega

theorem nameWeight_le_of_soleWord {keyword name : Text} {ws : List Text}
    (h : soleWord keyword ws = some name) : nameWeight name ≤ lineWeight ws := by
  rw [soleWord_eq_some.mp h, lineWeight_of_length (by simp), nameWeight]
  simp
  omega

theorem one_le_of_soleDigit {keyword : Text} {c : Char} {ws : List Text}
    (h : soleDigit keyword ws = some c) : 1 ≤ lineWeight ws := by
  rw [(soleDigit_eq_some.mp h).1, lineWeight_of_length (by simp)]
  omega

theorem weight_newLun_le {k : Nat} {digits device : Text} {ws : List Text}
    (h : numberedBlock Keyword.lun ws = some (digits, device)) :
    (newLun digits device).weight k ≤ lineWeight ws := by
  have hBad : badNumber ws = if (Number.parseInt digits).PrintsAsDigits then 0 else 1 := by
    rw [badNumber, h]
  have hLength : 2 ≤ ws.length ∧ quotes device ≤ (ws.map quotes).sum := by
    rcases (numberedBlock_eq_some.mp h).2 with rfl | rfl <;> simp <;> omega
  rw [lineWeight_of_length hLength.1, hBad]
  by_cases hPrints : (Number.parseInt digits).PrintsAsDigits <;>
    simp [Lun.weight, newLun, nameWeight, Record.empty, hPrints] <;> omega

theorem badNumber_le_one (ws : List Text) : badNumber ws ≤ 1 := by
  unfold badNumber
  split
  · split <;> omega
  · split
    · split <;> omega
    · omega

/-- An attribute read without quotes weighs as much as its line; removing
quotes makes it lighter than any flag can make up for. -/
theorem attrWeight_cases {raw k v : Text} (h : keyValue (trim raw) = some (k, v)) :
    (unquote (trim v) = v ∧ words v = (words raw).tail ∧ words raw = k :: words v ∧
        attrWeight (k, unquote (trim v)) = lineWeight (words raw)) ∨
      attrWeight (k, unquote (trim v)) + 1 ≤ lineWeight (words raw) := by
  obtain ⟨ws, hWords, hValue, hne, hTrim, -, -⟩ := keyValue_eq_some h
  have hQuotes : ((words raw).map quotes).sum = quotes k + quotes v := by
    rw [hWords, List.map_cons, List.sum_cons, quotes_eq_sum_words v, hValue]
  have hLength : 2 ≤ (words raw).length := by
    rw [hWords]
    have := List.length_pos_iff.mpr hne
    simp
    omega
  rw [hTrim, lineWeight_of_length hLength, hQuotes]
  rcases quotes_unquote v with hSame | hLess
  · left
    have hPlain : PlainValue v := by
      refine ⟨?_, hTrim, hSame⟩
      rintro rfl
      exact hne (by rw [← hValue, words_nil])
    refine ⟨hSame, by rw [hWords, hValue, List.tail_cons], by rw [hWords, hValue], ?_⟩
    rw [hSame, attrWeight, if_pos hPlain, hWords, hValue]
    rfl
  · right
    have hBad := badNumber_le_one (k :: words (unquote v))
    have hFlag : (if PlainValue (unquote v) then 0 else 1) ≤ 1 := by split <;> omega
    simp only [attrWeight]
    omega

theorem attrWeight_le {raw k v : Text} (h : keyValue (trim raw) = some (k, v)) :
    attrWeight (k, unquote (trim v)) ≤ lineWeight (words raw) := by
  rcases attrWeight_cases h with ⟨-, -, -, hEq⟩ | hLt
  · exact hEq.le
  · omega

theorem targetAttrWeight_le {raw k v : Text} (h : keyValue (trim raw) = some (k, v))
    (hEnabled : soleDigit Keyword.enabled (words raw) = none)
    (hGroup : blockName Keyword.group (words raw) = none)
    (hLun : numberedBlock Keyword.lun (words raw) = none) :
    targetAttrWeight (k, unquote (trim v)) ≤ lineWeight (words raw) := by
  unfold targetAttrWeight
  rcases attrWeight_cases h with ⟨hSame, -, hWords, hEq⟩ | hLt
  · rw [hEq]
    simp only [hSame, ← hWords, hEnabled, hGroup, hLun, and_self, if_true]
    omega
  · split <;> omega

section

variable {raw : Text} {c : ScstConfig} {k : Nat}

theorem weight_rootLine_le :
    (rootLine c (trim raw)).1.weight k ≤ c.weight k + lineWeight (words raw) := by
  simp only [rootLine, words_trim]
  split
  · rename_i name hName
    have := nameWeight_le_of_blockName hName
    simp [ScstConfig.weight, Handler.weight]
    omega
  · split
    · rename_i name hName
      have := nameWeight_le_of_blockName hName
      simp [ScstConfig.weight, Driver.weight]
      omega
    · split
      · rename_i name hName
        have := nameWeight_le_of_blockName hName
        simp [ScstConfig.weight, AluaDeviceGroupConfig.weight]
        omega
      · exact Nat.le_add_right _ _

theorem weight_handlerLine_le (h : Nat) :
    (handlerLine h c (trim raw)).1.weight k ≤ c.weight k + lineWeight (words raw) := by
  simp only [handlerLine, words_trim]
  split
  · rename_i name hName
    have := nameWeight_le_of_blockName hName
    refine weight_modifyHandler_le fun x => ?_
    simp [Handler.weight, Handler.addDevice, Device.weight, Record.empty]
    omega
  · exact Nat.le_add_right _ _

theorem weight_driverLine_le (d : Nat) :
    (driverLine d c (trim raw)).1.weight k ≤ c.weight k + lineWeight (words raw) := by
  simp only [driverLine, words_trim]
  split
  · rename_i digit hDigit
    have := one_le_of_soleDigit hDigit
    refine weight_modifyDriver_le fun x => ?_
    have := Bool.toNat_le (!(digit == '1'))
    simp only [Driver.weight]
    omega
  · split
    · rename_i name hName
      have := nameWeight_le_of_blockName hName
      refine weight_modifyDriver_le fun x => ?_
      simp [Driver.weight, Driver.addTarget, Target.weight, Record.empty]
      omega
    · exact Nat.le_add_right _ _

theorem weight_deviceGroupLine_le (g : Nat) :
    (deviceGroupLine g c (trim raw)).1.weight k ≤ c.weight k + lineWeight (words raw) := by
  simp only [deviceGroupLine, words_trim]
  split
  · rename_i name hName
    have := nameWeight_le_of_soleWord hName
    refine weight_modifyDeviceGroup_le fun x => ?_
    simp [AluaDeviceGroupConfig.weight]
    omega
  · split
    · rename_i name hName
      have := nameWeight_le_of_blockName hName
      refine weight_modifyDeviceGroup_le fun x => ?_
      simp [AluaDeviceGroupConfig.weight, AluaDeviceGroupConfig.addTargetGroup,
        AluaTargetGroupConfig.weight, Number.isPositive]
      omega
    · exact Nat.le_add_right _ _

theorem weight_deviceLine_le (h d : Nat) :
    (deviceLine h d c (trim raw)).1.weight k ≤ c.weight k + lineWeight (words raw) := by
  refine weight_modifyHandler_le fun x => ?_
  have hDevice (y : Device) : (y.readAttr (trim raw)).weight ≤ y.weight + lineWeight (words raw) := by
    unfold Device.readAttr
    split
    · rename_i key v hkv
      have hLe := attrWeight_le hkv
      split
      · rename_i hKey
        rw [hKey] at hLe
        simp only [Device.weight]
        split <;> omega
      · have := Record.sum_entries_set_le y.attrs key (unquote (trim v)) attrWeight
        simp only [Device.weight]
        omega
    · exact Nat.le_add_right _ _
  have := sum_modify_le hDevice d x.devices
  simp only [Handler.weight, Handler.modifyDevice]
  omega

theorem weight_targetLine_le (d t : Nat) :
    (targetLine d t c (trim raw)).1.weight k ≤ c.weight k + lineWeight (words raw) := by
  simp only [targetLine, words_trim]
  split
  · rename_i hHw
    have hOne : lineWeight (words raw) = 1 := by
      rw [← words_trim, hHw]
      decide
    refine weight_modifyTarget_le fun x => ?_
    simp only [Target.weight, Bool.toNat_true]
    omega
  · split
    · rename_i digit hDigit
      have := one_le_of_soleDigit hDigit
      refine weight_modifyTarget_le fun x => ?_
      have := Bool.toNat_le (!(digit == '1'))
      simp only [Target.weight]
      omega
    · split
      · rename_i name hName
        have := nameWeight_le_of_blockName hName
        refine weight_modifyTarget_le fun x => ?_
        simp [Target.weight, Target.addGroup, Group.weight]
        omega
      · split
        · rename_i digits device hLun
          have := weight_newLun_le (k := k) hLun
          refine weight_modifyTarget_le fun x => ?_
          simp [Target.weight, Target.addLun]
          omega
        · rename_i hEnabled _ hGroup _ hLun
          refine weight_modifyTarget_le fun x => ?_
          unfold Target.readAttr
          split
          · rename_i key v hkv
            have := targetAttrWeight_le hkv hEnabled hGroup hLun
            have := Record.sum_entries_set_le x.attrs key (unquote (trim v)) targetAttrWeight
            simp only [Target.weight]
            omega
          · exact Nat.le_add_right _ _

theorem weight_aluaTargetGroupLine_le (g t : Nat) :
    (aluaTargetGroupLine g t c (trim raw)).1.weight k ≤ c.weight k + lineWeight (words raw) := by
  simp only [aluaTargetGroupLine, words_trim]
  split
  · rename_i digits hDigits
    have hWords := (soleDigits_eq_some.mp hDigits).1
    have hLun : numberedBlock Keyword.lun (words raw) = none := by
      rw [hWords]
      rfl
    have hBad : badNumber (words raw) =
        if (Number.parseInt digits).PrintsAsDigits then 0 else 1 := by
      rw [badNumber, hLun, hDigits]
    have hLine : lineWeight (words raw) = _ := lineWeight_of_length (by simp [hWords])
    refine weight_modifyTargetGroup_le fun x => ?_
    rw [hBad] at hLine
    simp only [AluaTargetGroupConfig.weight]
    split at hLine <;> simp_all <;> split <;> omega
  · split
    · rename_i name hName
      have := nameWeight_le_of_soleWord hName
      refine weight_modifyTargetGroup_le fun x => ?_
      simp [AluaTargetGroupConfig.weight]
      omega
    · exact Nat.le_add_right _ _

theorem weight_groupLine_le (d t g : Nat) :
    (groupLine d t g c (trim raw)).1.weight k ≤ c.weight k + lineWeight (words raw) := by
  simp only [groupLine, words_trim]
  split
  · rename_i name hName
    have := nameWeight_le_of_soleWord hName
    refine weight_modifyGroup_le fun x => ?_
    simp [Group.weight, Group.addInitiator]
    omega
  · split
    · rename_i digits device hLun
      have := weight_newLun_le (k := k) hLun
      refine weight_modifyGroup_le fun x => ?_
      simp [Group.weight, Group.addLun]
      omega
    · exact Nat.le_add_right _ _

theorem weight_lunAttrsLine_le (hk : k ≤ 1) (lun : LunRef) :
    (lunAttrsLine lun c (trim raw)).1.weight k ≤ c.weight k + lineWeight (words raw) := by
  refine weight_modifyLun_le (fun x => ?_) lun
  unfold Lun.readAttr
  split
  · rename_i hRead
    rw [words_trim] at hRead
    have hOne := nameWeight_le_of_soleWord hRead
    have := Bool.toNat_le x.readOnly
    simp only [Lun.weight, nameWeight, Bool.toNat_true] at hOne ⊢
    omega
  · split
    · rename_i key v hkv
      have hOne := attrWeight_le hkv
      have hLength := Nat.mul_le_mul_left k
        (Record.length_entries_set_le x.attrs key (unquote (trim v)))
      rw [Nat.mul_add] at hLength
      simp only [Lun.weight, attrWeight] at hOne ⊢
      omega
    · exact Nat.le_add_right _ _

theorem weight_contextLine_le (hk : k ≤ 1) (ctx : ParserContext) :
    (contextLine ctx c (trim raw)).1.weight k ≤ c.weight k + lineWeight (words raw) := by
  cases ctx with
  | root => exact weight_rootLine_le
  | handler h => exact weight_handlerLine_le h
  | driver d => exact weight_driverLine_le d
  | deviceGroup g => exact weight_deviceGroupLine_le g
  | device h d => exact weight_deviceLine_le h d
  | target d t => exact weight_targetLine_le d t
  | aluaTargetGroup g t => exact weight_aluaTargetGroupLine_le g t
  | group d t g => exact weight_groupLine_le d t g
  | lunAttrs lun => exact weight_lunAttrsLine_le hk lun

end

theorem weight_step_le {k : Nat} (hk : k ≤ 1) (st : ParserState) (raw : Text) :
    (st.step raw).config.weight k ≤ st.config.weight k + lineWeight (words raw) := by
  rcases st.step_config_cases raw with hSame | ⟨-, -, -, hRead⟩
  · rw [hSame]
    exact Nat.le_add_right _ _
  · rw [hRead]
    exact weight_contextLine_le hk st.top

theorem weight_run_le {k : Nat} (hk : k ≤ 1) (st : ParserState) (lines : List Text) :
    (st.run lines).config.weight k ≤
      st.config.weight k + (lines.map fun l => lineWeight (words l)).sum := by
  induction lines generalizing st with
  | nil => simp
  | cons line lines ih =>
    have hStep := weight_step_le hk st line
    have hRest := ih (st.step line)
    rw [ParserState.run_cons, List.map_cons, List.sum_cons]
    omega

def Covered (amount limit : Nat) (condition : Prop) : Prop :=
  amount ≤ limit ∧ (limit ≤ amount → condition)

namespace Covered

theorem of_eq {a b : Nat} (h : a = b) : Covered a b True := ⟨h.le, fun _ => trivial⟩

theorem imp {a b : Nat} {P Q : Prop} (h : Covered a b P) (hPQ : P → Q) : Covered a b Q :=
  ⟨h.1, fun hb => hPQ (h.2 hb)⟩

theorem add {a b a' b' : Nat} {P P' : Prop} (h : Covered a b P) (h' : Covered a' b' P') :
    Covered (a + a') (b + b') (P ∧ P') := by
  obtain ⟨hLe, hTight⟩ := h
  obtain ⟨hLe', hTight'⟩ := h'
  exact ⟨by omega, fun hb => ⟨hTight (by omega), hTight' (by omega)⟩⟩

theorem sum {α : Type} {l : List α} {a b : α → Nat} {P : α → Prop}
    (h : ∀ x ∈ l, Covered (a x) (b x) (P x)) :
    Covered (l.map a).sum (l.map b).sum (∀ x ∈ l, P x) := by
  induction l with
  | nil => exact ⟨Nat.le_refl _, by simp⟩
  | cons x l ih =>
    have hCons := (h x (by simp)).add (ih fun y hy => h y (by simp [hy]))
    simp only [List.map_cons, List.sum_cons]
    exact hCons.imp fun hP => by simpa using hP

end Covered

def linesWeight (lines : List Text) : Nat := (lines.map fun l => lineWeight (words l)).sum

@[simp] theorem linesWeight_nil : linesWeight [] = 0 := rfl

@[simp] theorem linesWeight_cons (l : Text) (ls : List Text) :
    linesWeight (l :: ls) = lineWeight (words l) + linesWeight ls := rfl

@[simp] theorem linesWeight_append (l₁ l₂ : List Text) :
    linesWeight (l₁ ++ l₂) = linesWeight l₁ + linesWeight l₂ := by
  simp [linesWeight]

theorem linesWeight_flatMap {α : Type} (f : α → List Text) (l : List α) :
    linesWeight (l.flatMap f) = (l.map fun x => linesWeight (f x)).sum := by
  induction l with
  | nil => rfl
  | cons x l ih => simp [ih]

@[simp] theorem lineWeight_closeBrace (n : Nat) :
    lineWeight (words (templateLine n [closeBrace])) = 0 := by
  rw [words_templateLine n (by decide)]
  rfl

theorem lineWeight_open {name : Text} (n : Nat) (keyword : Text) (hk : StartsLine keyword)
    (hQuotes : quotes keyword = 0) (hLun : keyword ≠ Keyword.lun) (hName : IsWord name) :
    lineWeight (words (templateLine n [keyword, name, openBrace])) = nameWeight name := by
  rw [words_templateLine n (by simpa using ⟨hk.1, hName, by decide⟩),
    lineWeight_of_length (by simp)]
  have hBrace : quotes openBrace = 0 := rfl
  simp [nameWeight, badNumber, numberedBlock, soleDigits, soleWord, hLun, hQuotes, hBrace]

theorem lineWeight_pair {keyword name : Text} (n : Nat) (hk : StartsLine keyword)
    (hQuotes : quotes keyword = 0) (hGroupId : keyword ≠ Keyword.groupId) (hName : IsWord name) :
    lineWeight (words (templateLine n [keyword, name])) = nameWeight name := by
  rw [words_templateLine n (by simpa using ⟨hk.1, hName⟩), lineWeight_of_length (by simp)]
  simp [nameWeight, badNumber, numberedBlock, soleDigits, soleWord, hGroupId, hQuotes]

theorem covered_attr {e : Text × Text} (n : Nat) (hk : IsWord e.1) :
    Covered (lineWeight (words (templateLine n [e.1, e.2]))) (attrWeight e) (PlainValue e.2) := by
  rw [words_templateLine_pair n hk, attrWeight]
  cases hWords : words e.2 with
  | nil =>
    have hNot : ¬ PlainValue e.2 := fun h => h.words_ne_nil hWords
    have hOne : lineWeight [e.1] ≤ 1 := by
      simp only [lineWeight]
      split <;> omega
    rw [if_neg hNot]
    exact ⟨by omega, fun h => absurd h (by omega)⟩
  | cons w ws =>
    have hQuotes : quotes e.2 = ((w :: ws).map quotes).sum := by
      rw [quotes_eq_sum_words, hWords]
    rw [lineWeight_of_length (by simp), List.map_cons, List.sum_cons, hQuotes]
    by_cases hPlain : PlainValue e.2
    · rw [if_pos hPlain]
      exact ⟨Nat.le_refl _, fun _ => hPlain⟩
    · rw [if_neg hPlain]
      exact ⟨by omega, fun h => absurd h (by omega)⟩

theorem covered_targetAttr {e : Text × Text} (n : Nat) (hk : IsWord e.1) :
    Covered (lineWeight (words (templateLine n [e.1, e.2]))) (targetAttrWeight e)
      (TargetAttrRewritable e) := by
  obtain ⟨hLe, hTight⟩ := covered_attr n hk
  unfold targetAttrWeight
  split
  · rename_i hNone
    exact ⟨by omega, fun h => ⟨hTight (by omega), hNone.1, hNone.2.1, hNone.2.2⟩⟩
  · exact ⟨by omega, fun h => absurd h (by omega)⟩

theorem covered_device {handler : Text} {x : Device} (h : x.WellFormed handler) :
    Covered (linesWeight x.lines) x.weight x.Rewritable := by
  have hFile : Covered (linesWeight (if x.filename = [] then []
        else [templateLine 2 [Keyword.filename, x.filename]]))
      (if x.filename = [] then 0 else attrWeight (Keyword.filename, x.filename))
      (x.filename = [] ∨ PlainValue x.filename) := by
    split
    · rename_i hNil
      exact ⟨Nat.le_refl _, fun _ => Or.inl hNil⟩
    · have hKey : IsWord Keyword.filename := by decide
      have hAttr := covered_attr (e := (Keyword.filename, x.filename)) 2 hKey
      simpa using hAttr.imp Or.inr
  have hAttrs : Covered (linesWeight (attrLines 2 x.attrs)) (x.attrs.entries.map attrWeight).sum
      (∀ e ∈ x.attrs.entries, PlainValue e.2) := by
    rw [attrLines, linesWeight, List.map_map]
    exact Covered.sum fun e he => covered_attr 2 (h.attrs e he).1.key
  have hOpen := Covered.of_eq
    (lineWeight_open 1 Keyword.device (by decide) rfl (by decide) h.name)
  have hAll := (hOpen.add hFile).add hAttrs
  simp only [Device.lines, linesWeight_append, linesWeight_cons, linesWeight_nil,
    lineWeight_closeBrace, Nat.add_zero, Device.weight] at hAll ⊢
  exact hAll.imp fun hP => ⟨hP.1.2, hP.2⟩

theorem covered_handler {x : Handler} (h : x.WellFormed) :
    Covered (linesWeight x.lines) x.weight (∀ d ∈ x.devices, d.Rewritable) := by
  have hOpen := Covered.of_eq
    (lineWeight_open 0 Keyword.handler (by decide) rfl (by decide) h.name)
  have hAll := hOpen.add (Covered.sum fun d hd => covered_device (h.devices d hd))
  simp only [Handler.lines, linesWeight_append, linesWeight_cons, linesWeight_nil,
    linesWeight_flatMap, words_nil, lineWeight, Nat.add_zero, Handler.weight] at hAll ⊢
  exact hAll.imp fun hP => hP.2

/-- A LUN is written on a line of its weight when its number prints as digits
and there is no attribute to be lost. -/
theorem covered_lun {x : Lun} (k n : Nat) (h : x.WellFormed) :
    Covered (linesWeight (x.lines n)) (x.weight k) (k = 1 → x.Rewritable) := by
  obtain ⟨digits, hDigits, hId⟩ := h.id
  have hWord : IsWord x.id.toText := by
    rw [hId]
    exact Number.isWord_toText_parseInt digits
  have hQuotes : quotes x.id.toText = 0 := by
    rw [hId]
    exact Number.quotes_toText_parseInt digits
  have hLine (rest : List Text) (hRest : rest = [] ∨ rest = [openBrace]) :
      lineWeight (Keyword.lun :: x.id.toText :: x.device :: rest) = nameWeight x.device := by
    have hBrace : quotes openBrace = 0 := rfl
    have hKey : quotes Keyword.lun = 0 := rfl
    have hBad : badNumber (Keyword.lun :: x.id.toText :: x.device :: rest) = 0 := by
      cases hText : isDigits x.id.toText with
      | true =>
        have hPrints : x.id.PrintsAsDigits := by
          rw [hId] at hText ⊢
          exact Number.parseInt_toText hText
        rcases hRest with rfl | rfl <;>
          simp [badNumber, numberedBlock, hText, hPrints.2, hPrints]
      | false =>
        rcases hRest with rfl | rfl <;>
          simp [badNumber, numberedBlock, hText, soleDigits, soleWord]
    rw [lineWeight_of_length (by simp), hBad, nameWeight]
    rcases hRest with rfl | rfl <;> simp [hKey, hQuotes, hBrace]
  have hWritten : linesWeight (x.lines n) = nameWeight x.device + x.readOnly.toNat := by
    unfold Lun.lines
    cases x.readOnly with
    | true =>
      have hRead : lineWeight (words (templateLine (n + 1) [Keyword.readOnly, ['1']])) = 1 := by
        rw [words_templateLine (n + 1) (by decide)]
        decide +kernel
      have hWords : words (templateLine n [Keyword.lun, x.id.toText, x.device, openBrace]) =
          [Keyword.lun, x.id.toText, x.device, openBrace] :=
        words_templateLine n (by simpa using ⟨by decide, hWord, h.device, by decide⟩)
      simp only [if_true, linesWeight_cons, linesWeight_nil, lineWeight_closeBrace, hRead,
        hWords, hLine _ (Or.inr rfl), Bool.toNat_true, Nat.add_zero]
    | false =>
      have hWords : words (templateLine n [Keyword.lun, x.id.toText, x.device]) =
          [Keyword.lun, x.id.toText, x.device] :=
        words_templateLine n (by simpa using ⟨by decide, hWord, h.device⟩)
      simp only [Bool.false_eq_true, if_false, linesWeight_cons, linesWeight_nil, hWords,
        hLine _ (Or.inl rfl), Bool.toNat_false, Nat.add_zero]
  rw [hWritten, Lun.weight]
  refine ⟨by omega, fun hTight hk => ⟨?_, ?_⟩⟩
  · by_contra hNot
    rw [if_neg hNot] at hTight
    omega
  · apply Record.ext
    rw [hk] at hTight
    exact List.length_eq_zero_iff.mp (by omega)

theorem covered_luns {ls : List Lun} (k n : Nat) (h : ∀ l ∈ ls, l.WellFormed) :
    Covered (linesWeight (ls.flatMap (Lun.lines n))) (ls.map (Lun.weight k)).sum
      (k = 1 → ∀ l ∈ ls, l.Rewritable) := by
  rw [linesWeight_flatMap]
  exact (Covered.sum fun l hl => covered_lun k n (h l hl)).imp fun hP hk l hl => hP l hl hk

theorem linesWeight_names {names : List Text} (n : Nat) (keyword : Text) (hk : StartsLine keyword)
    (hQuotes : quotes keyword = 0) (hGroupId : keyword ≠ Keyword.groupId)
    (hNames : ∀ x ∈ names, IsWord x) :
    linesWeight (names.map fun x => templateLine n [keyword, x]) = (names.map nameWeight).sum := by
  rw [linesWeight, List.map_map]
  exact congrArg List.sum (List.map_congr_left fun x hx =>
    lineWeight_pair n hk hQuotes hGroupId (hNames x hx))

theorem covered_group {x : Group} (k : Nat) (h : x.WellFormed) :
    Covered (linesWeight x.lines) (x.weight k) (k = 1 → ∀ l ∈ x.luns, l.Rewritable) := by
  have hOpen := Covered.of_eq
    (lineWeight_open 2 Keyword.group (by decide) rfl (by decide) h.name)
  have hInitiators := Covered.of_eq
    (linesWeight_names 3 Keyword.initiator (by decide) rfl (by decide) h.initiators)
  have hAll := (hOpen.add hInitiators).add (covered_luns k 3 h.luns)
  simp only [Group.lines, linesWeight_append, linesWeight_cons, linesWeight_nil,
    lineWeight_closeBrace, Nat.add_zero, Group.weight] at hAll ⊢
  exact hAll.imp fun hP => hP.2

theorem covered_target {driver : Text} {x : Target} (k : Nat) (h : x.WellFormed driver) :
    Covered (linesWeight x.lines) (x.weight k) (k = 1 → x.Rewritable) := by
  have hOpen := Covered.of_eq
    (lineWeight_open 1 Keyword.target (by decide) rfl (by decide) h.name)
  have hHw : Covered (linesWeight (if x.hwTarget then [templateLine 2 [Keyword.hwTarget]] else []))
      x.hwTarget.toNat True := by
    refine Covered.of_eq ?_
    cases x.hwTarget <;> decide
  have hEnabled : Covered
      (linesWeight (if x.enabled then [] else [templateLine 2 [Keyword.enabled, ['0']]]))
      (!x.enabled).toNat True := by
    refine Covered.of_eq ?_
    cases x.enabled <;> decide
  have hAttrs : Covered (linesWeight (attrLines 2 x.attrs))
      (x.attrs.entries.map targetAttrWeight).sum
      (∀ e ∈ x.attrs.entries, TargetAttrRewritable e) := by
    rw [attrLines, linesWeight, List.map_map]
    exact Covered.sum fun e he => covered_targetAttr 2 (h.attrs e he).key
  have hGroups : Covered (linesWeight (x.groups.flatMap Group.lines))
      (x.groups.map (Group.weight k)).sum
      (∀ g ∈ x.groups, k = 1 → ∀ l ∈ g.luns, l.Rewritable) := by
    rw [linesWeight_flatMap]
    exact Covered.sum fun g hg => covered_group k (h.groups g hg)
  have hAll := ((((hOpen.add hHw).add hEnabled).add hAttrs).add hGroups).add
    (covered_luns k 2 h.luns)
  simp only [Target.lines, linesWeight_append, linesWeight_cons, linesWeight_nil,
    lineWeight_closeBrace, Nat.add_zero, Target.weight] at hAll ⊢
  exact hAll.imp fun hP hk => ⟨hP.1.1.2, fun g hg => hP.1.2 g hg hk, hP.2 hk⟩

theorem covered_driver {x : Driver} (k : Nat) (h : x.WellFormed) :
    Covered (linesWeight x.lines) (x.weight k) (k = 1 → ∀ t ∈ x.targets, t.Rewritable) := by
  have hOpen := Covered.of_eq
    (lineWeight_open 0 Keyword.targetDriver (by decide) rfl (by decide) h.name)
  have hEnabled : Covered
      (linesWeight (if x.enabled then [] else [templateLine 1 [Keyword.enabled, ['0']]]))
      (!x.enabled).toNat True := by
    refine Covered.of_eq ?_
    cases x.enabled <;> decide
  have hAll := (hOpen.add hEnabled).add
    (Covered.sum fun t ht => covered_target k (h.targets t ht))
  simp only [Driver.lines, linesWeight_append, linesWeight_cons, linesWeight_nil,
    linesWeight_flatMap, words_nil, lineWeight, Nat.add_zero, Driver.weight] at hAll ⊢
  exact hAll.imp fun hP hk t ht => hP.2 t ht hk

theorem covered_targetGroup {x : AluaTargetGroupConfig} (h : x.WellFormed) :
    Covered (linesWeight x.lines) x.weight x.Rewritable := by
  obtain ⟨digits, hDigits, hId⟩ := h.groupId
  have hOpen := Covered.of_eq
    (lineWeight_open 1 Keyword.targetGroup (by decide) rfl (by decide) h.name)
  have hTargets := Covered.of_eq
    (linesWeight_names 2 Keyword.target (by decide) rfl (by decide) h.targets)
  have hGroupId : Covered
      (linesWeight (if x.groupId.isPositive then
        [templateLine 2 [Keyword.groupId, x.groupId.toText]] else []))
      (if x.groupId.isPositive then if x.groupId.PrintsAsDigits then 1 else 2 else 0)
      x.Rewritable := by
    cases hPos : x.groupId.isPositive with
    | false => exact ⟨Nat.le_refl _, fun _ h => absurd h (by simp [hPos])⟩
    | true =>
      have hWord : IsWord x.groupId.toText := by
        rw [hId]
        exact Number.isWord_toText_parseInt digits
      have hQuotes : quotes x.groupId.toText = 0 := by
        rw [hId]
        exact Number.quotes_toText_parseInt digits
      have hLine : linesWeight [templateLine 2 [Keyword.groupId, x.groupId.toText]] =
          1 + badNumber [Keyword.groupId, x.groupId.toText] := by
        have hKey : quotes Keyword.groupId = 0 := rfl
        rw [linesWeight_cons, linesWeight_nil,
          words_templateLine 2 (by simpa using ⟨by decide, hWord⟩),
          lineWeight_of_length (by simp)]
        simp [hKey, hQuotes]
      simp only [if_true, hLine]
      by_cases hPrints : x.groupId.PrintsAsDigits
      · have hBad : badNumber [Keyword.groupId, x.groupId.toText] = 0 := by
          simp [badNumber, numberedBlock, soleDigits, soleWord, Option.filter, hPrints.1,
            hPrints.2, hPrints]
        rw [hBad, if_pos hPrints]
        exact ⟨Nat.le_refl _, fun _ _ => hPrints⟩
      · have hText : isDigits x.groupId.toText = false := by
          by_contra hNot
          rw [hId] at hNot hPrints
          exact hPrints (Number.parseInt_toText (by simpa using hNot))
        have hBad : badNumber [Keyword.groupId, x.groupId.toText] = 0 := by
          simp [badNumber, numberedBlock, soleDigits, soleWord, Option.filter, hText]
        rw [hBad, if_neg hPrints]
        exact ⟨by omega, fun h => absurd h (by omega)⟩
  have hAll := (hOpen.add hGroupId).add hTargets
  simp only [AluaTargetGroupConfig.lines, linesWeight_append, linesWeight_cons, linesWeight_nil,
    lineWeight_closeBrace, Nat.add_zero, AluaTargetGroupConfig.weight] at hAll ⊢
  exact hAll.imp fun hP => hP.1.2

theorem covered_deviceGroup {x : AluaDeviceGroupConfig} (h : x.WellFormed) :
    Covered (linesWeight x.lines) x.weight (∀ t ∈ x.targetGroups, t.Rewritable) := by
  have hOpen := Covered.of_eq
    (lineWeight_open 0 Keyword.deviceGroup (by decide) rfl (by decide) h.name)
  have hDevices := Covered.of_eq
    (linesWeight_names 1 Keyword.device (by decide) rfl (by decide) h.devices)
  have hAll := (hOpen.add hDevices).add
    (Covered.sum fun t ht => covered_targetGroup (h.targetGroups t ht))
  simp only [AluaDeviceGroupConfig.lines, linesWeight_append, linesWeight_cons, linesWeight_nil,
    linesWeight_flatMap, words_nil, lineWeight, Nat.add_zero, AluaDeviceGroupConfig.weight] at hAll ⊢
  exact hAll.imp fun hP => hP.2

/-- The lines written for a configuration weigh at most what it does, and
less unless every entry is read back from its line. -/
theorem covered_config {c : ScstConfig} (k : Nat) (h : c.WellFormed) :
    Covered (linesWeight c.lines) (c.weight k) (k = 1 → c.EntriesRewritable) := by
  have hHandlers := Covered.sum fun x hx => covered_handler (h.handlers x hx)
  have hDrivers := Covered.sum fun x hx => covered_driver k (h.drivers x hx)
  have hGroups := Covered.sum fun x hx => covered_deviceGroup (h.deviceGroups x hx)
  have hAll := (hHandlers.add hDrivers).add hGroups
  rw [ScstConfig.lines, linesWeight_append, linesWeight_append, linesWeight_flatMap,
    linesWeight_flatMap, linesWeight_flatMap, ScstConfig.weight]
  exact hAll.imp fun hP hk => ⟨hP.1.1, fun d hd => hP.1.2 d hd hk, hP.2⟩

theorem entriesRewritable_of_run_eq {c : ScstConfig} (h : c.WellFormed)
    (hRun : (ParserState.initial.run c.lines).config = c) : c.EntriesRewritable := by
  have hRead := weight_run_le (k := 1) (Nat.le_refl 1) ParserState.initial c.lines
  have hEmpty : ParserState.initial.config.weight 1 = 0 := rfl
  rw [hRun, hEmpty, Nat.zero_add] at hRead
  exact (covered_config 1 h).2 hRead rfl

end EsosWebui.Scst
