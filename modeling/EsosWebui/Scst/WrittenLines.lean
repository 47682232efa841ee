import EsosWebui.Scst.Parser

/-! How the parser reads back each line that the serialiser writes, in the scope
it was written for. -/
namespace EsosWebui.Scst

open Js

def StartsLine (k : Text) : Prop := IsWord k ∧ k.head? ≠ some '#' ∧ k ≠ closeBrace

instance (k : Text) : Decidable (StartsLine k) := inferInstanceAs (Decidable (_ ∧ _ ∧ _))

namespace ParserState

theorem run_cons (st : ParserState) (line : Text) (lines : List Text) :
    st.run (line :: lines) = (st.step line).run lines := rfl

@[simp] theorem run_nil (st : ParserState) : st.run [] = st := rfl

theorem run_append (st : ParserState) (l₁ l₂ : List Text) :
    st.run (l₁ ++ l₂) = (st.run l₁).run l₂ := List.foldl_append

theorem run_singleton (st : ParserState) (line : Text) : st.run [line] = st.step line := rfl

@[simp] theorem step_nil (st : ParserState) : st.step [] = st := by
  simp [step, trim, trimStart, trimEnd]

theorem step_of_words {st : ParserState} {raw k : Text} {ws : List Text}
    (hw : words raw = k :: ws) (hHash : k.head? ≠ some '#') (hClose : k = closeBrace → ws ≠ []) :
    st.step raw = st.readLine (trim raw) := by
  obtain ⟨rest, hTrim, hk, -, hRest⟩ := exists_of_words_trim hw
  have hHead : (trim raw).head? = k.head? := by
    rw [hTrim, List.head?_append_of_ne_nil _ hk.ne_nil]
  have hNil : trim raw ≠ [] := by simp [hTrim, hk.ne_nil]
  have hBrace : trim raw ≠ closeBrace := by
    intro h
    have hWord : words raw = [closeBrace] := by
      rw [← words_trim, h]
      rfl
    rw [hw] at hWord
    obtain ⟨hKey, hWs⟩ := List.cons.inj hWord
    exact hClose hKey hWs
  rw [step]
  simp only [hNil, hHead, hHash, hBrace, or_self, if_false]

theorem step_of_startsLine {st : ParserState} {raw k : Text} {ws : List Text}
    (hw : words raw = k :: ws) (hk : StartsLine k) : st.step raw = st.readLine (trim raw) :=
  step_of_words hw hk.2.1 fun h => absurd h hk.2.2

theorem step_closeBrace (st : ParserState) (n : Nat) :
    st.step (templateLine n [closeBrace]) = st.pop := by
  have hTrim : trim (templateLine n [closeBrace]) = closeBrace :=
    trim_templateLine n (by decide)
  simp only [step, hTrim]
  rfl

variable (c : ScstConfig)

theorem step_closeBrace_cons (top ctx : ParserContext) (below : List ParserContext) (n : Nat) :
    (⟨c, top, ctx :: below⟩ : ParserState).step (templateLine n [closeBrace]) =
      ⟨c, ctx, below⟩ := by
  rw [step_closeBrace]
  rfl

theorem step_templateLine (st : ParserState) (n : Nat) (k : Text) (ws : List Text)
    (hk : StartsLine k) (hws : ∀ w ∈ ws, IsWord w) :
    ∃ line, st.step (templateLine n (k :: ws)) = st.readLine line ∧ words line = k :: ws ∧
      line = [' '].intercalate (k :: ws) ∧
      ∀ pre w, k :: ws = pre ++ [w] → endsWithBrace line = endsWithBrace w := by
  have hAll : ∀ w ∈ k :: ws, IsWord w := by
    intro w hw
    rcases List.mem_cons.mp hw with rfl | hw
    · exact hk.1
    · exact hws w hw
  have hWords := words_templateLine n hAll
  refine ⟨trim (templateLine n (k :: ws)), step_of_startsLine hWords hk, ?_,
    trim_templateLine n hAll, ?_⟩
  · rw [words_trim, hWords]
  · intro pre w h
    rw [h]
    exact endsWithBrace_templateLine n (h ▸ hAll)

section

variable (c : ScstConfig) (below : List ParserContext) {name : Text} (hName : IsWord name)
include hName

private theorem step_open (st : ParserState) (n : Nat) (keyword : Text)
    (hk : StartsLine keyword) :
    ∃ line, st.step (templateLine n [keyword, name, openBrace]) = st.readLine line ∧
      words line = [keyword, name, openBrace] ∧ line ≠ Keyword.hwTarget ∧
      endsWithBrace line = true := by
  obtain ⟨line, hStep, hWords, -, hBrace⟩ := step_templateLine st n keyword [name, openBrace] hk
    (by simpa using ⟨hName, by decide⟩)
  refine ⟨line, hStep, hWords, ?_, hBrace [keyword, name] openBrace rfl⟩
  rintro rfl
  exact absurd (congrArg List.length hWords) (by simp; decide)

theorem step_handler :
    (⟨c, .root, below⟩ : ParserState).step (templateLine 0 [Keyword.handler, name, openBrace]) =
      ⟨{ c with handlers := c.handlers ++ [{ name := name, devices := [] }] },
        .handler c.handlers.length, .root :: below⟩ := by
  obtain ⟨line, hStep, hWords, -, hOpen⟩ :=
    step_open hName ⟨c, .root, below⟩ 0 Keyword.handler (by decide)
  simp [hStep, readLine, contextLine, rootLine, hWords, blockName, opens, hOpen]

theorem step_targetDriver :
    (⟨c, .root, below⟩ : ParserState).step
        (templateLine 0 [Keyword.targetDriver, name, openBrace]) =
      ⟨{ c with drivers := c.drivers ++ [{ name := name, enabled := true, targets := [] }] },
        .driver c.drivers.length, .root :: below⟩ := by
  obtain ⟨line, hStep, hWords, -, hOpen⟩ :=
    step_open hName ⟨c, .root, below⟩ 0 Keyword.targetDriver (by decide)
  simp [hStep, readLine, contextLine, rootLine, hWords, blockName, opens, hOpen,
    show Keyword.targetDriver ≠ Keyword.handler by decide]

theorem step_deviceGroup :
    (⟨c, .root, below⟩ : ParserState).step
        (templateLine 0 [Keyword.deviceGroup, name, openBrace]) =
      ⟨{ c with
          deviceGroups := c.deviceGroups ++ [{ name := name, devices := [], targetGroups := [] }] },
        .deviceGroup c.deviceGroups.length, .root :: below⟩ := by
  obtain ⟨line, hStep, hWords, -, hOpen⟩ :=
    step_open hName ⟨c, .root, below⟩ 0 Keyword.deviceGroup (by decide)
  simp [hStep, readLine, contextLine, rootLine, hWords, blockName, opens, hOpen,
    show Keyword.deviceGroup ≠ Keyword.handler by decide,
    show Keyword.deviceGroup ≠ Keyword.targetDriver by decide]

theorem step_device (h n : Nat) :
    (⟨c, .handler h, below⟩ : ParserState).step
        (templateLine n [Keyword.device, name, openBrace]) =
      ⟨c.modifyHandler h fun x =>
          x.addDevice { name := name, handler := x.name, filename := [], attrs := .empty },
        .device h (c.deviceCount h), .handler h :: below⟩ := by
  obtain ⟨line, hStep, hWords, -, hOpen⟩ :=
    step_open hName ⟨c, .handler h, below⟩ n Keyword.device (by decide)
  simp [hStep, readLine, contextLine, handlerLine, hWords, blockName, opens, hOpen]

theorem step_target (d n : Nat) :
    (⟨c, .driver d, below⟩ : ParserState).step
        (templateLine n [Keyword.target, name, openBrace]) =
      ⟨c.modifyDriver d fun x =>
          x.addTarget
            { name := name, driver := x.name, enabled := true, hwTarget := false,
              attrs := .empty, groups := [], luns := [] },
        .target d (c.targetCount d), .driver d :: below⟩ := by
  obtain ⟨line, hStep, hWords, -, hOpen⟩ :=
    step_open hName ⟨c, .driver d, below⟩ n Keyword.target (by decide)
  simp [hStep, readLine, contextLine, driverLine, hWords, blockName, soleDigit, soleWord, opens,
    hOpen]

theorem step_targetGroup (g n : Nat) :
    (⟨c, .deviceGroup g, below⟩ : ParserState).step
        (templateLine n [Keyword.targetGroup, name, openBrace]) =
      ⟨c.modifyDeviceGroup g
          (AluaDeviceGroupConfig.addTargetGroup { name := name, groupId := .int 0, targets := [] }),
        .aluaTargetGroup g (c.targetGroupCount g), .deviceGroup g :: below⟩ := by
  obtain ⟨line, hStep, hWords, -, hOpen⟩ :=
    step_open hName ⟨c, .deviceGroup g, below⟩ n Keyword.targetGroup (by decide)
  simp [hStep, readLine, contextLine, deviceGroupLine, hWords, blockName, soleWord, opens, hOpen]

theorem step_group (d t n : Nat) :
    (⟨c, .target d t, below⟩ : ParserState).step
        (templateLine n [Keyword.group, name, openBrace]) =
      ⟨c.modifyTarget d t (Target.addGroup { name := name, initiators := [], luns := [] }),
        .group d t (c.groupCount d t), .target d t :: below⟩ := by
  obtain ⟨line, hStep, hWords, hHw, hOpen⟩ :=
    step_open hName ⟨c, .target d t, below⟩ n Keyword.group (by decide)
  simp [hStep, readLine, contextLine, targetLine, hWords, hHw, blockName, soleDigit, soleWord,
    opens, hOpen]

end

section

variable (c : ScstConfig) (below : List ParserContext) {name : Text} (hName : IsWord name)
include hName

theorem step_deviceRef (g n : Nat) :
    (⟨c, .deviceGroup g, below⟩ : ParserState).step (templateLine n [Keyword.device, name]) =
      ⟨c.modifyDeviceGroup g fun x => { x with devices := x.devices ++ [name] },
        .deviceGroup g, below⟩ := by
  obtain ⟨line, hStep, hWords, -⟩ := step_templateLine ⟨c, .deviceGroup g, below⟩ n
    Keyword.device [name] (by decide) (by simpa using hName)
  simp [hStep, readLine, contextLine, deviceGroupLine, hWords, soleWord]

theorem step_aluaTarget (g t n : Nat) :
    (⟨c, .aluaTargetGroup g t, below⟩ : ParserState).step
        (templateLine n [Keyword.target, name]) =
      ⟨c.modifyDeviceGroup g (AluaDeviceGroupConfig.modifyTargetGroup t fun x =>
          { x with targets := x.targets ++ [name] }), .aluaTargetGroup g t, below⟩ := by
  obtain ⟨line, hStep, hWords, -⟩ := step_templateLine ⟨c, .aluaTargetGroup g t, below⟩ n
    Keyword.target [name] (by decide) (by simpa using hName)
  simp [hStep, readLine, contextLine, aluaTargetGroupLine, hWords, soleWord, soleDigits,
    show Keyword.target ≠ Keyword.groupId by decide]

theorem step_initiator (d t g n : Nat) :
    (⟨c, .group d t g, below⟩ : ParserState).step (templateLine n [Keyword.initiator, name]) =
      ⟨c.modifyGroup d t g (Group.addInitiator name), .group d t g, below⟩ := by
  obtain ⟨line, hStep, hWords, -⟩ := step_templateLine ⟨c, .group d t g, below⟩ n
    Keyword.initiator [name] (by decide) (by simpa using hName)
  simp [hStep, readLine, contextLine, groupLine, hWords, soleWord]

end

theorem step_driverEnabled (below : List ParserContext) (d n : Nat) :
    (⟨c, .driver d, below⟩ : ParserState).step (templateLine n [Keyword.enabled, ['0']]) =
      ⟨c.modifyDriver d fun x => { x with enabled := false }, .driver d, below⟩ := by
  obtain ⟨line, hStep, hWords, -⟩ := step_templateLine ⟨c, .driver d, below⟩ n
    Keyword.enabled [['0']] (by decide) (by decide)
  simp [hStep, readLine, contextLine, driverLine, hWords, soleDigit, soleWord]

theorem step_groupId (below : List ParserContext) (g t n : Nat) {gid : Text} (hId : IsWord gid) :
    (⟨c, .aluaTargetGroup g t, below⟩ : ParserState).step
        (templateLine n [Keyword.groupId, gid]) =
      ⟨c.modifyDeviceGroup g (AluaDeviceGroupConfig.modifyTargetGroup t fun x =>
          if isDigits gid then { x with groupId := Number.parseInt gid } else x),
        .aluaTargetGroup g t, below⟩ := by
  obtain ⟨line, hStep, hWords, -⟩ := step_templateLine ⟨c, .aluaTargetGroup g t, below⟩ n
    Keyword.groupId [gid] (by decide) (by simpa using hId)
  cases hDigits : isDigits gid with
  | true =>
    simp [hStep, readLine, contextLine, aluaTargetGroupLine, hWords, soleWord, soleDigits,
      Option.filter, hDigits]
  | false =>
    simp [hStep, readLine, contextLine, aluaTargetGroupLine, hWords, soleWord, soleDigits,
      Option.filter, hDigits, show Keyword.groupId ≠ Keyword.target by decide]
    exact (ScstConfig.modifyDeviceGroup_same
      (ScstConfig.modifyTargetGroup_same fun _ => rfl)).symm

end ParserState

/-- An object that LUNs can be added to. -/
inductive LunHost where
  | target (d t : Nat)
  | group (d t g : Nat)

namespace LunHost

def context : LunHost → ParserContext
  | target d t => .target d t
  | group d t g => .group d t g

def addLun (l : Lun) (c : ScstConfig) : LunHost → ScstConfig
  | target d t => c.modifyTarget d t (Target.addLun l)
  | group d t g => c.modifyGroup d t g (Group.addLun l)

def nextLun (c : ScstConfig) : LunHost → LunRef
  | target d t => .ofTarget d t (c.targetLunCount d t)
  | group d t g => .ofGroup d t g (c.groupLunCount d t g)

theorem modifyLun_addLun (host : LunHost) (l : Lun) (f : Lun → Lun) (c : ScstConfig) :
    (host.addLun l c).modifyLun f (host.nextLun c) = host.addLun (f l) c := by
  cases host with
  | target d t => exact ScstConfig.modifyTargetLun_addLun d t l f c
  | group d t g => exact ScstConfig.modifyGroupLun_addLun d t g l f c

/-- A LUN line is read alike under a target and under a group. -/
theorem contextLine_lun (host : LunHost) (c : ScstConfig) {line digits device : Text}
    (hDigits : isDigits digits)
    (hWords : words line = [Keyword.lun, digits, device] ∨
      words line = [Keyword.lun, digits, device, openBrace]) :
    contextLine host.context c line =
      (host.addLun (newLun digits device) c, opens line (.lunAttrs (host.nextLun c))) := by
  have hHw : line ≠ Keyword.hwTarget := by
    rintro rfl
    rcases hWords with hWords | hWords <;>
      exact absurd (congrArg List.length hWords) (by simp; decide)
  have hGroup : Keyword.lun ≠ Keyword.group := by decide
  have hInitiator : Keyword.lun ≠ Keyword.initiator := by decide
  rcases hWords with hWords | hWords
  · cases host <;>
      simp [context, contextLine, targetLine, groupLine, hWords, hHw, blockName, numberedBlock,
        soleDigit, soleWord, hDigits, hGroup, addLun, nextLun]
  · cases host <;>
      simp [context, contextLine, targetLine, groupLine, hWords, hHw, blockName, numberedBlock,
        soleDigit, soleWord, hDigits, addLun, nextLun]

end LunHost

/-- What is left of a LUN that is written and read again. -/
def Lun.reread (x : Lun) : Lun := { x with attrs := .empty }

/-- A LUN that is written as one line which opens a scope: nothing closes it. -/
def Lun.Unclosed (x : Lun) : Prop := x.readOnly = false ∧ endsWithBrace x.device = true

instance (x : Lun) : Decidable x.Unclosed := inferInstanceAs (Decidable (_ ∧ _))

structure Lun.Readable (x : Lun) : Prop where
  id : x.id.PrintsAsDigits
  device : IsWord x.device

namespace ParserState

private theorem step_readOnly (below : List ParserContext) (lun : LunRef) (n : Nat) :
    (⟨c, .lunAttrs lun, below⟩ : ParserState).step (templateLine n [Keyword.readOnly, ['1']]) =
      ⟨c.modifyLun (fun x => { x with readOnly := true }) lun, .lunAttrs lun, below⟩ := by
  obtain ⟨line, hStep, hWords, -⟩ := step_templateLine ⟨c, .lunAttrs lun, below⟩ n
    Keyword.readOnly [['1']] (by decide) (by decide)
  have hRead : Lun.readAttr line = fun x => { x with readOnly := true } := by
    funext x
    simp [Lun.readAttr, hWords, soleWord]
  simp [hStep, readLine, contextLine, lunAttrsLine, hRead]

theorem run_lun (host : LunHost) (c : ScstConfig) (below : List ParserContext) (n : Nat)
    {x : Lun} (h : x.Readable) :
    (⟨c, host.context, below⟩ : ParserState).run (x.lines n) =
      if x.Unclosed then
        ⟨host.addLun x.reread c, .lunAttrs (host.nextLun c), host.context :: below⟩
      else ⟨host.addLun x.reread c, host.context, below⟩ := by
  have hLun : newLun x.id.toText x.device = { x with readOnly := false, attrs := .empty } := by
    rw [newLun, h.id.2]
  have hDigits := isWord_of_isDigits h.id.1
  cases hRead : x.readOnly with
  | false =>
    obtain ⟨line, hStep, hWords, -, hBrace⟩ := step_templateLine ⟨c, host.context, below⟩ n
      Keyword.lun [x.id.toText, x.device] (by decide)
      (by simpa using ⟨hDigits, h.device⟩)
    have hEnds := hBrace [Keyword.lun, x.id.toText] x.device rfl
    have hSame : { x with readOnly := false, attrs := .empty } = x.reread := by
      rw [Lun.reread, ← hRead]
    simp only [Lun.lines, hRead, if_false, run_singleton, hStep, readLine, Bool.false_eq_true,
      host.contextLine_lun c h.id.1 (Or.inl hWords), hLun, hSame, opens, hEnds, Lun.Unclosed,
      true_and]
    cases endsWithBrace x.device <;> rfl
  | true =>
    obtain ⟨line, hStep, hWords, -, hBrace⟩ := step_templateLine ⟨c, host.context, below⟩ n
      Keyword.lun [x.id.toText, x.device, openBrace] (by decide)
      (by simpa using ⟨hDigits, h.device, by decide⟩)
    have hEnds := hBrace [Keyword.lun, x.id.toText, x.device] openBrace rfl
    have hSame : { x with readOnly := true, attrs := .empty } = x.reread := by
      rw [Lun.reread, ← hRead]
    simp only [Lun.lines, hRead, if_true, run_cons, run_nil, hStep, readLine,
      host.contextLine_lun c h.id.1 (Or.inr hWords), hLun, opens, hEnds,
      endsWithBrace_openBrace, step_readOnly, step_closeBrace_cons, LunHost.modifyLun_addLun,
      hSame, Lun.Unclosed]
    simp

end ParserState

end EsosWebui.Scst
