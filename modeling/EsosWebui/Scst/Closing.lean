import EsosWebui.Scst.Weight

/-! Reading a line never takes back what was read: targets keep their position
and their attribute keys, and groups keep their LUNs. -/
namespace EsosWebui.Scst

open Js

/-- A target with at least the attribute keys of another and at least as many
LUNs in each of its groups. -/
def Target.Grows (x y : Target) : Prop :=
  (∀ key, x.attrs.has key = true → y.attrs.has key = true) ∧
    ∀ (g : Nat) (a : Group), x.groups[g]? = some a →
      ∃ b, y.groups[g]? = some b ∧ a.luns.length ≤ b.luns.length

def ScstConfig.Grows (c c' : ScstConfig) : Prop :=
  ∀ d t x, c.target? d t = some x → ∃ y, c'.target? d t = some y ∧ x.Grows y

theorem Target.Grows.refl (x : Target) : x.Grows x :=
  ⟨fun _ h => h, fun _ a h => ⟨a, h, Nat.le_refl _⟩⟩

theorem Target.Grows.trans {x y z : Target} (h : x.Grows y) (h' : y.Grows z) : x.Grows z := by
  refine ⟨fun key hk => h'.1 key (h.1 key hk), fun g a ha => ?_⟩
  obtain ⟨b, hb, hab⟩ := h.2 g a ha
  obtain ⟨e, he, hbe⟩ := h'.2 g b hb
  exact ⟨e, he, hab.trans hbe⟩

theorem ScstConfig.Grows.refl (c : ScstConfig) : c.Grows c :=
  fun _ _ x h => ⟨x, h, Target.Grows.refl x⟩

theorem ScstConfig.Grows.trans {c₁ c₂ c₃ : ScstConfig} (h : c₁.Grows c₂) (h' : c₂.Grows c₃) :
    c₁.Grows c₃ := by
  intro d t x hx
  obtain ⟨y, hy, hxy⟩ := h d t x hx
  obtain ⟨z, hz, hyz⟩ := h' d t y hy
  exact ⟨z, hz, hxy.trans hyz⟩

namespace ScstConfig

variable {c : ScstConfig}

theorem grows_of_drivers_eq {c' : ScstConfig} (h : c'.drivers = c.drivers) : c.Grows c' := by
  intro d t x hx
  exact ⟨x, by rwa [target?, h], Target.Grows.refl x⟩

theorem grows_modifyDriver {i : Nat} {f : Driver → Driver}
    (hf : ∀ (y : Driver) (t : Nat) (x : Target), y.targets[t]? = some x →
      ∃ x' : Target, (f y).targets[t]? = some x' ∧ x.Grows x') : c.Grows (c.modifyDriver i f) := by
  intro d t x hx
  obtain ⟨y, hy, hyx⟩ := Option.bind_eq_some_iff.mp hx
  by_cases hd : i = d
  · subst hd
    obtain ⟨x', hx', hGrows⟩ := hf y t x hyx
    exact ⟨x', by simp [target?, modifyDriver, hy, hx'], hGrows⟩
  · exact ⟨x, by simp [target?, modifyDriver, List.getElem?_modify_ne, hd, hy, hyx],
      Target.Grows.refl x⟩

theorem grows_modifyTarget {i j : Nat} {f : Target → Target} (hf : ∀ x : Target, x.Grows (f x)) :
    c.Grows (c.modifyTarget i j f) :=
  grows_modifyDriver fun y t x hx => by
    by_cases ht : j = t
    · subst ht
      exact ⟨f x, by simp [Driver.modifyTarget, hx], hf x⟩
    · exact ⟨x, by simp [Driver.modifyTarget, List.getElem?_modify_ne, ht, hx],
        Target.Grows.refl x⟩

theorem grows_modifyGroup {i j k : Nat} {f : Group → Group}
    (hf : ∀ x, x.luns.length ≤ (f x).luns.length) : c.Grows (c.modifyGroup i j k f) :=
  grows_modifyTarget fun x => by
    refine ⟨fun _ h => h, fun g a ha => ?_⟩
    by_cases hg : k = g
    · subst hg
      exact ⟨f a, by simp [Target.modifyGroup, ha], hf a⟩
    · exact ⟨a, by simp [Target.modifyGroup, List.getElem?_modify_ne, hg, ha], Nat.le_refl _⟩

theorem grows_modifyLun {lun : LunRef} {f : Lun → Lun} : c.Grows (c.modifyLun f lun) := by
  cases lun with
  | ofTarget d t l =>
    exact grows_modifyTarget fun x => ⟨fun _ h => h, (Target.Grows.refl x).2⟩
  | ofGroup d t g l => exact grows_modifyGroup fun x => by simp [Group.modifyLun]

end ScstConfig

theorem getElem?_append_of_some {α : Type} {l₁ l₂ : List α} {i : Nat} {x : α}
    (h : l₁[i]? = some x) : (l₁ ++ l₂)[i]? = some x := by
  obtain ⟨hi, -⟩ := List.getElem?_eq_some_iff.mp h
  rwa [List.getElem?_append_left hi]

theorem grows_contextLine (ctx : ParserContext) (c : ScstConfig) (line : Text) :
    c.Grows (contextLine ctx c line).1 := by
  cases ctx with
  | root =>
    simp only [contextLine, rootLine]
    split
    · exact ScstConfig.grows_of_drivers_eq rfl
    · split
      · intro d t x hx
        obtain ⟨y, hy, hyx⟩ := Option.bind_eq_some_iff.mp hx
        exact ⟨x, by simp [ScstConfig.target?, getElem?_append_of_some hy, hyx],
          Target.Grows.refl x⟩
      · split <;> exact ScstConfig.grows_of_drivers_eq rfl
  | handler h =>
    simp only [contextLine, handlerLine]
    split <;> exact ScstConfig.grows_of_drivers_eq rfl
  | driver d =>
    simp only [contextLine, driverLine]
    split
    · exact ScstConfig.grows_modifyDriver fun y t x hx => ⟨x, hx, Target.Grows.refl x⟩
    · split
      · exact ScstConfig.grows_modifyDriver fun y t x hx =>
          ⟨x, getElem?_append_of_some hx, Target.Grows.refl x⟩
      · exact ScstConfig.Grows.refl c
  | deviceGroup g =>
    simp only [contextLine, deviceGroupLine]
    split
    · exact ScstConfig.grows_of_drivers_eq rfl
    · split <;> exact ScstConfig.grows_of_drivers_eq rfl
  | device h d => exact ScstConfig.grows_of_drivers_eq rfl
  | target d t =>
    simp only [contextLine, targetLine]
    split
    · exact ScstConfig.grows_modifyTarget fun x => ⟨fun _ h => h, (Target.Grows.refl x).2⟩
    · split
      · exact ScstConfig.grows_modifyTarget fun x => ⟨fun _ h => h, (Target.Grows.refl x).2⟩
      · split
        · exact ScstConfig.grows_modifyTarget fun x => ⟨fun _ h => h, fun g a ha =>
            ⟨a, getElem?_append_of_some ha, Nat.le_refl _⟩⟩
        · split
          · exact ScstConfig.grows_modifyTarget fun x =>
              ⟨fun _ h => h, (Target.Grows.refl x).2⟩
          · refine ScstConfig.grows_modifyTarget fun x => ?_
            unfold Target.readAttr
            split
            · exact ⟨fun _ h => Record.has_set_of_has _ h, (Target.Grows.refl x).2⟩
            · exact Target.Grows.refl x
  | aluaTargetGroup g t =>
    simp only [contextLine, aluaTargetGroupLine]
    split
    · exact ScstConfig.grows_of_drivers_eq rfl
    · split <;> exact ScstConfig.grows_of_drivers_eq rfl
  | group d t g =>
    simp only [contextLine, groupLine]
    split
    · exact ScstConfig.grows_modifyGroup fun x => Nat.le_refl _
    · split
      · exact ScstConfig.grows_modifyGroup fun x => by simp [Group.addLun]
      · exact ScstConfig.Grows.refl c
  | lunAttrs lun => exact ScstConfig.grows_modifyLun

namespace ParserState

theorem grows_step (st : ParserState) (line : Text) :
    st.config.Grows (st.step line).config := by
  rcases st.step_config_cases line with hSame | ⟨-, -, -, hRead⟩
  · rw [hSame]
    exact ScstConfig.Grows.refl _
  · rw [hRead]
    exact grows_contextLine _ _ _

theorem grows_run (st : ParserState) (lines : List Text) :
    st.config.Grows (st.run lines).config := by
  induction lines generalizing st with
  | nil => exact ScstConfig.Grows.refl _
  | cons line lines ih => exact (grows_step st line).trans (ih (st.step line))

end ParserState

structure Finishes (c : ScstConfig) (st : ParserState) (lines : List Text) : Prop where
  config : (st.run lines).config = c
  weight : st.config.weight 0 + linesWeight lines ≤ c.weight 0

namespace Finishes

variable {c : ScstConfig} {st : ParserState}

theorem run {l₁ l₂ : List Text} (h : Finishes c st (l₁ ++ l₂)) : Finishes c (st.run l₁) l₂ := by
  refine ⟨by rw [← ParserState.run_append, h.config], ?_⟩
  have hRead := weight_run_le (k := 0) (Nat.zero_le 1) st l₁
  have hAll := h.weight
  rw [linesWeight_append] at hAll
  rw [linesWeight] at hAll
  omega

theorem step {l : Text} {ls : List Text} (h : Finishes c st (l :: ls)) : Finishes c (st.step l) ls :=
  show Finishes c (st.run [l]) ls from run h

theorem not_lost {l : Text} {ls : List Text} (h : Finishes c st (l :: ls)) :
    st.config.weight 0 + lineWeight (words l) ≤ (st.step l).config.weight 0 := by
  have hRest := weight_run_le (k := 0) (Nat.zero_le 1) (st.step l) ls
  have hConfig : ((st.step l).run ls).config = c := h.config
  have hAll := h.weight
  rw [hConfig] at hRest
  rw [linesWeight_cons, linesWeight] at hAll
  omega

theorem grows {ls : List Text} (h : Finishes c st ls) : st.config.Grows c :=
  h.config ▸ ParserState.grows_run st ls

theorem close {c' : ScstConfig} {top ctx : ParserContext} {below : List ParserContext} {n : Nat}
    {ls : List Text} (h : Finishes c ⟨c', top, ctx :: below⟩ (templateLine n [closeBrace] :: ls)) :
    Finishes c ⟨c', ctx, below⟩ ls := by
  have hStep := h.step
  rwa [ParserState.step_closeBrace_cons] at hStep

theorem blank {ls : List Text} (h : Finishes c st ([] :: ls)) : Finishes c st ls := by
  have hStep := h.step
  rwa [ParserState.step_nil] at hStep

end Finishes

theorem one_le_nameWeight (name : Text) : 1 ≤ nameWeight name := Nat.le_add_right _ _

theorem one_le_targetAttrWeight (e : Text × Text) : 1 ≤ targetAttrWeight e := by
  simp only [targetAttrWeight, attrWeight]
  omega

theorem not_lost_open {c : ScstConfig} {st : ParserState} {keyword name : Text} {n : Nat}
    {ls : List Text} (h : Finishes c st (templateLine n [keyword, name, openBrace] :: ls))
    (hk : StartsLine keyword) (hQuotes : quotes keyword = 0) (hLun : keyword ≠ Keyword.lun)
    (hName : IsWord name) :
    (st.step (templateLine n [keyword, name, openBrace])).config ≠ st.config := by
  intro hSame
  have hWeight := h.not_lost
  rw [hSame, lineWeight_open n keyword hk hQuotes hLun hName] at hWeight
  have := one_le_nameWeight name
  omega

variable {c c' : ScstConfig} {below : List ParserContext}

theorem step_driver_ignored {keyword name : Text} (i n : Nat) (hk : StartsLine keyword)
    (hTarget : keyword ≠ Keyword.target) (hName : IsWord name) :
    ((⟨c', .driver i, below⟩ : ParserState).step
      (templateLine n [keyword, name, openBrace])).config = c' := by
  obtain ⟨line, hStep, hWords, -⟩ := ParserState.step_templateLine ⟨c', .driver i, below⟩ n keyword
    [name, openBrace] hk
    (by simpa using ⟨hName, by decide⟩)
  simp [hStep, ParserState.readLine, contextLine, driverLine, hWords, soleDigit, soleWord,
    blockName, hTarget]

theorem tail_root {i : Nat} {ds : List Driver} {gs : List AluaDeviceGroupConfig}
    (hds : ∀ d ∈ ds, d.Readable) (hgs : ∀ g ∈ gs, g.Readable)
    (h : Finishes c ⟨c', .driver i, below⟩
      (ds.flatMap Driver.lines ++ gs.flatMap AluaDeviceGroupConfig.lines)) :
    ds = [] ∧ gs = [] := by
  cases ds with
  | cons d ds =>
    have hName := (hds d (by simp)).name
    simp only [List.flatMap_cons, Driver.lines, List.cons_append, List.nil_append,
      List.append_assoc] at h
    exact absurd (step_driver_ignored i 0 (by decide) (by decide) hName)
      (not_lost_open h (by decide) rfl (by decide) hName)
  | nil =>
    cases gs with
    | nil => exact ⟨rfl, rfl⟩
    | cons g gs =>
      have hName := (hgs g (by simp)).name
      simp only [List.flatMap_nil, List.flatMap_cons, AluaDeviceGroupConfig.lines,
        List.cons_append, List.nil_append, List.append_assoc] at h
      exact absurd (step_driver_ignored i 0 (by decide) (by decide) hName)
        (not_lost_open h (by decide) rfl (by decide) hName)

theorem step_target_in_target (c' : ScstConfig) (below : List ParserContext) {name : Text}
    (i j n : Nat) (hName : IsWord name) :
    ∃ v, ((⟨c', .target i j, below⟩ : ParserState).step
        (templateLine n [Keyword.target, name, openBrace])).config =
          c'.modifyTarget i j (fun x => { x with attrs := x.attrs.set Keyword.target v }) ∧
      targetAttrWeight (Keyword.target, v) ≤
        lineWeight (words (templateLine n [Keyword.target, name, openBrace])) := by
  have hKey : StartsLine Keyword.target := by decide
  have hWords : words (templateLine n [Keyword.target, name, openBrace]) =
      [Keyword.target, name, openBrace] :=
    words_templateLine n (by simpa using ⟨hKey.1, hName, by decide⟩)
  have hHw : trim (templateLine n [Keyword.target, name, openBrace]) ≠ Keyword.hwTarget := by
    intro hEq
    have := congrArg words hEq
    rw [words_trim, hWords] at this
    exact absurd (congrArg List.length this) (by simp; decide)
  obtain ⟨v, hValue⟩ : ∃ v, keyValue (trim (templateLine n [Keyword.target, name, openBrace])) =
      some (Keyword.target, v) := by
    rw [templateLine_cons_pair]
    refine ⟨_, keyValue_templateLine n hKey.1 ?_ ?_⟩
    · rw [Ne, ← words_eq_nil_iff, words_append hName (by simp)]
      simp
    · -- Only white space ends a line, and the name has none.
      intro c hc
      cases hEnds : isLineTerminator c with
      | false => rfl
      | true =>
        have hSpace := isSpace_of_isLineTerminator hEnds
        rcases List.mem_append.mp hc with hc | hc
        · rw [hName.2 c hc] at hSpace
          cases hSpace
        · simp only [List.mem_cons, openBrace, List.not_mem_nil, or_false] at hc
          rcases hc with rfl | rfl
          · exact absurd hEnds (by decide)
          · exact absurd hEnds (by decide)
  have hEnabled : soleDigit Keyword.enabled [Keyword.target, name, openBrace] = none := rfl
  have hGroup : blockName Keyword.group [Keyword.target, name, openBrace] = none := by
    simp [blockName, show Keyword.target ≠ Keyword.group by decide]
  have hLun : numberedBlock Keyword.lun [Keyword.target, name, openBrace] = none := by
    simp [numberedBlock, show Keyword.target ≠ Keyword.lun by decide]
  refine ⟨unquote (trim v), ?_, ?_⟩
  · rw [ParserState.step_of_startsLine hWords hKey, ParserState.readLine_config]
    simp only [contextLine, targetLine, hHw, words_trim, hWords, hEnabled, hGroup, hLun, if_false]
    congr 1
    funext x
    simp [Target.readAttr, hValue]
  · exact targetAttrWeight_le hValue (by rw [hWords, hEnabled]) (by rw [hWords, hGroup])
      (by rw [hWords, hLun])

theorem tail_target {i j : Nat} {ts : List Target} {rest : List Text} {x y : Target}
    (hts : ∀ t ∈ ts, t.Readable) (hx : c'.target? i j = some x) (hy : c.target? i j = some y)
    (hAttrs : x.attrs = y.attrs)
    (h : Finishes c ⟨c', .target i j, below⟩ (ts.flatMap Target.lines ++ rest)) : ts = [] := by
  cases ts with
  | nil => rfl
  | cons t ts =>
    exfalso
    have hName := (hts t (by simp)).name
    simp only [List.flatMap_cons, Target.lines, List.cons_append, List.nil_append,
      List.append_assoc] at h
    obtain ⟨v, hConfig, hWeight⟩ := step_target_in_target c' below i j 1 hName
    cases hHas : x.attrs.has Keyword.target with
    | true =>
      -- The attribute is replaced, so that the line adds less than its weight.
      have hLess := Record.sum_entries_set_lt_of_has v one_le_targetAttrWeight hHas
      have hLost := h.not_lost
      rw [hConfig] at hLost
      have hTarget : ({ x with attrs := x.attrs.set Keyword.target v } : Target).weight 0 <
          x.weight 0 +
            lineWeight (words (templateLine 1 [Keyword.target, t.name, openBrace])) := by
        simp only [Target.weight]
        omega
      have := weight_modifyTarget_lt (k := 0)
        (f := fun x => { x with attrs := x.attrs.set Keyword.target v }) hx hTarget
      simp only at hLost
      omega
    | false =>
      -- The attribute is new, and stays.
      have hGrows := h.step.grows
      rw [hConfig] at hGrows
      have hNew := ScstConfig.target?_modifyTarget
        (fun x => { x with attrs := x.attrs.set Keyword.target v }) hx
      obtain ⟨z, hz, hxz⟩ := hGrows i j _ hNew
      obtain rfl : y = z := by simpa [hy] using hz
      have hKey := hxz.1 Keyword.target (Record.has_set_self v (by decide))
      rw [← hAttrs, hHas] at hKey
      simp at hKey

theorem tail_lun {lun : LunRef} {n : Nat} {ls : List Lun} {rest : List Text}
    (hls : ∀ l ∈ ls, l.Readable)
    (h : Finishes c ⟨c', .lunAttrs lun, below⟩ (ls.flatMap (Lun.lines n) ++ rest)) : ls = [] := by
  cases ls with
  | nil => rfl
  | cons l ls =>
    exfalso
    have hl := hls l (by simp)
    obtain ⟨line, lines, hLines, hWords⟩ : ∃ line lines, l.lines n = line :: lines ∧
        (words line = [Keyword.lun, l.id.toText, l.device] ∨
          words line = [Keyword.lun, l.id.toText, l.device, openBrace]) := by
      have hId := isWord_of_isDigits hl.id.1
      unfold Lun.lines
      split
      · exact ⟨_, _, rfl, Or.inr (words_templateLine n
          (by simpa using ⟨by decide, hId, hl.device, by decide⟩))⟩
      · exact ⟨_, _, rfl, Or.inl (words_templateLine n
          (by simpa using ⟨by decide, hId, hl.device⟩))⟩
    rw [List.flatMap_cons, hLines, List.cons_append, List.cons_append] at h
    have hKey : StartsLine Keyword.lun := by decide
    have hWeight : 1 ≤ lineWeight (words line) := by
      rcases hWords with hWords | hWords <;> rw [hWords] <;> simp [lineWeight] <;> omega
    -- The line sets an attribute, which has no weight.
    have hStep : ((⟨c', .lunAttrs lun, below⟩ : ParserState).step line).config =
        c'.modifyLun (Lun.readAttr (trim line)) lun := by
      rcases hWords with hWords | hWords <;>
        rw [ParserState.step_of_startsLine hWords hKey, ParserState.readLine_config] <;> rfl
    have hLost := h.not_lost
    rw [hStep] at hLost
    have hRead (x : Lun) : (x.readAttr (trim line)).weight 0 ≤ x.weight 0 + 0 := by
      have hFlag : soleWord Keyword.readOnly (words line) = none := by
        rcases hWords with hWords | hWords <;> rw [hWords] <;> rfl
      simp only [Lun.readAttr, words_trim, hFlag]
      split
      · contradiction
      · split <;> simp [Lun.weight]
    have : (c'.modifyLun (Lun.readAttr (trim line)) lun).weight 0 ≤ c'.weight 0 + 0 :=
      weight_modifyLun_le hRead lun
    simp only at hLost
    omega

theorem tail_group {i j k : Nat} {gs : List Group} {ls : List Lun} {rest : List Text}
    {x y : Group} (hgs : ∀ g ∈ gs, g.Readable) (hls : ∀ l ∈ ls, l.Readable)
    (hx : c'.group? i j k = some x) (hy : c.group? i j k = some y)
    (hLuns : x.luns.length = y.luns.length)
    (h : Finishes c ⟨c', .group i j k, below⟩
      (gs.flatMap Group.lines ++ (ls.flatMap (Lun.lines 2) ++ rest))) : gs = [] ∧ ls = [] := by
  cases gs with
  | cons g gs =>
    exfalso
    have hName := (hgs g (by simp)).name
    simp only [List.flatMap_cons, Group.lines, List.cons_append, List.nil_append,
      List.append_assoc] at h
    refine not_lost_open h (by decide) rfl (by decide) hName ?_
    obtain ⟨line, hStep, hWords, -⟩ := ParserState.step_templateLine ⟨c', .group i j k, below⟩ 2
      Keyword.group [g.name, openBrace] (by decide)
      (by simpa using ⟨hName, by decide⟩)
    simp [hStep, ParserState.readLine, contextLine, groupLine, hWords, soleWord, numberedBlock,
      show Keyword.group ≠ Keyword.lun by decide]
  | nil =>
    refine ⟨rfl, ?_⟩
    cases ls with
    | nil => rfl
    | cons l ls =>
      exfalso
      simp only [List.flatMap_nil, List.nil_append, List.flatMap_cons, List.append_assoc] at h
      -- The LUN is added to the group, which has all its LUNs already.
      have hGrows := h.run.grows
      have hRun := ParserState.run_lun (.group i j k) c' below 2 (hls l (by simp))
      have hConfig : ((⟨c', .group i j k, below⟩ : ParserState).run (l.lines 2)).config =
          c'.modifyGroup i j k (Group.addLun l.reread) := by
        rw [LunHost.context] at hRun
        rw [hRun]
        split <;> rfl
      rw [hConfig] at hGrows
      have hNew := ScstConfig.group?_modifyGroup (Group.addLun l.reread) hx
      obtain ⟨t, ht, htx⟩ := Option.bind_eq_some_iff.mp hNew
      obtain ⟨t', ht', hGrown⟩ := hGrows i j t ht
      obtain ⟨y', hy', hLe⟩ := hGrown.2 k _ htx
      have hSame : c.group? i j k = some y' := by
        rw [ScstConfig.group?, ht']
        exact hy'
      obtain rfl : y = y' := by simpa [hy] using hSame
      simp [Group.addLun] at hLe
      omega

end EsosWebui.Scst
