import EsosWebui.Scst.WrittenLines

/-! What is left of a configuration that is serialised and parsed again, as long
as every written line is read in the scope it was written for. -/
namespace EsosWebui.Scst

open Js

def Device.bodyLines (x : Device) : List Text :=
  (if x.filename = [] then [] else [templateLine 2 [Keyword.filename, x.filename]]) ++
    attrLines 2 x.attrs

def Device.reread (handler : Text) (x : Device) : Device :=
  x.bodyLines.foldl (fun y line => y.readAttr (trim line))
    { name := x.name, handler := handler, filename := [], attrs := .empty }

def Handler.reread (x : Handler) : Handler :=
  { name := x.name, devices := x.devices.map (Device.reread x.name) }

def Target.readOwnLine (line : Text) (x : Target) : Target :=
  if line = Keyword.hwTarget then { x with hwTarget := true }
  else
    match soleDigit Keyword.enabled (words line) with
    | some digit => { x with enabled := digit == '1' }
    | none => x.readAttr line

def Target.ownLines (x : Target) : List Text :=
  (if x.hwTarget then [templateLine 2 [Keyword.hwTarget]] else []) ++
    (if x.enabled then [] else [templateLine 2 [Keyword.enabled, ['0']]]) ++ attrLines 2 x.attrs

def Group.reread (x : Group) : Group := { x with luns := x.luns.map Lun.reread }

def Target.rereadOwn (driver : Text) (x : Target) : Target :=
  x.ownLines.foldl (fun y line => y.readOwnLine (trim line))
    { name := x.name, driver := driver, enabled := true, hwTarget := false, attrs := .empty,
      groups := [], luns := [] }

def Target.reread (driver : Text) (x : Target) : Target :=
  { x.rereadOwn driver with
    groups := x.groups.map Group.reread
    luns := x.luns.map Lun.reread }

def Driver.reread (x : Driver) : Driver :=
  { x with targets := x.targets.map (Target.reread x.name) }

def rereadGroupId (id : Number) : Number :=
  if id.isPositive ∧ isDigits id.toText then Number.parseInt id.toText else .int 0

def AluaTargetGroupConfig.reread (x : AluaTargetGroupConfig) : AluaTargetGroupConfig :=
  { x with groupId := rereadGroupId x.groupId }

def AluaDeviceGroupConfig.reread (x : AluaDeviceGroupConfig) : AluaDeviceGroupConfig :=
  { x with targetGroups := x.targetGroups.map AluaTargetGroupConfig.reread }

def ScstConfig.reread (c : ScstConfig) : ScstConfig :=
  { handlers := c.handlers.map Handler.reread
    drivers := c.drivers.map Driver.reread
    deviceGroups := c.deviceGroups.map AluaDeviceGroupConfig.reread }

/-- All elements but the last satisfy one predicate, the last one the other. -/
def ButLast {α : Type} (P Q : α → Prop) (l : List α) : Prop :=
  (∀ x ∈ l.dropLast, P x) ∧ ∀ x ∈ l.getLast?, Q x

/-- An attribute whose line is neither skipped nor taken for a closing brace. -/
structure AttrReadable (e : Text × Text) : Prop where
  key : IsWord e.1
  notComment : e.1.head? ≠ some '#'
  oneLine : '\n' ∉ e.2
  notClosing : e.1 = closeBrace → words e.2 ≠ []

structure TargetAttrReadable (e : Text × Text) : Prop extends AttrReadable e where
  notGroup : blockName Keyword.group (e.1 :: words e.2) = none
  notLun : numberedBlock Keyword.lun (e.1 :: words e.2) = none

structure Device.Readable (x : Device) : Prop where
  name : IsWord x.name
  filename : '\n' ∉ x.filename
  attrs : ∀ e ∈ x.attrs.entries, AttrReadable e

structure Handler.Readable (x : Handler) : Prop where
  name : IsWord x.name
  devices : ∀ d ∈ x.devices, d.Readable

structure Group.Readable (x : Group) : Prop where
  name : IsWord x.name
  initiators : ∀ i ∈ x.initiators, IsWord i
  luns : ∀ l ∈ x.luns, l.Readable

structure Target.Readable (x : Target) : Prop where
  name : IsWord x.name
  attrs : ∀ e ∈ x.attrs.entries, TargetAttrReadable e
  groups : ∀ g ∈ x.groups, g.Readable
  luns : ∀ l ∈ x.luns, l.Readable

structure Driver.Readable (x : Driver) : Prop where
  name : IsWord x.name
  targets : ∀ t ∈ x.targets, t.Readable

structure AluaTargetGroupConfig.Readable (x : AluaTargetGroupConfig) : Prop where
  name : IsWord x.name
  groupId : IsWord x.groupId.toText
  targets : ∀ t ∈ x.targets, IsWord t

structure AluaDeviceGroupConfig.Readable (x : AluaDeviceGroupConfig) : Prop where
  name : IsWord x.name
  devices : ∀ d ∈ x.devices, IsWord d
  targetGroups : ∀ t ∈ x.targetGroups, t.Readable

def Lun.Closed (x : Lun) : Prop := ¬ x.Unclosed

def Group.Closed (x : Group) : Prop := ∀ l ∈ x.luns, l.Closed

def Group.ClosedButLast (x : Group) : Prop := ButLast Lun.Closed (fun _ => True) x.luns

def Target.Closed (x : Target) : Prop := (∀ g ∈ x.groups, g.Closed) ∧ ∀ l ∈ x.luns, l.Closed

/-- No LUN of the target is left open unless its line is the last one before closing braces. -/
def Target.ClosedButLast (x : Target) : Prop :=
  if x.luns = [] then ButLast Group.Closed Group.ClosedButLast x.groups
  else (∀ g ∈ x.groups, g.Closed) ∧ ButLast Lun.Closed (fun _ => True) x.luns

def Driver.Closed (x : Driver) : Prop := ∀ t ∈ x.targets, t.Closed

def Driver.ClosedButLast (x : Driver) : Prop :=
  ButLast Target.Closed Target.ClosedButLast x.targets

/-- No LUN is left open, unless nothing but closing braces follows it in the file. -/
def ScstConfig.Closed (c : ScstConfig) : Prop :=
  if c.deviceGroups = [] then ButLast Driver.Closed Driver.ClosedButLast c.drivers
  else ∀ d ∈ c.drivers, d.Closed

/-- Every line the serialiser writes is read in the scope it is written for. -/
structure ScstConfig.ScopeSafe (c : ScstConfig) : Prop where
  handlers : ∀ h ∈ c.handlers, h.Readable
  drivers : ∀ d ∈ c.drivers, d.Readable
  deviceGroups : ∀ g ∈ c.deviceGroups, g.Readable
  closed : c.Closed

section

variable {α : Type} {P Q : α → Prop}

theorem butLast_append_singleton {l : List α} {x : α} (h : ∀ y ∈ l, P y) (hx : Q x) :
    ButLast P Q (l ++ [x]) :=
  ⟨by simpa using h, by simpa using hx⟩

theorem butLast_of_forall {l : List α} (h : ∀ y ∈ l, P y) (hPQ : ∀ y, P y → Q y) :
    ButLast P Q l :=
  ⟨fun y hy => h y (List.dropLast_subset l hy),
    fun y hy => hPQ y (h y (List.mem_of_mem_getLast? hy))⟩

end

theorem Group.Closed.closedButLast {x : Group} (h : x.Closed) : x.ClosedButLast :=
  butLast_of_forall h fun _ _ => trivial

variable {x : Target}

theorem Target.Closed.closedButLast (h : x.Closed) : x.ClosedButLast := by
  unfold Target.ClosedButLast
  split
  · exact butLast_of_forall h.1 fun _ hg => hg.closedButLast
  · exact ⟨h.1, butLast_of_forall h.2 fun _ _ => trivial⟩

theorem Driver.Closed.closedButLast {x : Driver} (h : x.Closed) : x.ClosedButLast :=
  butLast_of_forall h fun _ ht => ht.closedButLast

theorem ScstConfig.closed_of_forall {c : ScstConfig} (h : ∀ d ∈ c.drivers, d.Closed) :
    c.Closed := by
  unfold ScstConfig.Closed
  split
  · exact butLast_of_forall h fun _ hd => hd.closedButLast
  · exact h

def ReadInScope (line : Text) : Prop :=
  ∃ k ws, words line = k :: ws ∧ k.head? ≠ some '#' ∧ (k = closeBrace → ws ≠ [])

theorem ReadInScope.step_eq {line : Text} (h : ReadInScope line) (st : ParserState) :
    st.step line = st.readLine (trim line) := by
  obtain ⟨k, ws, hWords, hHash, hClose⟩ := h
  exact ParserState.step_of_words hWords hHash hClose

theorem AttrReadable.readInScope {e : Text × Text} (h : AttrReadable e) (n : Nat) :
    ReadInScope (templateLine n [e.1, e.2]) :=
  ⟨e.1, words e.2, words_templateLine_pair n h.key, h.notComment, h.notClosing⟩

theorem ReadInScope.templateLine {k : Text} {ws : List Text} (n : Nat) (hk : StartsLine k)
    (hws : ∀ w ∈ ws, IsWord w) : ReadInScope (templateLine n (k :: ws)) := by
  refine ⟨k, ws, words_templateLine n ?_, hk.2.1, fun h => absurd h hk.2.2⟩
  intro w hw
  rcases List.mem_cons.mp hw with rfl | hw
  · exact hk.1
  · exact hws w hw

theorem ButLast.cases {α : Type} {P Q : α → Prop} {l : List α} (h : ButLast P Q l) :
    l = [] ∨ ∃ init x, l = init ++ [x] ∧ (∀ y ∈ init, P y) ∧ Q x := by
  rcases List.eq_nil_or_concat l with rfl | ⟨init, x, rfl⟩
  · exact Or.inl rfl
  · refine Or.inr ⟨init, x, List.concat_eq_append .., ?_, ?_⟩
    · simpa using h.1
    · exact h.2 x (by simp)

namespace ParserState

def Closes (line : Text) : Prop := line = [] ∨ ∃ n, line = templateLine n [closeBrace]

theorem closes_templateLine (n : Nat) : ∀ l ∈ [templateLine n [closeBrace]], Closes l := by
  intro l hl
  exact Or.inr ⟨n, List.mem_singleton.mp hl⟩

theorem config_run_closes (st : ParserState) {lines : List Text} (h : ∀ l ∈ lines, Closes l) :
    (st.run lines).config = st.config := by
  induction lines generalizing st with
  | nil => rfl
  | cons line lines ih =>
    rw [run_cons, ih _ fun l hl => h l (by simp [hl])]
    rcases h line (by simp) with rfl | ⟨n, rfl⟩
    · rw [step_nil]
    · rw [step_closeBrace, pop]
      cases st.below <;> rfl

variable (c : ScstConfig) (below : List ParserContext)

private theorem run_deviceBody (h d : Nat) {lines : List Text}
    (hLines : ∀ l ∈ lines, ReadInScope l) :
    (⟨c, .device h d, below⟩ : ParserState).run lines =
      ⟨c.modifyHandler h (Handler.modifyDevice d fun x =>
        lines.foldl (fun y line => y.readAttr (trim line)) x), .device h d, below⟩ := by
  induction lines generalizing c with
  | nil =>
    simp only [List.foldl_nil, run_nil]
    rw [ScstConfig.modifyHandler_same (ScstConfig.modifyDevice_same fun _ => rfl)]
  | cons line lines ih =>
    have hStep : (⟨c, .device h d, below⟩ : ParserState).step line =
        ⟨c.modifyHandler h (Handler.modifyDevice d (Device.readAttr (trim line))),
          .device h d, below⟩ := by
      rw [(hLines line (by simp)).step_eq]
      rfl
    rw [run_cons, hStep, ih _ fun l hl => hLines l (by simp [hl]),
      ScstConfig.modifyHandler_modifyHandler, ScstConfig.modifyDevice_comp]
    rfl

theorem run_device (h : Nat) {x : Device} (hx : x.Readable) :
    (⟨c, .handler h, below⟩ : ParserState).run x.lines =
      ⟨c.modifyHandler h fun y => y.addDevice (x.reread y.name), .handler h, below⟩ := by
  have hLines : x.lines = templateLine 1 [Keyword.device, x.name, openBrace] ::
      (x.bodyLines ++ [templateLine 1 [closeBrace]]) := by
    simp [Device.lines, Device.bodyLines]
  have hBody : ∀ l ∈ x.bodyLines, ReadInScope l := by
    intro l hl
    rcases List.mem_append.mp hl with hl | hl
    · split at hl
      · simp at hl
      · obtain rfl := List.mem_singleton.mp hl
        exact ⟨Keyword.filename, words x.filename, words_templateLine_pair 2 (by decide),
          by decide, fun h => absurd h (by decide)⟩
    · obtain ⟨e, he, rfl⟩ := List.mem_map.mp hl
      exact (hx.attrs e he).readInScope 2
  rw [hLines, run_cons, step_device c below hx.name, run_append, run_deviceBody _ _ _ _ hBody,
    run_singleton, step_closeBrace_cons, ScstConfig.modifyDevice_addDevice]
  rfl

private theorem run_devices (h : Nat) {ds : List Device} (hds : ∀ d ∈ ds, d.Readable) :
    (⟨c, .handler h, below⟩ : ParserState).run (ds.flatMap Device.lines) =
      ⟨c.modifyHandler h fun y => { y with devices := y.devices ++ ds.map (Device.reread y.name) },
        .handler h, below⟩ := by
  induction ds generalizing c with
  | nil => simp [ScstConfig.modifyHandler_same]
  | cons d ds ih =>
    rw [List.flatMap_cons, run_append, run_device c below h (hds d (by simp)),
      ih _ fun x hx => hds x (by simp [hx]), ScstConfig.modifyHandler_modifyHandler]
    congr 3
    funext y
    simp [Handler.addDevice]

theorem run_handlers {hs : List Handler} (hhs : ∀ h ∈ hs, h.Readable) :
    (⟨c, .root, []⟩ : ParserState).run (hs.flatMap Handler.lines) =
      ⟨{ c with handlers := c.handlers ++ hs.map Handler.reread }, .root, []⟩ := by
  induction hs generalizing c with
  | nil => simp
  | cons x hs ih =>
    have hx := hhs x (by simp)
    have hBlock : (⟨c, .root, []⟩ : ParserState).run x.lines =
        ⟨{ c with handlers := c.handlers ++ [x.reread] }, .root, []⟩ := by
      simp only [Handler.lines, List.singleton_append, run_cons, run_append,
        step_handler c [] hx.name, run_devices _ _ _ hx.devices, step_closeBrace_cons, step_nil,
        run_nil, ScstConfig.modifyHandler_append]
      simp [Handler.reread]
    rw [List.flatMap_cons, run_append, hBlock, ih _ fun y hy => hhs y (by simp [hy])]
    simp

theorem run_luns (host : LunHost) (c : ScstConfig) (below : List ParserContext) (n : Nat)
    {ls : List Lun} (hls : ∀ l ∈ ls, l.Readable) (hClosed : ∀ l ∈ ls, l.Closed) :
    (⟨c, host.context, below⟩ : ParserState).run (ls.flatMap (Lun.lines n)) =
      ⟨ls.foldl (fun c l => host.addLun l.reread c) c, host.context, below⟩ := by
  induction ls generalizing c with
  | nil => rfl
  | cons l ls ih =>
    rw [List.flatMap_cons, run_append, run_lun host c below n (hls l (by simp)),
      if_neg (hClosed l (by simp)), ih _ (fun x hx => hls x (by simp [hx]))
        fun x hx => hClosed x (by simp [hx])]
    rfl

theorem config_run_luns (host : LunHost) (c : ScstConfig) (below : List ParserContext) (n : Nat)
    {ls : List Lun} (hls : ∀ l ∈ ls, l.Readable) (hClosed : ButLast Lun.Closed (fun _ => True) ls) :
    ((⟨c, host.context, below⟩ : ParserState).run (ls.flatMap (Lun.lines n))).config =
      ls.foldl (fun c l => host.addLun l.reread c) c := by
  rcases hClosed.cases with rfl | ⟨init, l, rfl, hInit, -⟩
  · rfl
  · rw [List.flatMap_append, run_append, run_luns host c below n
      (fun x hx => hls x (by simp [hx])) hInit, List.flatMap_singleton,
      run_lun host _ below n (hls l (by simp)), List.foldl_append]
    split <;> rfl

variable (d t : Nat)

theorem foldl_addLun_target (ls : List Lun) :
    ls.foldl (fun c l => (LunHost.target d t).addLun l.reread c) c =
      c.modifyTarget d t fun x => { x with luns := x.luns ++ ls.map Lun.reread } := by
  induction ls generalizing c with
  | nil => simp [ScstConfig.modifyTarget_same]
  | cons l ls ih =>
    rw [List.foldl_cons, ih, LunHost.addLun, ScstConfig.modifyTarget_modifyTarget]
    congr 1
    funext x
    simp [Target.addLun]

theorem foldl_addLun_group (d t g : Nat) (ls : List Lun) :
    ls.foldl (fun c l => (LunHost.group d t g).addLun l.reread c) c =
      c.modifyGroup d t g fun x => { x with luns := x.luns ++ ls.map Lun.reread } := by
  induction ls generalizing c with
  | nil => simp [ScstConfig.modifyGroup_same]
  | cons l ls ih =>
    rw [List.foldl_cons, ih, LunHost.addLun, ScstConfig.modifyGroup_modifyGroup]
    congr 1
    funext x
    simp [Group.addLun]

section

variable (c : ScstConfig) (below : List ParserContext) (d t : Nat) {ls : List Lun}
  (hls : ∀ l ∈ ls, l.Readable)
include hls

theorem run_targetLuns (hClosed : ∀ l ∈ ls, l.Closed) :
    (⟨c, .target d t, below⟩ : ParserState).run (ls.flatMap (Lun.lines 2)) =
      ⟨c.modifyTarget d t fun x => { x with luns := x.luns ++ ls.map Lun.reread },
        .target d t, below⟩ := by
  rw [← foldl_addLun_target]
  exact run_luns (.target d t) c below 2 hls hClosed

private theorem config_run_targetLuns (hClosed : ButLast Lun.Closed (fun _ => True) ls) :
    ((⟨c, .target d t, below⟩ : ParserState).run (ls.flatMap (Lun.lines 2))).config =
      c.modifyTarget d t fun x => { x with luns := x.luns ++ ls.map Lun.reread } := by
  rw [← foldl_addLun_target]
  exact config_run_luns (.target d t) c below 2 hls hClosed

theorem run_groupLuns (g : Nat) (hClosed : ∀ l ∈ ls, l.Closed) :
    (⟨c, .group d t g, below⟩ : ParserState).run (ls.flatMap (Lun.lines 3)) =
      ⟨c.modifyGroup d t g fun x => { x with luns := x.luns ++ ls.map Lun.reread },
        .group d t g, below⟩ := by
  rw [← foldl_addLun_group]
  exact run_luns (.group d t g) c below 3 hls hClosed

private theorem config_run_groupLuns (g : Nat) (hClosed : ButLast Lun.Closed (fun _ => True) ls) :
    ((⟨c, .group d t g, below⟩ : ParserState).run (ls.flatMap (Lun.lines 3))).config =
      c.modifyGroup d t g fun x => { x with luns := x.luns ++ ls.map Lun.reread } := by
  rw [← foldl_addLun_group]
  exact config_run_luns (.group d t g) c below 3 hls hClosed

end

private theorem run_initiators (d t g : Nat) {is : List Text} (his : ∀ i ∈ is, IsWord i) :
    (⟨c, .group d t g, below⟩ : ParserState).run
        (is.map fun i => templateLine 3 [Keyword.initiator, i]) =
      ⟨c.modifyGroup d t g fun x => { x with initiators := x.initiators ++ is },
        .group d t g, below⟩ := by
  induction is generalizing c with
  | nil => simp [ScstConfig.modifyGroup_same]
  | cons i is ih =>
    rw [List.map_cons, run_cons, step_initiator c below (his i (by simp)),
      ih _ fun x hx => his x (by simp [hx]), ScstConfig.modifyGroup_modifyGroup]
    congr 2
    funext x
    simp [Group.addInitiator]

theorem run_groupHead {x : Group} (hx : x.Readable) :
    (⟨c, .target d t, below⟩ : ParserState).run
        (templateLine 2 [Keyword.group, x.name, openBrace] ::
          x.initiators.map fun i => templateLine 3 [Keyword.initiator, i]) =
      ⟨c.modifyTarget d t (Target.addGroup { x with luns := [] }),
        .group d t (c.groupCount d t), .target d t :: below⟩ := by
  rw [run_cons, step_group c below hx.name, run_initiators _ _ _ _ _ hx.initiators,
    ScstConfig.modifyGroup_addGroup]
  simp

theorem group_lines (x : Group) :
    x.lines = (templateLine 2 [Keyword.group, x.name, openBrace] ::
      x.initiators.map fun i => templateLine 3 [Keyword.initiator, i]) ++
      (x.luns.flatMap (Lun.lines 3) ++ [templateLine 2 [closeBrace]]) := by
  simp [Group.lines]

theorem run_group {x : Group} (hx : x.Readable) (hClosed : x.Closed) :
    (⟨c, .target d t, below⟩ : ParserState).run x.lines =
      ⟨c.modifyTarget d t (Target.addGroup x.reread), .target d t, below⟩ := by
  rw [group_lines, run_append, run_groupHead c below d t hx, run_append,
    run_groupLuns _ _ _ _ hx.luns _ hClosed, ScstConfig.modifyGroup_addGroup, run_singleton,
    step_closeBrace_cons]
  simp [Group.reread]

theorem config_run_group {x : Group} (hx : x.Readable) (hClosed : x.ClosedButLast) :
    ((⟨c, .target d t, below⟩ : ParserState).run x.lines).config =
      c.modifyTarget d t (Target.addGroup x.reread) := by
  rw [group_lines, run_append, run_groupHead c below d t hx, run_append,
    config_run_closes _ (closes_templateLine 2), config_run_groupLuns _ _ _ _ hx.luns _ hClosed,
    ScstConfig.modifyGroup_addGroup]
  simp [Group.reread]

theorem run_groups {gs : List Group} (hgs : ∀ g ∈ gs, g.Readable) (hClosed : ∀ g ∈ gs, g.Closed) :
    (⟨c, .target d t, below⟩ : ParserState).run (gs.flatMap Group.lines) =
      ⟨c.modifyTarget d t fun x => { x with groups := x.groups ++ gs.map Group.reread },
        .target d t, below⟩ := by
  induction gs generalizing c with
  | nil => simp [ScstConfig.modifyTarget_same]
  | cons g gs ih =>
    rw [List.flatMap_cons, run_append,
      run_group c below d t (hgs g (by simp)) (hClosed g (by simp)),
      ih _ (fun x hx => hgs x (by simp [hx])) fun x hx => hClosed x (by simp [hx]),
      ScstConfig.modifyTarget_modifyTarget]
    congr 2
    funext x
    simp [Target.addGroup]

private theorem config_run_groups {gs : List Group} (hgs : ∀ g ∈ gs, g.Readable)
    (hClosed : ButLast Group.Closed Group.ClosedButLast gs) :
    ((⟨c, .target d t, below⟩ : ParserState).run (gs.flatMap Group.lines)).config =
      c.modifyTarget d t fun x => { x with groups := x.groups ++ gs.map Group.reread } := by
  rcases hClosed.cases with rfl | ⟨init, g, rfl, hInit, hLast⟩
  · simp [ScstConfig.modifyTarget_same]
  · rw [List.flatMap_append, run_append,
      run_groups c below d t (fun x hx => hgs x (by simp [hx])) hInit, List.flatMap_singleton,
      config_run_group _ below d t (hgs g (by simp)) hLast, ScstConfig.modifyTarget_modifyTarget]
    congr 1
    funext x
    simp [Target.addGroup]

def OwnLine (line : Text) : Prop :=
  ReadInScope line ∧ blockName Keyword.group (words line) = none ∧
    numberedBlock Keyword.lun (words line) = none

private theorem run_ownLines {lines : List Text} (hLines : ∀ l ∈ lines, OwnLine l) :
    (⟨c, .target d t, below⟩ : ParserState).run lines =
      ⟨c.modifyTarget d t fun x => lines.foldl (fun y line => y.readOwnLine (trim line)) x,
        .target d t, below⟩ := by
  induction lines generalizing c with
  | nil =>
    simp only [List.foldl_nil, run_nil]
    rw [ScstConfig.modifyTarget_same fun _ => rfl]
  | cons line lines ih =>
    obtain ⟨hScope, hGroup, hLun⟩ := hLines line (by simp)
    have hRead : contextLine (.target d t) c (trim line) =
        (c.modifyTarget d t (Target.readOwnLine (trim line)), none) := by
      by_cases hHw : trim line = Keyword.hwTarget
      · simp only [contextLine, targetLine, hHw, if_true]
        congr 2
      · cases hEnabled : soleDigit Keyword.enabled (words line) with
        | some digit =>
          simp only [contextLine, targetLine, hHw, hEnabled, words_trim, if_false]
          congr 2
          funext x
          simp [Target.readOwnLine, hHw, hEnabled]
        | none =>
          simp only [contextLine, targetLine, hHw, hEnabled, words_trim, hGroup, hLun, if_false]
          congr 2
          funext x
          simp [Target.readOwnLine, hHw, hEnabled]
    have hStep : (⟨c, .target d t, below⟩ : ParserState).step line =
        ⟨c.modifyTarget d t (Target.readOwnLine (trim line)), .target d t, below⟩ := by
      rw [hScope.step_eq, readLine, hRead]
    rw [run_cons, hStep, ih _ fun l hl => hLines l (by simp [hl]),
      ScstConfig.modifyTarget_modifyTarget]
    rfl

theorem ownLine_of_mem (hAttrs : ∀ e ∈ x.attrs.entries, TargetAttrReadable e) :
    ∀ l ∈ x.ownLines, OwnLine l := by
  intro l hl
  simp only [Target.ownLines, List.mem_append] at hl
  rcases hl with (hl | hl) | hl
  · split at hl
    · obtain rfl := List.mem_singleton.mp hl
      have hWords : words (templateLine 2 [Keyword.hwTarget]) = [Keyword.hwTarget] :=
        words_templateLine 2 (by decide)
      refine ⟨ReadInScope.templateLine 2 (by decide) (by simp), ?_, ?_⟩ <;> rw [hWords] <;> rfl
    · simp at hl
  · split at hl
    · simp at hl
    · obtain rfl := List.mem_singleton.mp hl
      have hWords : words (templateLine 2 [Keyword.enabled, ['0']]) = [Keyword.enabled, ['0']] :=
        words_templateLine 2 (by decide)
      refine ⟨ReadInScope.templateLine 2 (by decide) (by decide), ?_, ?_⟩ <;> rw [hWords] <;>
        decide
  · obtain ⟨e, he, rfl⟩ := List.mem_map.mp hl
    have hAttr := hAttrs e he
    refine ⟨hAttr.toAttrReadable.readInScope 2, ?_, ?_⟩ <;>
      rw [words_templateLine_pair 2 hAttr.key]
    · exact hAttr.notGroup
    · exact hAttr.notLun

theorem target_lines (x : Target) :
    x.lines = (templateLine 1 [Keyword.target, x.name, openBrace] :: x.ownLines) ++
      (x.groups.flatMap Group.lines ++
        (x.luns.flatMap (Lun.lines 2) ++ [templateLine 1 [closeBrace]])) := by
  simp [Target.lines, Target.ownLines]

theorem run_targetHead (d : Nat) (hx : x.Readable) :
    (⟨c, .driver d, below⟩ : ParserState).run
        (templateLine 1 [Keyword.target, x.name, openBrace] :: x.ownLines) =
      ⟨c.modifyDriver d fun y => y.addTarget (x.rereadOwn y.name),
        .target d (c.targetCount d), .driver d :: below⟩ := by
  rw [run_cons, step_target c below hx.name, run_ownLines _ _ _ _ (ownLine_of_mem hx.attrs),
    ScstConfig.modifyTarget_addTarget]
  rfl

theorem readOwnLine_lists (line : Text) (x : Target) :
    (x.readOwnLine line).groups = x.groups ∧ (x.readOwnLine line).luns = x.luns := by
  unfold Target.readOwnLine Target.readAttr
  split
  · exact ⟨rfl, rfl⟩
  · split
    · exact ⟨rfl, rfl⟩
    · split <;> exact ⟨rfl, rfl⟩

theorem rereadOwn_lists (driver : Text) (x : Target) :
    (x.rereadOwn driver).groups = [] ∧ (x.rereadOwn driver).luns = [] := by
  have hFold (lines : List Text) (y : Target) :
      (lines.foldl (fun y line => y.readOwnLine (trim line)) y).groups = y.groups ∧
        (lines.foldl (fun y line => y.readOwnLine (trim line)) y).luns = y.luns := by
    induction lines generalizing y with
    | nil => exact ⟨rfl, rfl⟩
    | cons line lines ih =>
      rw [List.foldl_cons, (ih _).1, (ih _).2]
      exact readOwnLine_lists _ y
  exact hFold x.ownLines _

private theorem reread_eq (driver : Text) (x : Target) :
    x.reread driver =
      { x.rereadOwn driver with
        groups := (x.rereadOwn driver).groups ++ x.groups.map Group.reread
        luns := (x.rereadOwn driver).luns ++ x.luns.map Lun.reread } := by
  rw [(rereadOwn_lists driver x).1, (rereadOwn_lists driver x).2]
  rfl

theorem run_target (d : Nat) (hx : x.Readable) (hClosed : x.Closed) :
    (⟨c, .driver d, below⟩ : ParserState).run x.lines =
      ⟨c.modifyDriver d fun y => y.addTarget (x.reread y.name), .driver d, below⟩ := by
  rw [target_lines, run_append, run_targetHead c below d hx, run_append,
    run_groups _ _ _ _ hx.groups hClosed.1, run_append, run_targetLuns _ _ _ _ hx.luns hClosed.2,
    ScstConfig.modifyTarget_modifyTarget, ScstConfig.modifyTarget_addTarget, run_singleton,
    step_closeBrace_cons]
  simp only [reread_eq]
  rfl

theorem config_run_target (d : Nat) (hx : x.Readable) (hClosed : x.ClosedButLast) :
    ((⟨c, .driver d, below⟩ : ParserState).run x.lines).config =
      c.modifyDriver d fun y => y.addTarget (x.reread y.name) := by
  rw [target_lines, run_append, run_targetHead c below d hx, run_append, run_append,
    config_run_closes _ (closes_templateLine 1)]
  simp only [reread_eq]
  unfold Target.ClosedButLast at hClosed
  split at hClosed
  · rename_i hLuns
    rw [hLuns, List.flatMap_nil, run_nil, config_run_groups _ _ _ _ hx.groups hClosed,
      ScstConfig.modifyTarget_addTarget]
    simp
  · rw [run_groups _ _ _ _ hx.groups hClosed.1, config_run_targetLuns _ _ _ _ hx.luns hClosed.2,
      ScstConfig.modifyTarget_modifyTarget, ScstConfig.modifyTarget_addTarget]
    rfl

theorem run_targets (d : Nat) {ts : List Target} (hts : ∀ t ∈ ts, t.Readable)
    (hClosed : ∀ t ∈ ts, t.Closed) :
    (⟨c, .driver d, below⟩ : ParserState).run (ts.flatMap Target.lines) =
      ⟨c.modifyDriver d fun y => { y with targets := y.targets ++ ts.map (Target.reread y.name) },
        .driver d, below⟩ := by
  induction ts generalizing c with
  | nil => simp [ScstConfig.modifyDriver_same]
  | cons t ts ih =>
    rw [List.flatMap_cons, run_append,
      run_target c below d (hts t (by simp)) (hClosed t (by simp)),
      ih _ (fun x hx => hts x (by simp [hx])) fun x hx => hClosed x (by simp [hx]),
      ScstConfig.modifyDriver_modifyDriver]
    congr 2
    funext y
    simp [Driver.addTarget]

private theorem config_run_targets (d : Nat) {ts : List Target} (hts : ∀ t ∈ ts, t.Readable)
    (hClosed : ButLast Target.Closed Target.ClosedButLast ts) :
    ((⟨c, .driver d, below⟩ : ParserState).run (ts.flatMap Target.lines)).config =
      c.modifyDriver d fun y => { y with
        targets := y.targets ++ ts.map (Target.reread y.name) } := by
  rcases hClosed.cases with rfl | ⟨init, t, rfl, hInit, hLast⟩
  · simp [ScstConfig.modifyDriver_same]
  · rw [List.flatMap_append, run_append,
      run_targets c below d (fun x hx => hts x (by simp [hx])) hInit, List.flatMap_singleton,
      config_run_target _ below d (hts t (by simp)) hLast, ScstConfig.modifyDriver_modifyDriver]
    congr 1
    funext y
    simp [Driver.addTarget]

theorem driver_lines (x : Driver) :
    x.lines = (templateLine 0 [Keyword.targetDriver, x.name, openBrace] ::
        if x.enabled then [] else [templateLine 1 [Keyword.enabled, ['0']]]) ++
      (x.targets.flatMap Target.lines ++ [templateLine 0 [closeBrace], []]) := by
  simp [Driver.lines]

theorem run_driverHead {x : Driver} (hx : x.Readable) :
    (⟨c, .root, []⟩ : ParserState).run
        (templateLine 0 [Keyword.targetDriver, x.name, openBrace] ::
          if x.enabled then [] else [templateLine 1 [Keyword.enabled, ['0']]]) =
      ⟨{ c with drivers := c.drivers ++ [{ x with targets := [] }] },
        .driver c.drivers.length, [.root]⟩ := by
  rw [run_cons, step_targetDriver c [] hx.name]
  cases hEnabled : x.enabled with
  | true => simp
  | false =>
    simp only [Bool.false_eq_true, if_false, run_singleton, step_driverEnabled,
      ScstConfig.modifyDriver_append]

theorem run_driver {x : Driver} (hx : x.Readable) (hClosed : x.Closed) :
    (⟨c, .root, []⟩ : ParserState).run x.lines =
      ⟨{ c with drivers := c.drivers ++ [x.reread] }, .root, []⟩ := by
  rw [driver_lines, run_append, run_driverHead c hx, run_append,
    run_targets _ _ _ hx.targets hClosed, ScstConfig.modifyDriver_append, run_cons,
    step_closeBrace_cons, run_singleton, step_nil]
  simp [Driver.reread]

theorem config_run_driver {x : Driver} (hx : x.Readable) (hClosed : x.ClosedButLast) :
    ((⟨c, .root, []⟩ : ParserState).run x.lines).config =
      { c with drivers := c.drivers ++ [x.reread] } := by
  have hClose : ∀ l ∈ [templateLine 0 [closeBrace], []], Closes l := by
    intro l hl
    rcases List.mem_cons.mp hl with rfl | hl
    · exact Or.inr ⟨0, rfl⟩
    · exact Or.inl (List.mem_singleton.mp hl)
  rw [driver_lines, run_append, run_driverHead c hx, run_append, config_run_closes _ hClose,
    config_run_targets _ _ _ hx.targets hClosed, ScstConfig.modifyDriver_append]
  simp [Driver.reread]

theorem run_drivers {ds : List Driver} (hds : ∀ d ∈ ds, d.Readable) (hClosed : ∀ d ∈ ds, d.Closed) :
    (⟨c, .root, []⟩ : ParserState).run (ds.flatMap Driver.lines) =
      ⟨{ c with drivers := c.drivers ++ ds.map Driver.reread }, .root, []⟩ := by
  induction ds generalizing c with
  | nil => simp
  | cons d ds ih =>
    rw [List.flatMap_cons, run_append, run_driver c (hds d (by simp)) (hClosed d (by simp)),
      ih _ (fun x hx => hds x (by simp [hx])) fun x hx => hClosed x (by simp [hx])]
    simp

theorem config_run_drivers {ds : List Driver} (hds : ∀ d ∈ ds, d.Readable)
    (hClosed : ButLast Driver.Closed Driver.ClosedButLast ds) :
    ((⟨c, .root, []⟩ : ParserState).run (ds.flatMap Driver.lines)).config =
      { c with drivers := c.drivers ++ ds.map Driver.reread } := by
  rcases hClosed.cases with rfl | ⟨init, d, rfl, hInit, hLast⟩
  · simp
  · rw [List.flatMap_append, run_append, run_drivers c (fun x hx => hds x (by simp [hx])) hInit,
      List.flatMap_singleton, config_run_driver _ (hds d (by simp)) hLast]
    simp

private theorem run_aluaTargets (g t : Nat) {ts : List Text} (hts : ∀ x ∈ ts, IsWord x) :
    (⟨c, .aluaTargetGroup g t, below⟩ : ParserState).run
        (ts.map fun x => templateLine 2 [Keyword.target, x]) =
      ⟨c.modifyDeviceGroup g (AluaDeviceGroupConfig.modifyTargetGroup t fun x =>
        { x with targets := x.targets ++ ts }), .aluaTargetGroup g t, below⟩ := by
  induction ts generalizing c with
  | nil =>
    simp only [List.map_nil, run_nil]
    rw [ScstConfig.modifyDeviceGroup_same (ScstConfig.modifyTargetGroup_same fun _ => by simp)]
  | cons x ts ih =>
    rw [List.map_cons, run_cons, step_aluaTarget c below (hts x (by simp)),
      ih _ fun y hy => hts y (by simp [hy]), ScstConfig.modifyDeviceGroup_modifyDeviceGroup,
      ScstConfig.modifyTargetGroup_comp]
    congr 3
    funext y
    simp

private theorem run_groupId (g : Nat) {x : AluaTargetGroupConfig} (hx : x.Readable) :
    (⟨c.modifyDeviceGroup g
        (AluaDeviceGroupConfig.addTargetGroup { name := x.name, groupId := .int 0, targets := [] }),
      .aluaTargetGroup g (c.targetGroupCount g), below⟩ : ParserState).run
        (if x.groupId.isPositive then [templateLine 2 [Keyword.groupId, x.groupId.toText]]
          else []) =
      ⟨c.modifyDeviceGroup g (AluaDeviceGroupConfig.addTargetGroup
        { name := x.name, groupId := rereadGroupId x.groupId, targets := [] }),
      .aluaTargetGroup g (c.targetGroupCount g), below⟩ := by
  unfold rereadGroupId
  cases hPos : x.groupId.isPositive with
  | false => simp
  | true =>
    simp only [if_true, run_singleton, step_groupId _ _ _ _ _ hx.groupId,
      ScstConfig.modifyTargetGroup_addTargetGroup, true_and]
    split <;> rfl

theorem run_targetGroup (g : Nat) {x : AluaTargetGroupConfig} (hx : x.Readable) :
    (⟨c, .deviceGroup g, below⟩ : ParserState).run x.lines =
      ⟨c.modifyDeviceGroup g (AluaDeviceGroupConfig.addTargetGroup x.reread),
        .deviceGroup g, below⟩ := by
  simp only [AluaTargetGroupConfig.lines, List.append_assoc, run_append, run_singleton]
  rw [step_targetGroup c below hx.name, run_groupId _ _ _ hx, run_aluaTargets _ _ _ _ hx.targets,
    ScstConfig.modifyTargetGroup_addTargetGroup, step_closeBrace_cons]
  simp [AluaTargetGroupConfig.reread]

private theorem run_targetGroups (g : Nat) {ts : List AluaTargetGroupConfig}
    (hts : ∀ t ∈ ts, t.Readable) :
    (⟨c, .deviceGroup g, below⟩ : ParserState).run (ts.flatMap AluaTargetGroupConfig.lines) =
      ⟨c.modifyDeviceGroup g fun x =>
        { x with targetGroups := x.targetGroups ++ ts.map AluaTargetGroupConfig.reread },
        .deviceGroup g, below⟩ := by
  induction ts generalizing c with
  | nil => simp [ScstConfig.modifyDeviceGroup_same]
  | cons t ts ih =>
    rw [List.flatMap_cons, run_append, run_targetGroup c below g (hts t (by simp)),
      ih _ fun x hx => hts x (by simp [hx]), ScstConfig.modifyDeviceGroup_modifyDeviceGroup]
    congr 2
    funext x
    simp [AluaDeviceGroupConfig.addTargetGroup]

private theorem run_deviceRefs (g : Nat) {ds : List Text} (hds : ∀ d ∈ ds, IsWord d) :
    (⟨c, .deviceGroup g, below⟩ : ParserState).run
        (ds.map fun d => templateLine 1 [Keyword.device, d]) =
      ⟨c.modifyDeviceGroup g fun x => { x with devices := x.devices ++ ds },
        .deviceGroup g, below⟩ := by
  induction ds generalizing c with
  | nil => simp [ScstConfig.modifyDeviceGroup_same]
  | cons d ds ih =>
    rw [List.map_cons, run_cons, step_deviceRef c below (hds d (by simp)),
      ih _ fun x hx => hds x (by simp [hx]), ScstConfig.modifyDeviceGroup_modifyDeviceGroup]
    congr 2
    funext x
    simp

theorem run_deviceGroup {x : AluaDeviceGroupConfig} (hx : x.Readable) :
    (⟨c, .root, []⟩ : ParserState).run x.lines =
      ⟨{ c with deviceGroups := c.deviceGroups ++ [x.reread] }, .root, []⟩ := by
  simp only [AluaDeviceGroupConfig.lines, run_append, run_cons, run_nil]
  rw [step_deviceGroup c [] hx.name, run_deviceRefs _ _ _ hx.devices,
    run_targetGroups _ _ _ hx.targetGroups, step_closeBrace_cons, step_nil,
    ScstConfig.modifyDeviceGroup_append, ScstConfig.modifyDeviceGroup_append]
  simp [AluaDeviceGroupConfig.reread]

theorem run_deviceGroups {gs : List AluaDeviceGroupConfig} (hgs : ∀ g ∈ gs, g.Readable) :
    (⟨c, .root, []⟩ : ParserState).run (gs.flatMap AluaDeviceGroupConfig.lines) =
      ⟨{ c with deviceGroups := c.deviceGroups ++ gs.map AluaDeviceGroupConfig.reread },
        .root, []⟩ := by
  induction gs generalizing c with
  | nil => simp
  | cons g gs ih =>
    rw [List.flatMap_cons, run_append, run_deviceGroup c (hgs g (by simp)),
      ih _ fun x hx => hgs x (by simp [hx])]
    simp

theorem config_run_lines {c : ScstConfig} (h : c.ScopeSafe) :
    (initial.run c.lines).config = c.reread := by
  have hClosed := h.closed
  rw [ScstConfig.lines, initial, run_append, run_append, run_handlers _ h.handlers]
  unfold ScstConfig.Closed at hClosed
  split at hClosed
  · rename_i hGroups
    rw [hGroups, List.flatMap_nil, run_nil, config_run_drivers _ h.drivers hClosed]
    simp [ScstConfig.reread, ScstConfig.empty, hGroups]
  · rw [run_drivers _ h.drivers hClosed, run_deviceGroups _ h.deviceGroups]
    simp [ScstConfig.reread, ScstConfig.empty]

end ParserState

end EsosWebui.Scst
