import EsosWebui.Js.Scan
import EsosWebui.Scst.File

/-! Blocks of a kind that the parser does not know. Their opening line opens no
scope, but their closing brace closes the scope around them, so that they are
skipped only where no scope is open. -/
namespace EsosWebui.Scst

open Js

/-- Lines that the parser does not look at. -/
def isSkipped (line : Text) : Bool := (trim line).isEmpty || (trim line).head? == some '#'

def opensBlock (line : Text) : Bool := !isSkipped line && endsWithBrace (trim line)

def closesBlock (line : Text) : Bool := trim line == closeBrace

/-- The first words of the lines that are read in a scope. -/
def ParserContext.keywords : ParserContext → List Text
  | .root => [Keyword.handler, Keyword.targetDriver, Keyword.deviceGroup]
  | .handler _ => [Keyword.device]
  | .driver _ => [Keyword.enabled, Keyword.target]
  | .deviceGroup _ => [Keyword.device, Keyword.targetGroup]
  | .device _ _ => [Keyword.filename]
  | .target _ _ => [Keyword.hwTarget, Keyword.enabled, Keyword.group, Keyword.lun]
  | .aluaTargetGroup _ _ => [Keyword.groupId, Keyword.target]
  | .group _ _ _ => [Keyword.initiator, Keyword.lun]
  | .lunAttrs _ => [Keyword.readOnly]

/-- A block that opens with a word its scope does not know. -/
structure UnknownBlock (ctx : ParserContext) where
  head : Text
  body : List Text
  close : Text
  opens : opensBlock head = true
  unknown : ∀ word ∈ (words head).head?, word ∉ ctx.keywords
  balanced : Js.Balanced opensBlock closesBlock body
  closes : closesBlock close = true
  oneLine : ∀ line ∈ head :: (body ++ [close]), OneLine line

def UnknownBlock.lines {ctx : ParserContext} (b : UnknownBlock ctx) : List Text :=
  b.head :: (b.body ++ [b.close])

/-- The line starts a handler, a driver or a device group wherever no scope is open. -/
def namesRootEntry (line : Text) : Bool :=
  ParserContext.root.keywords.any fun keyword => (blockName keyword (words line)).isSome

def ScstConfig.rootEntries (c : ScstConfig) : Nat :=
  c.handlers.length + c.drivers.length + c.deviceGroups.length

section

variable {c : ScstConfig} {ctx ctx' : ParserContext} {line : Text}

theorem head?_of_blockName {keyword name : Text} (h : blockName keyword (words line) = some name) :
    (words line).head? = some keyword := by
  rcases blockName_eq_some.mp h with h | h <;> rw [h] <;> rfl

theorem head?_of_numberedBlock {keyword : Text} {p : Text × Text}
    (h : numberedBlock keyword (words line) = some p) : (words line).head? = some keyword := by
  rcases (numberedBlock_eq_some.mp h).2 with h | h <;> rw [h] <;> rfl

private theorem opens_known {ctx₀ : ParserContext} {keyword : Text}
    (h : opens line ctx₀ = some ctx') (hRoot : ctx₀ ≠ .root)
    (hHead : (words line).head? = some keyword) (hKnown : keyword ∈ ctx.keywords) :
    endsWithBrace line = true ∧ ctx' ≠ .root ∧ ∃ word ∈ (words line).head?, word ∈ ctx.keywords := by
  unfold opens at h
  split at h
  · rename_i hBrace
    exact ⟨hBrace, Option.some.inj h ▸ hRoot, keyword, hHead, hKnown⟩
  · cases h

theorem contextLine_opens (h : (contextLine ctx c line).2 = some ctx') :
    endsWithBrace line = true ∧ ctx' ≠ .root ∧
      ∃ word ∈ (words line).head?, word ∈ ctx.keywords := by
  cases ctx with
  | root =>
    simp only [contextLine, rootLine] at h
    split at h
    · rename_i hName
      exact opens_known h (by simp) (head?_of_blockName hName) (by simp [ParserContext.keywords])
    · split at h
      · rename_i hName
        exact opens_known h (by simp) (head?_of_blockName hName) (by simp [ParserContext.keywords])
      · split at h
        · rename_i hName
          exact opens_known h (by simp) (head?_of_blockName hName) (by simp [ParserContext.keywords])
        · cases h
  | handler i =>
    simp only [contextLine, handlerLine] at h
    split at h
    · rename_i hName
      exact opens_known h (by simp) (head?_of_blockName hName) (by simp [ParserContext.keywords])
    · cases h
  | driver i =>
    simp only [contextLine, driverLine] at h
    split at h
    · cases h
    · split at h
      · rename_i hName
        exact opens_known h (by simp) (head?_of_blockName hName) (by simp [ParserContext.keywords])
      · cases h
  | deviceGroup i =>
    simp only [contextLine, deviceGroupLine] at h
    split at h
    · cases h
    · split at h
      · rename_i hName
        exact opens_known h (by simp) (head?_of_blockName hName) (by simp [ParserContext.keywords])
      · cases h
  | device i d => cases h
  | target d t =>
    simp only [contextLine, targetLine] at h
    split at h
    · cases h
    · split at h
      · cases h
      · split at h
        · rename_i hName
          exact opens_known h (by simp) (head?_of_blockName hName) (by simp [ParserContext.keywords])
        · split at h
          · rename_i hName
            exact opens_known h (by simp) (head?_of_numberedBlock hName) (by simp [ParserContext.keywords])
          · cases h
  | aluaTargetGroup g t =>
    simp only [contextLine, aluaTargetGroupLine] at h
    split at h
    · cases h
    · split at h <;> cases h
  | group d t g =>
    simp only [contextLine, groupLine] at h
    split at h
    · cases h
    · split at h
      · rename_i hName
        exact opens_known h (by simp) (head?_of_numberedBlock hName) (by simp [ParserContext.keywords])
      · cases h
  | lunAttrs lun => cases h

theorem rootLine_of_not_names (h : namesRootEntry line = false) : rootLine c line = (c, none) := by
  simp only [namesRootEntry, ParserContext.keywords, List.any_cons, List.any_nil, Bool.or_false,
    Bool.or_eq_false_iff, Option.isSome_eq_false_iff, Option.isNone_iff_eq_none] at h
  obtain ⟨hHandler, hDriver, hGroup⟩ := h
  simp [rootLine, hHandler, hDriver, hGroup]

theorem rootEntries_rootLine (h : namesRootEntry line) :
    (rootLine c line).1.rootEntries = c.rootEntries + 1 := by
  unfold rootLine
  split
  · simp only [ScstConfig.rootEntries, List.length_append, List.length_singleton]
    omega
  · split
    · simp only [ScstConfig.rootEntries, List.length_append, List.length_singleton]
      omega
    · split
      · simp only [ScstConfig.rootEntries, List.length_append, List.length_singleton]
        omega
      · simp_all [namesRootEntry, ParserContext.keywords]

/-- In a scope, no line starts a handler, a driver or a device group. -/
theorem rootEntries_contextLine (h : ctx ≠ .root) :
    (contextLine ctx c line).1.rootEntries = c.rootEntries := by
  cases ctx with
  | root => exact absurd rfl h
  | handler i =>
    simp only [contextLine, handlerLine]
    split <;> simp [ScstConfig.rootEntries, ScstConfig.modifyHandler]
  | driver i =>
    simp only [contextLine, driverLine]
    split
    · simp [ScstConfig.rootEntries, ScstConfig.modifyDriver]
    · split <;> simp [ScstConfig.rootEntries, ScstConfig.modifyDriver]
  | deviceGroup i =>
    simp only [contextLine, deviceGroupLine]
    split
    · simp [ScstConfig.rootEntries, ScstConfig.modifyDeviceGroup]
    · split <;> simp [ScstConfig.rootEntries, ScstConfig.modifyDeviceGroup]
  | device i d => simp [contextLine, deviceLine, ScstConfig.rootEntries, ScstConfig.modifyHandler]
  | target d t =>
    have hTarget (f : Target → Target) : (c.modifyTarget d t f).rootEntries = c.rootEntries := by
      simp [ScstConfig.rootEntries, ScstConfig.modifyTarget, ScstConfig.modifyDriver]
    simp only [contextLine, targetLine]
    split
    · exact hTarget _
    · split
      · exact hTarget _
      · split
        · exact hTarget _
        · split <;> exact hTarget _
  | aluaTargetGroup g t =>
    simp only [contextLine, aluaTargetGroupLine]
    split
    · simp [ScstConfig.rootEntries, ScstConfig.modifyDeviceGroup]
    · split <;> simp [ScstConfig.rootEntries, ScstConfig.modifyDeviceGroup]
  | group d t g =>
    have hGroup (f : Group → Group) : (c.modifyGroup d t g f).rootEntries = c.rootEntries := by
      simp [ScstConfig.rootEntries, ScstConfig.modifyGroup, ScstConfig.modifyTarget,
        ScstConfig.modifyDriver]
    simp only [contextLine, groupLine]
    split
    · exact hGroup _
    · split
      · exact hGroup _
      · rfl
  | lunAttrs lun =>
    cases lun with
    | ofTarget d t l =>
      simp [contextLine, lunAttrsLine, ScstConfig.modifyLun, ScstConfig.rootEntries,
        ScstConfig.modifyTarget, ScstConfig.modifyDriver]
    | ofGroup d t g l =>
      simp [contextLine, lunAttrsLine, ScstConfig.modifyLun, ScstConfig.rootEntries,
        ScstConfig.modifyGroup, ScstConfig.modifyTarget, ScstConfig.modifyDriver]

end

namespace ParserState

/-- The scope of the file is below all others, and nowhere else. -/
def Nested (st : ParserState) : Prop :=
  ∃ scopes, st.top :: st.below = scopes ++ [.root] ∧ .root ∉ scopes

variable {st : ParserState} {line : Text} {lines : List Text} {n m : Nat}

theorem step_cases (st : ParserState) (line : Text) :
    (isSkipped line = true ∧ st.step line = st) ∨
      (isSkipped line = false ∧ closesBlock line = true ∧ st.step line = st.pop) ∨
      (isSkipped line = false ∧ closesBlock line = false ∧
        st.step line = st.readLine (trim line)) := by
  by_cases hSkip : trim line = [] ∨ (trim line).head? = some '#'
  · refine Or.inl ⟨?_, if_pos hSkip⟩
    simpa [isSkipped] using hSkip
  · have hRead : isSkipped line = false := by simpa [isSkipped] using hSkip
    by_cases hClose : trim line = closeBrace
    · exact Or.inr (Or.inl ⟨hRead, by simpa [closesBlock] using hClose,
        (if_neg hSkip).trans (if_pos hClose)⟩)
    · exact Or.inr (Or.inr ⟨hRead, by simpa [closesBlock] using hClose,
        (if_neg hSkip).trans (if_neg hClose)⟩)

theorem step_of_closes (h : closesBlock line) : st.step line = st.pop := by
  have hTrim : trim line = closeBrace := by simpa [closesBlock] using h
  have hSkip : ¬(trim line = [] ∨ (trim line).head? = some '#') := by
    rw [hTrim]
    decide
  exact (if_neg hSkip).trans (if_pos hTrim)

theorem readLine_cases (st : ParserState) (line : Text) :
    ((contextLine st.top st.config line).2 = none ∧ (st.readLine line).top = st.top ∧
        (st.readLine line).below = st.below) ∨
      ∃ ctx, (contextLine st.top st.config line).2 = some ctx ∧ (st.readLine line).top = ctx ∧
        (st.readLine line).below = st.top :: st.below := by
  simp only [readLine]
  split
  · rename_i ctx hOpen
    exact Or.inr ⟨ctx, hOpen, rfl, rfl⟩
  · rename_i hNone
    exact Or.inl ⟨hNone, rfl, rfl⟩

theorem below_pop : st.pop.below = st.below.tail := by
  unfold pop
  split
  · rename_i hNil
    rw [hNil]
    rfl
  · rename_i hCons
    rw [hCons]
    rfl

theorem Nested.pop (h : st.Nested) : st.pop.Nested := by
  obtain ⟨c, top, below⟩ := st
  obtain ⟨scopes, hStack, hRoot⟩ := h
  cases below with
  | nil => exact ⟨scopes, hStack, hRoot⟩
  | cons ctx below =>
    cases scopes with
    | nil => cases hStack
    | cons a scopes =>
      obtain ⟨-, hRest⟩ := List.cons.inj hStack
      exact ⟨scopes, hRest, fun hMem => hRoot (List.mem_cons_of_mem _ hMem)⟩

theorem Nested.step (h : st.Nested) (line : Text) : (st.step line).Nested := by
  rcases st.step_cases line with ⟨-, hStep⟩ | ⟨-, -, hStep⟩ | ⟨-, -, hStep⟩
  · rw [hStep]
    exact h
  · rw [hStep]
    exact h.pop
  · obtain ⟨scopes, hStack, hRoot⟩ := h
    rw [hStep]
    rcases st.readLine_cases (trim line) with ⟨-, hTop, hBelow⟩ | ⟨ctx, hOpen, hTop, hBelow⟩
    · exact ⟨scopes, by rw [hTop, hBelow, hStack], hRoot⟩
    · obtain ⟨-, hNotRoot, -⟩ := contextLine_opens hOpen
      refine ⟨ctx :: scopes, by rw [hTop, hBelow, hStack, List.cons_append], ?_⟩
      exact List.not_mem_cons_of_ne_of_not_mem hNotRoot.symm hRoot

theorem Nested.run (h : st.Nested) (lines : List Text) : (st.run lines).Nested := by
  induction lines generalizing st with
  | nil => exact h
  | cons line lines ih => exact ih (h.step line)

theorem nested_run_initial (lines : List Text) : (initial.run lines).Nested :=
  have hInitial : initial.Nested := ⟨[], rfl, List.not_mem_nil⟩
  hInitial.run lines

theorem Nested.top_eq_root (h : st.Nested) (hBelow : st.below = []) : st.top = .root := by
  obtain ⟨scopes, hStack, -⟩ := h
  rw [hBelow] at hStack
  cases scopes with
  | nil => exact (List.cons.inj hStack).1
  | cons a scopes => simp at hStack

theorem Nested.top_ne_root (h : st.Nested) (hBelow : st.below ≠ []) : st.top ≠ .root := by
  obtain ⟨scopes, hStack, hRoot⟩ := h
  cases scopes with
  | nil => exact absurd (List.cons.inj hStack).2 hBelow
  | cons a scopes =>
    obtain ⟨hTop, -⟩ := List.cons.inj hStack
    rintro hSame
    exact hRoot (by rw [← hTop, hSame]; exact List.mem_cons_self)

theorem length_below_step (h : st.below.length ≤ n)
    (hDepth : nest opensBlock closesBlock n line = some m) :
    (st.step line).below.length ≤ m := by
  unfold nest at hDepth
  rcases st.step_cases line with ⟨hSkip, hStep⟩ | ⟨-, hClose, hStep⟩ | ⟨hSkip, hClose, hStep⟩
  · rw [hStep]
    split at hDepth
    · rename_i hClose
      have hTrim : trim line = closeBrace := by simpa [closesBlock] using hClose
      simp [isSkipped, hTrim, closeBrace] at hSkip
    · simp [opensBlock, hSkip] at hDepth
      omega
  · rw [if_pos hClose] at hDepth
    rw [hStep, below_pop, List.length_tail]
    cases n with
    | zero => cases hDepth
    | succ n =>
      cases hDepth
      omega
  · rw [if_neg (by simp [hClose])] at hDepth
    rw [hStep]
    rcases st.readLine_cases (trim line) with ⟨-, -, hBelow⟩ | ⟨ctx, hOpen, -, hBelow⟩
    · rw [hBelow]
      by_cases hOpens : opensBlock line = true
      · rw [if_pos hOpens] at hDepth
        cases hDepth
        omega
      · rw [if_neg hOpens] at hDepth
        cases hDepth
        exact h
    · obtain ⟨hBrace, -⟩ := contextLine_opens hOpen
      rw [hBelow, List.length_cons]
      simp [opensBlock, hSkip, hBrace] at hDepth
      omega

theorem length_below_run (h : st.below.length ≤ n)
    (hDepth : depthFrom opensBlock closesBlock n lines = some m) :
    (st.run lines).below.length ≤ m := by
  induction lines generalizing st n with
  | nil =>
    cases hDepth
    exact h
  | cons line lines ih =>
    obtain ⟨k, hk, hDepth⟩ := Option.bind_eq_some_iff.mp hDepth
    exact ih (length_below_step h hk) hDepth

theorem rootEntries_step (st : ParserState) (line : Text) :
    st.config.rootEntries ≤ (st.step line).config.rootEntries := by
  rcases st.step_config_cases line with hSame | ⟨-, -, -, hRead⟩
  · rw [hSame]
  · rw [hRead]
    by_cases hTop : st.top = .root
    · rw [hTop]
      show st.config.rootEntries ≤ (rootLine st.config (trim line)).1.rootEntries
      cases hNames : namesRootEntry (trim line) with
      | true =>
        rw [rootEntries_rootLine hNames]
        omega
      | false => rw [rootLine_of_not_names hNames]
    · rw [rootEntries_contextLine hTop]

theorem rootEntries_run (st : ParserState) (lines : List Text) :
    st.config.rootEntries ≤ (st.run lines).config.rootEntries := by
  induction lines generalizing st with
  | nil => exact Nat.le_refl _
  | cons line lines ih => exact (rootEntries_step st line).trans (ih (st.step line))

theorem namesRootEntry_trim (line : Text) : namesRootEntry (trim line) = namesRootEntry line := by
  rw [namesRootEntry, words_trim, namesRootEntry]

theorem run_passed_over {c : ScstConfig} (h : ∀ l ∈ lines, namesRootEntry l = false) :
    (⟨c, .root, []⟩ : ParserState).run lines = ⟨c, .root, []⟩ := by
  induction lines with
  | nil => rfl
  | cons line lines ih =>
    have hLine : (⟨c, .root, []⟩ : ParserState).step line = ⟨c, .root, []⟩ := by
      rcases step_cases ⟨c, .root, []⟩ line with ⟨-, hStep⟩ | ⟨-, -, hStep⟩ | ⟨-, -, hStep⟩
      · exact hStep
      · exact hStep
      · have hNames := (namesRootEntry_trim line).trans (h line List.mem_cons_self)
        rw [hStep, readLine]
        simp only [contextLine, rootLine_of_not_names hNames]
    rw [run_cons, hLine]
    exact ih fun l hl => h l (List.mem_cons_of_mem _ hl)

theorem step_of_names (st : ParserState) (h : namesRootEntry line) :
    st.step line = st.readLine (trim line) := by
  obtain ⟨keyword, hKeyword, hName⟩ := List.any_eq_true.mp h
  obtain ⟨name, hName⟩ := Option.isSome_iff_exists.mp hName
  obtain ⟨ws, hWords⟩ := List.head?_eq_some_iff.mp (head?_of_blockName hName)
  have hStarts : ∀ k ∈ ParserContext.root.keywords, StartsLine k := by decide
  exact step_of_startsLine hWords (hStarts keyword hKeyword)

theorem rootEntries_step_of_names {c : ScstConfig} (h : namesRootEntry line) :
    ((⟨c, .root, []⟩ : ParserState).step line).config.rootEntries = c.rootEntries + 1 := by
  rw [step_of_names _ h, readLine_config]
  exact rootEntries_rootLine ((namesRootEntry_trim line).trans h)

/-- Where no scope is open, lines that change nothing name no entry. -/
theorem not_names_of_run_eq {c : ScstConfig}
    (h : ((⟨c, .root, []⟩ : ParserState).run lines).config = c) :
    ∀ l ∈ lines, namesRootEntry l = false := by
  rcases forall_or_exists_first (fun l => namesRootEntry l = false) lines with
    hAll | ⟨before, l, after, rfl, hBefore, hl⟩
  · exact hAll
  · exfalso
    rw [run_append, run_passed_over hBefore, run_cons] at h
    have hGrows := rootEntries_run ((⟨c, .root, []⟩ : ParserState).step l) after
    rw [h, rootEntries_step_of_names (by simpa using hl)] at hGrows
    exact absurd hGrows (Nat.not_succ_le_self _)

end ParserState

theorem closesBlock_closeBrace : closesBlock closeBrace := by decide

theorem oneLine_closeBraces (k : Nat) : ∀ l ∈ List.replicate k closeBrace, OneLine l := by
  intro l hl
  rw [List.eq_of_mem_replicate hl]
  exact oneLine_of_isWord (by decide)

theorem config_run_closeBraces (st : ParserState) (k : Nat) :
    (st.run (List.replicate k closeBrace)).config = st.config :=
  ParserState.config_run_closes st fun _ hl => Or.inr ⟨0, List.eq_of_mem_replicate hl⟩

theorem length_below_closeBraces (st : ParserState) (k : Nat) :
    (st.run (List.replicate k closeBrace)).below.length = st.below.length - k := by
  induction k generalizing st with
  | zero => rfl
  | succ k ih =>
    rw [List.replicate_succ, ParserState.run_cons, ih,
      ParserState.step_of_closes closesBlock_closeBrace, ParserState.below_pop, List.length_tail]
    omega

/-- A line that starts a handler where no scope is open. -/
def handlerMarker : Text := "HANDLER h".toList

theorem rootEntries_handlerMarker (st : ParserState) :
    (st.step handlerMarker).config.rootEntries =
      st.config.rootEntries + if st.top = .root then 1 else 0 := by
  rw [ParserState.step_of_names st (by decide), ParserState.readLine_config]
  split
  · rename_i hTop
    rw [hTop]
    exact rootEntries_rootLine (by decide)
  · rename_i hTop
    exact rootEntries_contextLine hTop

theorem exists_lines_telling {st st' : ParserState} {n : Nat} (hst : st.Nested)
    (hst' : st'.Nested) (hSame : st'.config = st.config)
    (hLess : st'.below.length < st.below.length) (hOpen : st.below.length ≤ n) :
    ∃ post, (∀ l ∈ post, OneLine l) ∧ depthFrom opensBlock closesBlock n post = some 0 ∧
      (st'.run post).config ≠ (st.run post).config := by
  obtain ⟨k, hk⟩ : ∃ k, st'.below.length = k := ⟨_, rfl⟩
  refine ⟨List.replicate k closeBrace ++ (handlerMarker :: List.replicate (n - k) closeBrace),
    ?_, ?_, ?_⟩
  · intro l hl
    rcases List.mem_append.mp hl with hl | hl
    · exact oneLine_closeBraces k l hl
    · rcases List.mem_cons.mp hl with rfl | hl
      · show '\n' ∉ handlerMarker
        decide
      · exact oneLine_closeBraces _ l hl
  · rw [depthFrom_append, depthFrom_replicate closesBlock_closeBrace (by omega)]
    show depthFrom opensBlock closesBlock (n - k) (List.replicate (n - k) closeBrace) = some 0
    rw [depthFrom_replicate closesBlock_closeBrace (Nat.le_refl _), Nat.sub_self]
  · intro hEq
    simp only [ParserState.run_append, ParserState.run_cons, config_run_closeBraces] at hEq
    -- The marker is read at the top in one of the states and in a scope in the other.
    have hTop : (st.run (List.replicate k closeBrace)).top ≠ .root := by
      apply (hst.run _).top_ne_root
      apply List.ne_nil_of_length_pos
      rw [length_below_closeBraces]
      omega
    have hTop' : (st'.run (List.replicate k closeBrace)).top = .root := by
      apply (hst'.run _).top_eq_root
      apply List.eq_nil_of_length_eq_zero
      rw [length_below_closeBraces, hk, Nat.sub_self]
    have hEntries := congrArg ScstConfig.rootEntries hEq
    rw [rootEntries_handlerMarker, rootEntries_handlerMarker, if_pos hTop', if_neg hTop,
      config_run_closeBraces, config_run_closeBraces, hSame] at hEntries
    exact absurd hEntries (Nat.succ_ne_self _)

section

variable {st : ParserState}

namespace UnknownBlock

theorem below_step_head (b : UnknownBlock st.top) : (st.step b.head).below = st.below := by
  rcases st.step_cases b.head with ⟨-, hStep⟩ | ⟨-, hClose, -⟩ | ⟨-, -, hStep⟩
  · rw [hStep]
  · have hOpens := b.opens
    have hTrim : trim b.head = closeBrace := by simpa [closesBlock] using hClose
    simp [opensBlock, hTrim, endsWithBrace, closeBrace] at hOpens
  · rw [hStep]
    rcases st.readLine_cases (trim b.head) with ⟨-, -, hBelow⟩ | ⟨ctx, hOpen, -, -⟩
    · exact hBelow
    · obtain ⟨-, -, word, hWord, hKnown⟩ := contextLine_opens hOpen
      rw [words_trim] at hWord
      exact absurd hKnown (b.unknown word hWord)

/-- Its closing brace closes a scope that was open before it. -/
theorem length_below_run (b : UnknownBlock st.top) :
    (st.run b.lines).below.length ≤ st.below.length - 1 := by
  have hBody : depthFrom opensBlock closesBlock st.below.length b.body = some st.below.length := by
    have hDepth := depthFrom_add (k := st.below.length) b.balanced
    rwa [Nat.zero_add] at hDepth
  have hHead : (st.step b.head).below.length ≤ st.below.length :=
    Nat.le_of_eq (congrArg List.length b.below_step_head)
  have hOpen := ParserState.length_below_run hHead hBody
  rw [lines, ParserState.run_cons, ParserState.run_append, ParserState.run_singleton,
    ParserState.step_of_closes b.closes, ParserState.below_pop, List.length_tail]
  exact Nat.sub_le_sub_right hOpen 1

theorem not_namesRootEntry_head (b : UnknownBlock .root) : namesRootEntry b.head = false := by
  rw [namesRootEntry, List.any_eq_false]
  intro keyword hKeyword hName
  obtain ⟨name, hName⟩ := Option.isSome_iff_exists.mp hName
  exact b.unknown keyword (head?_of_blockName hName) hKeyword

theorem not_namesRootEntry_close {ctx : ParserContext} (b : UnknownBlock ctx) :
    namesRootEntry b.close = false := by
  have hTrim : trim b.close = closeBrace := by simpa [closesBlock] using b.closes
  rw [← ParserState.namesRootEntry_trim, hTrim]
  decide

end UnknownBlock

end

/-- A block that the parser does not know can be taken out of any file, whatever follows
it, if and only if no scope is open where it stands and no line of its body names a
handler, a driver or a device group. -/
theorem insert_unknownBlock_iff (pre : List Text) (hLines : ∀ l ∈ pre, OneLine l)
    (hDepth : (depthFrom opensBlock closesBlock 0 pre).isSome = true)
    (b : UnknownBlock (ParserState.initial.run pre).top) :
    (∀ post : List Text, (∀ l ∈ post, OneLine l) → Js.Balanced opensBlock closesBlock (pre ++ post) →
      parseScstConf (['\n'].intercalate (pre ++ b.lines ++ post)) =
        parseScstConf (['\n'].intercalate (pre ++ post))) ↔
      (ParserState.initial.run pre).below = [] ∧ ∀ l ∈ b.body, namesRootEntry l = false := by
  have hNested := ParserState.nested_run_initial pre
  obtain ⟨n, hn⟩ := Option.isSome_iff_exists.mp hDepth
  have hZero : ParserState.initial.below.length ≤ 0 := Nat.le_refl 0
  have hOpen := ParserState.length_below_run hZero hn
  -- Reading the two files line by line.
  have hRead (post : List Text) (hPost : ∀ l ∈ post, OneLine l) :
      parseScstConf (['\n'].intercalate (pre ++ b.lines ++ post)) =
          parseScstConf (['\n'].intercalate (pre ++ post)) ↔
        (((ParserState.initial.run pre).run b.lines).run post).config =
          ((ParserState.initial.run pre).run post).config := by
    have hBlock : ∀ l ∈ b.lines, OneLine l := b.oneLine
    rw [parseScstConf_intercalate, parseScstConf_intercalate, ParserState.run_append,
      ParserState.run_append, ParserState.run_append]
    · intro l hl
      rcases List.mem_append.mp hl with hl | hl
      · exact hLines l hl
      · exact hPost l hl
    · intro l hl
      rcases List.mem_append.mp hl with hl | hl
      · rcases List.mem_append.mp hl with hl | hl
        · exact hLines l hl
        · exact hBlock l hl
      · exact hPost l hl
  generalize ParserState.initial.run pre = st at *
  have hBalanced {post : List Text} (hPost : depthFrom opensBlock closesBlock n post = some 0) :
      Js.Balanced opensBlock closesBlock (pre ++ post) := by
    rw [Js.Balanced, depthFrom_append, hn]
    exact hPost
  constructor
  · intro h
    -- With nothing but closing braces after it, the block must have changed nothing.
    have hSame : (st.run b.lines).config = st.config := by
      have hPost := oneLine_closeBraces n
      have hDepth : depthFrom opensBlock closesBlock n (List.replicate n closeBrace) = some 0 := by
        rw [depthFrom_replicate closesBlock_closeBrace (Nat.le_refl n), Nat.sub_self]
      have hAll := (hRead _ hPost).mp (h _ hPost (hBalanced hDepth))
      rwa [config_run_closeBraces, config_run_closeBraces] at hAll
    have hBelow : st.below = [] := by
      by_contra hScope
      have hPos : 0 < st.below.length := List.length_pos_iff.mpr hScope
      have hLess := b.length_below_run
      obtain ⟨post, hPost, hDepth, hTold⟩ :=
        exists_lines_telling hNested (hNested.run b.lines) hSame (by omega) hOpen
      exact hTold ((hRead post hPost).mp (h post hPost (hBalanced hDepth)))
    refine ⟨hBelow, fun l hl => ?_⟩
    obtain ⟨c, top, below⟩ := st
    obtain rfl : below = [] := hBelow
    obtain rfl : top = .root := hNested.top_eq_root rfl
    apply ParserState.not_names_of_run_eq hSame
    exact List.mem_cons_of_mem _ (List.mem_append_left _ hl)
  · rintro ⟨hBelow, hBody⟩ post hPost -
    rw [hRead post hPost]
    obtain ⟨c, top, below⟩ := st
    obtain rfl : below = [] := hBelow
    obtain rfl : top = .root := hNested.top_eq_root rfl
    rw [ParserState.run_passed_over]
    intro l hl
    rcases List.mem_cons.mp hl with rfl | hl
    · exact b.not_namesRootEntry_head
    · rcases List.mem_append.mp hl with hl | hl
      · exact hBody l hl
      · rw [List.mem_singleton.mp hl]
        exact b.not_namesRootEntry_close

def handlerHead : List Text := ["HANDLER h \x7b".toList]

def handlerTail : List Text := ["DEVICE d \x7b".toList, closeBrace, closeBrace]

def unknownInHandler : UnknownBlock (ParserState.initial.run handlerHead).top where
  head := "X \x7b".toList
  body := []
  close := closeBrace
  opens := by decide
  unknown := by decide
  balanced := by decide
  closes := by decide
  oneLine := by
    unfold OneLine
    decide

theorem insert_unknownBlock_iff_handler :
    (∀ post : List Text, (∀ l ∈ post, OneLine l) →
      Js.Balanced opensBlock closesBlock (handlerHead ++ post) →
      parseScstConf (['\n'].intercalate (handlerHead ++ unknownInHandler.lines ++ post)) =
        parseScstConf (['\n'].intercalate (handlerHead ++ post))) ↔
      (ParserState.initial.run handlerHead).below = [] ∧
        ∀ l ∈ unknownInHandler.body, namesRootEntry l = false :=
  have hLines : ∀ l ∈ handlerHead, OneLine l := by
    unfold OneLine
    decide
  insert_unknownBlock_iff handlerHead hLines (by decide) unknownInHandler

/-- The device after the block is no longer read as one of the handler. -/
theorem unknownInHandler_closes_handler :
    Js.Balanced opensBlock closesBlock (handlerHead ++ handlerTail) ∧
      parseScstConf (['\n'].intercalate (handlerHead ++ unknownInHandler.lines ++ handlerTail)) ≠
        parseScstConf (['\n'].intercalate (handlerHead ++ handlerTail)) :=
  ⟨by decide, by decide +kernel⟩

end EsosWebui.Scst
