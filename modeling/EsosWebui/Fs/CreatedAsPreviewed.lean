import EsosWebui.Fs.CreateFs

/-! A file system is made with the commands that are shown, where the signatures are wiped on
request only when the preview has them wiped. -/
namespace EsosWebui.Fs

open Js

variable {s : Text}

/-- What all checked texts have in common. -/
def IsPathLike (s : Text) : Prop := ∀ c ∈ trim s, isPathChar c = true

theorem IsPathLike.quote_not_mem (h : IsPathLike s) : '\'' ∉ s := by
  intro hMem
  obtain ⟨before, after, hBefore, hAfter, hText⟩ := exists_spaces_trim s
  rw [← hText, List.mem_append, List.mem_append] at hMem
  rcases hMem with (hMem | hMem) | hMem
  · exact absurd (hBefore _ hMem) (by decide)
  · exact absurd (h _ hMem) (by decide)
  · exact absurd (hAfter _ hMem) (by decide)

theorem IsPathLike.not_blkidExport (h : IsPathLike s) : ¬ blkidExport <:+: s := by
  intro hIn
  have hFirst : blkidExport.head? = some 'b' := by decide
  have hLast : blkidExport.getLast? = some 't' := by decide
  have hTrim : blkidExport <:+: trim s := by
    apply (infix_trim_iff (by decide) _ _).mpr hIn
    · intro c hc
      obtain rfl : 'b' = c := Option.some.inj (hFirst.symm.trans hc)
      decide
    · intro c hc
      obtain rfl : 't' = c := Option.some.inj (hLast.symm.trans hc)
      decide
  have hBlank : isPathChar ' ' = true := h ' ' (hTrim.subset (by decide))
  revert hBlank
  decide

theorem isPathChar_of_isAlphanum {c : Char} (h : c.isAlphanum) : isPathChar c := by
  rw [isPathChar, h, Bool.true_or]

theorem isPathLike_of_validateBackendPath (h : validateBackendPath s = none) : IsPathLike s := by
  rw [validateBackendPath, ite_eq_right_iff] at h
  have hMatches : matchesDevicePath (trim s) = true := by
    by_contra hNot
    exact nomatch h (Bool.eq_false_iff.mpr hNot)
  obtain ⟨hDev, hRest⟩ := Bool.and_eq_true_iff.mp hMatches
  obtain ⟨rest, hText⟩ := startsWith_iff.mp hDev
  intro c hc
  rw [← hText] at hc hRest
  rcases List.mem_append.mp hc with hc | hc
  · have hAll : "/dev/".toList.all isPathChar = true := by decide
    exact List.all_eq_true.mp hAll c hc
  · exact List.all_eq_true.mp (Bool.and_eq_true_iff.mp hRest).2 c hc

theorem exists_of_matchesMountPoint (h : matchesMountPoint s) :
    ∃ c rest, s = '/' :: c :: rest ∧ c.isAlphanum = true ∧ rest.all isPathChar = true := by
  unfold matchesMountPoint at h
  split at h
  case h_1 c rest => exact ⟨c, rest, rfl, Bool.and_eq_true_iff.mp h⟩
  case h_2 => cases h

theorem isPathLike_of_validateMountPoint (h : validateMountPoint s = none) : IsPathLike s := by
  have hMatches : matchesMountPoint (trim s) = true := by
    by_contra hNot
    rw [validateMountPoint, if_pos (Bool.eq_false_iff.mpr hNot)] at h
    split at h <;> cases h
  obtain ⟨first, rest, hText, hFirst, hRest⟩ := exists_of_matchesMountPoint hMatches
  intro c hc
  rw [hText] at hc
  rcases List.mem_cons.mp hc with rfl | hc
  · decide
  · rcases List.mem_cons.mp hc with rfl | hc
    · exact isPathChar_of_isAlphanum hFirst
    · exact List.all_eq_true.mp hRest c hc

theorem isPathLike_of_validateFsLabel (h : validateFsLabel s = none) : IsPathLike s := by
  have hMatches : matchesLabel (trim s) = true := by
    by_contra hNot
    rw [validateFsLabel, if_pos (Bool.eq_false_iff.mpr hNot)] at h
    split at h <;> cases h
  obtain ⟨hChars, -⟩ := Bool.and_eq_true_iff.mp hMatches
  have hAll := (Bool.and_eq_true_iff.mp hChars).2
  intro c hc
  rcases Bool.or_eq_true_iff.mp (List.all_eq_true.mp hAll c hc) with hAlnum | hOther
  · exact isPathChar_of_isAlphanum hAlnum
  · have hKnown : "._-".toList.all isPathChar = true := by decide
    exact List.all_eq_true.mp hKnown c (List.contains_iff_mem.mp hOther)

/-- What is checked before any command is built. -/
structure CreateFsPayload.IsChecked (payload : CreateFsPayload) : Prop where
  backendPath : IsPathLike payload.backendPath
  mountPoint : IsPathLike payload.mountPoint
  label : IsPathLike payload.label

theorem isChecked_of_validate {payload : CreateFsPayload} {blockers : List Text}
    (h : validateCreateFsInput payload blockers = []) : payload.IsChecked := by
  have hNone : ∀ key ∈ [validateBackendPath payload.backendPath,
      validateMountPoint payload.mountPoint, validateFsLabel payload.label], key = none := by
    intro key hKey
    have hKeys := List.filterMap_eq_nil_iff.mp (List.append_eq_nil_iff.mp h).2
    exact hKeys key (List.mem_append_left [_] hKey)
  exact ⟨isPathLike_of_validateBackendPath (hNone _ (by simp)),
    isPathLike_of_validateMountPoint (hNone _ (by simp)),
    isPathLike_of_validateFsLabel (hNone _ (by simp))⟩

theorem not_blkidExport_append_one (h : IsPathLike s) : ¬ blkidExport <:+: s ++ ['1'] := by
  intro hIn
  rcases List.infix_concat_iff.mp hIn with hEnd | hIn
  · obtain ⟨before, hText⟩ := hEnd
    have hLast : (before ++ blkidExport).getLast? = some '1' := by
      rw [hText, List.getLast?_concat]
    have hLetter : blkidExport.getLast? = some 't' := by decide
    rw [List.getLast?_append, hLetter] at hLast
    cases hLast
  · exact h.not_blkidExport hIn

theorem mkfsDevicePath_cases (path : Text) (strategy : PartitionStrategy) :
    mkfsDevicePath path strategy = path ∨ mkfsDevicePath path strategy = path ++ ['1'] := by
  cases strategy with
  | none => exact Or.inl rfl
  | gpt =>
    rw [mkfsDevicePath]
    split
    · exact Or.inl rfl
    · exact Or.inr rfl

theorem not_blkidExport_quoted {before after : Text} (hBefore : ¬ blkidExport <:+: before)
    (hAfter : ¬ blkidExport <:+: after) (hQuote : '\'' ∉ s) (hs : ¬ blkidExport <:+: s) :
    ¬ blkidExport <:+: before ++ shellSingleQuoteForRemote s ++ after := by
  rw [infix_quoted_iff (by decide) hQuote]
  rintro (hIn | hIn | hIn)
  · exact hBefore hIn
  · exact hs hIn
  · exact hAfter hIn

theorem not_blkidExport_quoted_end {before : Text} (hBefore : ¬ blkidExport <:+: before)
    (hQuote : '\'' ∉ s) (hs : ¬ blkidExport <:+: s) :
    ¬ blkidExport <:+: before ++ shellSingleQuoteForRemote s := by
  have hEmpty : ¬ blkidExport <:+: [] := fun hIn => nomatch List.infix_nil.mp hIn
  have hIn := not_blkidExport_quoted hBefore hEmpty hQuote hs
  rwa [List.append_nil] at hIn

namespace CreateFsPayload.IsChecked

variable {payload : CreateFsPayload} (h : payload.IsChecked) (wipe : Bool)

include h

theorem mkfsTarget :
    '\'' ∉ (payload.commandsInput wipe).mkfsTarget ∧
      ¬ blkidExport <:+: (payload.commandsInput wipe).mkfsTarget := by
  rcases mkfsDevicePath_cases payload.backendPath payload.strategy with hSame | hFirst
  · rw [CreateFsCommandsInput.mkfsTarget, CreateFsPayload.commandsInput, hSame]
    exact ⟨h.backendPath.quote_not_mem, h.backendPath.not_blkidExport⟩
  · rw [CreateFsCommandsInput.mkfsTarget, CreateFsPayload.commandsInput, hFirst]
    refine ⟨?_, not_blkidExport_append_one h.backendPath⟩
    simp [h.backendPath.quote_not_mem]

theorem not_blkidExport_mkfsCommand :
    ¬ blkidExport <:+: (payload.commandsInput wipe).mkfsCommand := by
  obtain ⟨hQuote, hTarget⟩ := h.mkfsTarget wipe
  have hLabel : ∀ before, ¬ blkidExport <:+: before →
      ¬ blkidExport <:+: before ++ shellSingleQuoteForRemote payload.label ++ " ".toList :=
    fun before hBefore => not_blkidExport_quoted hBefore (by decide +kernel)
      h.label.quote_not_mem h.label.not_blkidExport
  rw [CreateFsCommandsInput.mkfsCommand, buildMkfsCommand]
  split
  · exact not_blkidExport_quoted_end (hLabel _ (by decide +kernel)) hQuote hTarget
  · exact not_blkidExport_quoted_end (hLabel _ (by decide +kernel)) hQuote hTarget

theorem not_blkidExport_formatCommands :
    ∀ c ∈ (payload.commandsInput wipe).formatCommands, ¬ blkidExport <:+: c := by
  have hPath := h.backendPath
  intro c hc
  rcases List.mem_append.mp hc with hc | hc
  · rcases List.mem_append.mp hc with hWipe | hPart
    · split at hWipe
      · obtain rfl := List.mem_singleton.mp hWipe
        exact not_blkidExport_quoted_end (by decide +kernel) hPath.quote_not_mem
          hPath.not_blkidExport
      · cases hWipe
    · split at hPart
      · rcases List.mem_pair.mp hPart with rfl | rfl
        · exact not_blkidExport_quoted (by decide +kernel) (by decide +kernel)
            hPath.quote_not_mem hPath.not_blkidExport
        · exact not_blkidExport_quoted (by decide +kernel) (by decide +kernel)
            hPath.quote_not_mem hPath.not_blkidExport
      · cases hPart
  · rcases List.mem_pair.mp hc with rfl | rfl
    · exact h.not_blkidExport_mkfsCommand wipe
    · exact not_blkidExport_quoted_end (by decide +kernel) h.mountPoint.quote_not_mem
        h.mountPoint.not_blkidExport

theorem not_blkidExport_mountCommand :
    ¬ blkidExport <:+: (payload.commandsInput wipe).mountCommand :=
  not_blkidExport_quoted_end (by decide +kernel) h.mountPoint.quote_not_mem
    h.mountPoint.not_blkidExport

theorem filter_commands :
    (buildCreateFilesystemCommands (payload.commandsInput wipe)).filter (!contains · blkidExport) =
      (payload.commandsInput wipe).formatCommands ++
        [(payload.commandsInput wipe).mountCommand] := by
  have hFormat : (payload.commandsInput wipe).formatCommands.filter (!contains · blkidExport) =
      (payload.commandsInput wipe).formatCommands := by
    apply List.filter_eq_self.mpr
    intro c hc
    simpa using h.not_blkidExport_formatCommands wipe c hc
  have hWords : blkidExport <+: "blkid -o export ".toList := by decide +kernel
  have hBlkid : blkidExport <:+: (payload.commandsInput wipe).blkidCommand :=
    ((hWords.trans (List.prefix_append _ _)).trans (List.prefix_append _ _)).isInfix
  rw [buildCreateFilesystemCommands, List.filter_append, hFormat, List.filter_cons_of_neg,
    List.filter_cons_of_pos]
  · rfl
  · simpa using h.not_blkidExport_mountCommand wipe
  · simpa using hBlkid

end CreateFsPayload.IsChecked

def wipesSignatures (command : Text) : Bool := startsWith command "wipefs ".toList

def isMutating (command : Text) : Bool :=
  wipesSignatures command || startsWith command "parted ".toList ||
    startsWith command "mkfs.".toList || startsWith command "mkdir ".toList ||
    startsWith command "mount ".toList

def isBlkidStep (command : Text) : Bool := startsWith command "blkid ".toList

theorem isBlkidStep_of_isMutating {command : Text} (h : isMutating command) :
    isBlkidStep command = false := by
  by_contra hBlkid
  obtain ⟨rest, rfl⟩ := startsWith_iff.mp (Bool.eq_true_of_not_eq_false hBlkid)
  exact absurd h Bool.false_ne_true

variable (input : CreateFsCommandsInput)

theorem formatCommands_isMutating : ∀ c ∈ input.formatCommands, isMutating c = true := by
  intro c hc
  rcases List.mem_append.mp hc with hc | hc
  · rcases List.mem_append.mp hc with hWipe | hPart
    · split at hWipe
      · obtain rfl := List.mem_singleton.mp hWipe
        rfl
      · cases hWipe
    · split at hPart
      · rcases List.mem_pair.mp hPart with rfl | rfl
        · rfl
        · rfl
      · cases hPart
  · rcases List.mem_pair.mp hc with rfl | rfl
    · rw [CreateFsCommandsInput.mkfsCommand, buildMkfsCommand]
      split
      · rfl
      · rfl
    · rfl

/-- The commands that change the node, in their order. -/
def CreateFsCommandsInput.mutatingCommands : List Text :=
  input.formatCommands ++ [input.mountCommand]

theorem mutatingCommands_isMutating : ∀ c ∈ input.mutatingCommands, isMutating c = true := by
  intro c hc
  rcases List.mem_append.mp hc with hFormat | hMount
  · exact formatCommands_isMutating input c hFormat
  · obtain rfl := List.mem_singleton.mp hMount
    rfl

def withoutBlkidStep (commands : List Text) : List Text := commands.filter (!isBlkidStep ·)

theorem withoutBlkidStep_commands :
    withoutBlkidStep (buildCreateFilesystemCommands input) = input.mutatingCommands := by
  have hFormat : input.formatCommands.filter (!isBlkidStep ·) = input.formatCommands := by
    apply List.filter_eq_self.mpr
    intro c hc
    rw [isBlkidStep_of_isMutating (formatCommands_isMutating input c hc)]
    rfl
  rw [withoutBlkidStep, buildCreateFilesystemCommands, List.filter_append, hFormat]
  rfl

theorem exists_mutatingCommands_eq :
    ∃ first rest, input.mutatingCommands = first :: rest ∧
      wipesSignatures first = input.wipeBeforeFormat ∧
      ∀ c ∈ rest, wipesSignatures c = false := by
  obtain ⟨path, fsType, label, mountPoint, strategy, wipe⟩ := input
  have hMkfs : ∀ device, wipesSignatures (buildMkfsCommand device fsType label) = false := by
    intro device
    rw [buildMkfsCommand]
    split
    · rfl
    · rfl
  cases wipe with
  | true =>
    refine ⟨_, _, rfl, rfl, ?_⟩
    cases strategy with
    | none => simpa using ⟨hMkfs _, rfl, rfl⟩
    | gpt => simpa [buildGptPartitionCommands] using ⟨rfl, rfl, hMkfs _, rfl, rfl⟩
  | false =>
    cases strategy with
    | none =>
      refine ⟨_, _, rfl, hMkfs _, ?_⟩
      simpa using ⟨rfl, rfl⟩
    | gpt =>
      refine ⟨_, _, rfl, rfl, ?_⟩
      simpa using ⟨rfl, hMkfs _, rfl, rfl⟩

section

variable (coding : FileCoding) (shell : Shell)

theorem sends_execCmds (kind : Text → Bool) (commands : List Text) :
    Session.Sends kind (execCmds shell commands) (commands.filter kind) := by
  induction commands with
  | nil => exact Session.sends_pure ()
  | cons cmd commands ih =>
    have hFilter : (cmd :: commands).filter kind =
        [cmd].filter kind ++ ([] ++ commands.filter kind) := by
      rw [List.nil_append, ← List.filter_append]
      rfl
    rw [execCmds, hFilter]
    exact Session.sends_bind (Session.sends_send shell cmd) fun r =>
      Session.sends_bind (Session.sends_ofExcept _) fun _ => ih

theorem sends_execCmds_mutating {commands : List Text}
    (h : ∀ c ∈ commands, isMutating c = true) :
    Session.Sends isMutating (execCmds shell commands) commands := by
  have hSends := sends_execCmds shell isMutating commands
  rwa [List.filter_eq_self.mpr h] at hSends

theorem opens_execCmds (cmd : Text) (commands : List Text) :
    Session.Opens (execCmds shell (cmd :: commands)) cmd := by
  rw [execCmds]
  exact Session.opens_bind (Session.opens_send shell cmd) fun r =>
    Session.sends_bind (Session.sends_ofExcept _) fun _ => sends_execCmds shell isMutating commands

theorem fileWriteScript_not_isMutating {path content script : Text}
    (h : buildAtomicBase64FileWriteScript coding path content = .ok script) :
    isMutating script = false := by
  simp only [buildAtomicBase64FileWriteScript] at h
  split at h
  · cases h
  · obtain rfl := Except.ok.inj h
    rfl

theorem fstabAppendScript_not_isMutating {existing line script : Text}
    (h : buildFstabAppendScript coding existing line = .ok script) : isMutating script = false := by
  simp only [buildFstabAppendScript] at h
  split at h
  · cases h
  · split at h
    · obtain rfl := Except.ok.inj h
      rfl
    · exact fileWriteScript_not_isMutating coding h

theorem sends_registerMount (payload : CreateFsPayload) (uuid : Text) :
    Session.Sends isMutating (registerMount coding shell payload uuid) [] := by
  rw [registerMount]
  split
  · rw [appendFstabLine]
    refine Session.sends_bind (p := []) (Session.sends_send shell _) fun read => ?_
    refine Session.sends_ofExcept_bind fun script hScript => ?_
    have hKind : [script].filter isMutating = [] := by
      rw [List.filter_cons_of_neg (by simp [fstabAppendScript_not_isMutating coding hScript])]
      rfl
    refine Session.sends_bind (p := []) (hKind ▸ Session.sends_send shell script) fun result => ?_
    exact Session.sends_ofExcept _
  · exact Session.sends_pure ()

theorem sends_mountCreated (payload : CreateFsPayload) (mkfsTarget : Text) :
    Session.Sends isMutating
      (mountCreated coding shell payload mkfsTarget (some input.mountCommand))
      [input.mountCommand] := by
  have hMount : Session.Sends isMutating (execCmds shell [input.mountCommand])
      [input.mountCommand] := by
    apply sends_execCmds_mutating
    intro c hc
    obtain rfl := List.mem_singleton.mp hc
    rfl
  rw [mountCreated]
  refine Session.sends_bind (p := []) (Session.sends_send shell _) fun blkid => ?_
  refine Session.sends_bind (p := []) (sends_registerMount coding shell payload _) fun _ => ?_
  exact Session.sends_bind (q := []) hMount fun _ => Session.sends_pure _

variable {payload : CreateFsPayload}

theorem runCreateFilesystem_eq (h : payload.IsChecked) :
    runCreateFilesystem coding shell payload = (do
      execCmds shell (payload.commandsInput payload.allowWipeSignatures).formatCommands
      mountCreated coding shell payload
        (payload.commandsInput payload.allowWipeSignatures).mkfsTarget
        (some (payload.commandsInput payload.allowWipeSignatures).mountCommand)) := by
  simp only [runCreateFilesystem, h.filter_commands, List.dropLast_concat, List.getLast?_concat]

theorem sends_runCreateFilesystem (h : payload.IsChecked) :
    Session.Sends isMutating (runCreateFilesystem coding shell payload)
      (payload.commandsInput payload.allowWipeSignatures).mutatingCommands := by
  rw [runCreateFilesystem_eq coding shell h]
  exact Session.sends_bind (sends_execCmds_mutating shell (formatCommands_isMutating _))
    fun _ => sends_mountCreated _ coding shell payload _

theorem opens_runCreateFilesystem (h : payload.IsChecked) {first : Text} {rest : List Text}
    (hFirst : (payload.commandsInput payload.allowWipeSignatures).mutatingCommands =
      first :: rest) :
    Session.Opens (runCreateFilesystem coding shell payload) first := by
  have hNe : (payload.commandsInput payload.allowWipeSignatures).formatCommands ≠ [] := by
    rw [CreateFsCommandsInput.formatCommands]
    exact List.append_ne_nil_of_right_ne_nil _ (List.cons_ne_nil _ _)
  obtain ⟨cmd, commands, hFormat⟩ := List.exists_cons_of_ne_nil hNe
  rw [CreateFsCommandsInput.mutatingCommands, hFormat] at hFirst
  obtain ⟨rfl, -⟩ := List.cons.inj hFirst
  rw [runCreateFilesystem_eq coding shell h, hFormat]
  exact Session.opens_bind (opens_execCmds shell cmd commands)
    fun _ => sends_mountCreated _ coding shell payload _

end

def executedCommands (run : Session CreateFsResult) : List Text :=
  (Session.sentBy run).filter isMutating

/-- The commands that change the node are the shown ones in their order, up to the first that
fails, and the signatures are wiped when that is shown. -/
structure CreatedAsPreviewed (preview : List Text) (run : Session CreateFsResult) : Prop where
  inOrder : executedCommands run <+: withoutBlkidStep preview
  whole : Session.succeeds run = true → executedCommands run = withoutBlkidStep preview
  wipes : (executedCommands run).any wipesSignatures = preview.any wipesSignatures

theorem any_wipesSignatures_mutatingCommands :
    input.mutatingCommands.any wipesSignatures = input.wipeBeforeFormat := by
  obtain ⟨first, rest, hList, hFirst, hRest⟩ := exists_mutatingCommands_eq input
  have hNone : rest.any wipesSignatures = false := by
    rw [List.any_eq_false]
    intro c hc
    simp [hRest c hc]
  rw [hList, List.any_cons, hNone, Bool.or_false, hFirst]

variable {coding : FileCoding} {shell : Shell} {payload : CreateFsPayload}

theorem any_wipesSignatures_executed (h : payload.IsChecked) :
    (executedCommands (runCreateFilesystem coding shell payload)).any wipesSignatures =
      payload.allowWipeSignatures := by
  have hPrefix := Session.sentBy_prefix (sends_runCreateFilesystem coding shell h)
  have hKinds := mutatingCommands_isMutating
    (payload.commandsInput payload.allowWipeSignatures)
  obtain ⟨first, rest, hList, hFirst, hRest⟩ :=
    exists_mutatingCommands_eq (payload.commandsInput payload.allowWipeSignatures)
  have hHead := Session.head?_sentBy (opens_runCreateFilesystem coding shell h hList)
    (hKinds first (hList ▸ List.mem_cons_self))
  obtain ⟨more, hMore⟩ := List.head?_eq_some_iff.mp hHead
  rw [hMore, hList, List.cons_prefix_cons] at hPrefix
  have hNone : more.any wipesSignatures = false := by
    rw [List.any_eq_false]
    intro c hc
    simp [hRest c (hPrefix.2.subset hc)]
  rw [executedCommands, hMore, List.any_cons, hNone, Bool.or_false, hFirst]
  rfl

theorem any_wipesSignatures_commands :
    (buildCreateFilesystemCommands input).any wipesSignatures = input.wipeBeforeFormat := by
  have hBlkid : wipesSignatures input.blkidCommand = false := rfl
  rw [← any_wipesSignatures_mutatingCommands, buildCreateFilesystemCommands,
    CreateFsCommandsInput.mutatingCommands, List.any_append, List.any_append, List.any_cons,
    hBlkid, Bool.false_or]

variable {exec : Text → Except Text Answer} {overview : FsOverview}
  {candidates : List FsBackendCandidate}

theorem of_preflightCreateFs_ok
    (hOk : (preflightCreateFs exec overview candidates payload).ok) :
    payload.IsChecked ∧
    (preflightCreateFs exec overview candidates payload).commands =
      buildCreateFilesystemCommands
        (payload.commandsInput (requiresWipe candidates payload.backendPath)) := by
  simp only [preflightCreateFs] at hOk ⊢
  split at hOk
  · cases hOk
  next hValid =>
    rw [if_neg hValid]
    exact ⟨isChecked_of_validate (not_not.mp hValid), rfl⟩

/-- The commands that make a file system are the shown ones exactly when a wipe is allowed for the
devices that are shown to be wiped, and for no others. -/
theorem created_as_previewed_iff (coding : FileCoding) (shell : Shell)
    (hOk : (preflightCreateFs exec overview candidates payload).ok = true) :
    CreatedAsPreviewed (preflightCreateFs exec overview candidates payload).commands
        (runCreateFilesystem coding shell payload) ↔
      payload.allowWipeSignatures = requiresWipe candidates payload.backendPath := by
  obtain ⟨hChecked, hCommands⟩ := of_preflightCreateFs_ok hOk
  rw [hCommands]
  constructor
  · intro hAs
    have hWipes := hAs.wipes
    rwa [any_wipesSignatures_executed hChecked, any_wipesSignatures_commands] at hWipes
  · intro hSame
    have hSends := sends_runCreateFilesystem coding shell hChecked
    rw [← hSame]
    refine ⟨?_, fun hDone => ?_, ?_⟩
    · rw [withoutBlkidStep_commands]
      exact Session.sentBy_prefix hSends
    · rw [withoutBlkidStep_commands]
      exact Session.sentBy_eq hSends hDone
    · rw [any_wipesSignatures_executed hChecked, any_wipesSignatures_commands]
      rfl

def cleanDisk : FsBackendCandidate := ⟨"/dev/sdb".toList, true, some .eligibleClean, []⟩

def cleanDiskPayload (allowWipe : Bool) : CreateFsPayload :=
  CreateFsPayload.mk "/dev/sdb".toList "xfs".toList "data".toList "/mnt/data".toList none allowWipe
    false none

/-- A node on which every command succeeds. -/
def quietShell : Shell := fun _ _ => .ok ⟨0, [], []⟩

def cleanDiskPreflight (allowWipe : Bool) : FsPreflightResult :=
  preflightCreateFs (quietShell []) {} [cleanDisk] (cleanDiskPayload allowWipe)

theorem created_as_previewed_clean :
    CreatedAsPreviewed (cleanDiskPreflight false).commands
      (runCreateFilesystem ⟨id, "EOF".toList⟩ quietShell (cleanDiskPayload false)) :=
  (created_as_previewed_iff ⟨id, "EOF".toList⟩ quietShell (by decide +kernel)).mpr
    (by decide +kernel)

/-- A clean disk is wiped when the client allows it, and the preview has no such command. -/
theorem cleanDisk_wiped_not_previewed :
    (cleanDiskPreflight true).ok = true ∧ ¬ CreatedAsPreviewed (cleanDiskPreflight true).commands
      (runCreateFilesystem ⟨id, "EOF".toList⟩ quietShell (cleanDiskPayload true)) := by
  refine ⟨by decide +kernel, fun hAs => ?_⟩
  have hWipes := hAs.wipes
  revert hWipes
  decide +kernel

end EsosWebui.Fs
