import EsosWebui.Raid.MdCleaning
import EsosWebui.Raid.ShownCommands

/-! What the commands that remove MD metadata and the probes that look for it print on a node, as
it is read: exit codes from the markers of their wrappers, signatures from the texts. -/
namespace EsosWebui.Raid

open Js

/-- `/LABEL(\d+)\s*$/`: the number at the end of a text and what stands before its label. -/
def trailingDigits (label text : Text) : Option (Text × Text) :=
  let core := text.rdropWhile isSpace
  let front := core.rdropWhile Char.isDigit
  let digits := core.rtakeWhile Char.isDigit
  if digits ≠ [] ∧ label <:+ front then some (digits, front.take (front.length - label.length))
  else none

def probeExitLabel : Text := "__PROBE_EXIT__=".toList

def zeroExitLabel : Text := "__MD_ZERO_EXIT__=".toList

/-- What `echo LABEL$?` prints. -/
def marker (label : Text) (exitCode : Nat) : Text := label ++ (Nat.toDigits 10 exitCode ++ ['\n'])

structure ProbeExit where
  exitCode : Option Nat
  body : Text

def parseProbeExit (stdout : Text) : ProbeExit :=
  match trailingDigits probeExitLabel stdout with
  | some (digits, before) => ⟨some (Nat.ofDigitChars 10 digits 0), trim before⟩
  | none => ⟨none, trim stdout⟩

def afterTextAnyCase (literal text : Text) : Option Text :=
  if (text.take literal.length).map Char.toLower = literal.map Char.toLower then
    some (text.drop literal.length)
  else none

def containsAnyCase (text part : Text) : Bool :=
  contains (text.map Char.toLower) (part.map Char.toLower)

def laterLines : Text → List Text
  | [] => []
  | c :: rest => if isLineTerminator c then rest :: laterLines rest else laterLines rest

/-- The value of a key, in a text without blanks at its end:
`^\s*KEY\s*:\s*(.+)$`, whatever the case, over lines. -/
def parseExamineValue (output key : Text) : Option Text :=
  (output :: laterLines output).findSome? fun line => do
    let rest ← afterTextAnyCase key (trimStart line)
    match trimStart rest with
    | ':' :: value =>
      let value := (trimStart value).takeWhile (!isLineTerminator ·)
      if value = [] then none else some (trim value)
    | _ => none

/-- A number that is not zero, after an optional sign. -/
def startsWithPositive (value : Text) : Bool :=
  let t := trimStart value
  let digits := (if t.head? = some '+' then t.tail else t).takeWhile Char.isDigit
  Nat.ofDigitChars 10 digits 0 ≠ 0

/-- `/^[^:]+:md[a-z0-9_-]{0,15}$/i` -/
def namesMdArray (name : Text) : Bool :=
  let host := name.takeWhile (· ≠ ':')
  match afterTextAnyCase ":md".toList (name.dropWhile (· ≠ ':')) with
  | some rest =>
    host ≠ [] && rest.length ≤ 15 && rest.all fun c => c.isAlphanum || c = '_' || c = '-'
  | none => false

/-- `value.replace(/^raid/i, '')` -/
def withoutRaid (value : Text) : Text := (afterTextAnyCase "raid".toList value).getD value

def isMdSuperblockDetected (stdout : Text) : Bool :=
  let trimmed := trim stdout
  if trimmed = [] || containsAnyCase trimmed "No md superblock detected".toList then false
  else
    let value (key : String) := parseExamineValue trimmed key.toList
    let uuid := (value "Array UUID").or (value "UUID")
    uuid.any (trim · ≠ []) ||
      ((value "Raid Level").map withoutRaid).any (trim · ≠ []) ||
      (value "Raid Devices").any startsWithPositive ||
      (value "Name").any fun name => namesMdArray (trim name)

def isTypeHeader (column : Text) : Bool := column.map Char.toLower = "type".toList

structure WipefsState where
  /-- The bulk format names a device before its lines. -/
  named : Bool
  typeIndex : Nat := 2
  signatures : List Text := []

def wipefsLine (isType : Text → Bool) (state : WipefsState) (line : Text) : WipefsState :=
  let columns := words line
  match columns.findIdx? isTypeHeader with
  | some i => { state with typeIndex := i }
  | none =>
    match columns[state.typeIndex]? with
    | some type =>
      if isType type && !state.signatures.contains type then
        { state with signatures := state.signatures ++ [type] }
      else state
    | none => state

/-- `line.slice('---DEVICE '.length, -3).trim()`, of a line that names a device. -/
def bulkDevice (line : Text) : Option Text :=
  let start := "---DEVICE ".toList
  if startsWith line start && endsWith line "---".toList then
    some (trim ((line.take (line.length - 3)).drop start.length))
  else none

def wipefsBulkLine (state : WipefsState) (line : Text) : WipefsState :=
  match bulkDevice line with
  | some device => { state with named := device ≠ [], typeIndex := 2 }
  | none => if state.named then wipefsLine (fun _ => true) state line else state

def isTypeName (type : Text) : Bool :=
  type ≠ [] && type.all fun c => c.isAlphanum || c = '_' || c = '-'

def parseWipefsProbeOutput (output : Text) : List Text :=
  let trimmed := trim output
  if trimmed = [] then []
  else
    let lines := trimmed.splitOn '\n'
    if contains trimmed "---DEVICE".toList then
      (lines.foldl wipefsBulkLine { named := false }).signatures
    else (lines.foldl (wipefsLine isTypeName) { named := true }).signatures

/-- The first `TYPE="…"` of a line. -/
def blkidType (line : Text) : Option Text :=
  line.tails.findSome? fun rest => do
    let value ← afterText "TYPE=\"".toList rest
    let type := value.takeWhile (· ≠ '"')
    if type ≠ [] ∧ type ≠ value then some type else none

def parseBlkidTypes (output : Text) : List Text :=
  unique ((output.splitOn '\n').filterMap blkidType)

/-- How a command ends on the node and what it prints; the connection is cut after some of it, or
the call is rejected, unless all went well. -/
structure CommandRun where
  exitCode : Nat
  printed : Text := []
  stderr : Text := []
  cut : Option Nat := none
  rejected : Bool := false

namespace CommandRun

variable (run : CommandRun)

/-- The command ran to its end and was told so. -/
def Completed : Prop := run.cut = none ∧ run.rejected = false

instance : Decidable run.Completed := inferInstanceAs (Decidable (_ ∧ _))

def arrived (text : Text) : Text := (run.cut.map text.take).getD text

/-- The output of a probe, up to its limit. -/
def seen : Text :=
  (parseProbeExit (run.arrived (run.printed ++ marker probeExitLabel run.exitCode))).body.take 2000

/-- The code that is read for `mdadm --zero-superblock`: the first marker counts. -/
def zeroAnswer : StepAnswer :=
  let stdout := run.arrived (run.printed ++ marker zeroExitLabel run.exitCode)
  { exitCode := run.exitCode
    readCode := (firstDigits zeroExitLabel stdout).map (Nat.ofDigitChars 10 · 0)
    stdout := String.ofList (((trailingDigits zeroExitLabel stdout).map (·.2)).getD stdout) }

/-- The code that is read for `wipefs`, which is wrapped twice: the last marker counts, which is
that of the first `echo`. -/
def wipeAnswer : StepAnswer :=
  let stdout := run.arrived
    (run.printed ++ (marker probeExitLabel run.exitCode ++ marker probeExitLabel 0))
  let probe := parseProbeExit stdout
  { exitCode := run.exitCode
    readCode := if run.rejected ∧ probe.exitCode = some 0 then none else probe.exitCode
    stdout := String.ofList probe.body }

end CommandRun

/-- How a node answers while one partition is cleaned: to the commands, and to the probes before
and after them. -/
structure PartitionRuns where
  command : String → CommandRun
  baseline : String → CommandRun
  after : String → CommandRun
  /-- There is a `blkid` on the node. -/
  blkidAvailable : Bool := true

def examineCommand (devPath : String) : String := s!"mdadm --examine {devPath}"

def wipefsCommand (devPath : String) : String := s!"wipefs -n {devPath}"

def blkidCommand (devPath : String) : String :=
  s!"blkid -p {devPath} 2>/dev/null || blkid {devPath} 2>/dev/null"

def texts (values : List Text) : List String := values.map String.ofList

/-- The types that `blkid` prints, unless there is no such command. -/
def blkidTypes (seen stderr : Text) : List Text :=
  if containsAnyCase (seen ++ stderr) "not found".toList then [] else parseBlkidTypes seen

section

variable [CaseMapping]

def buildRemainingSignatureTypes (examineDetected : Bool) (wipefs blkid : List String) :
    List String :=
  (unique ((if examineDetected then ["mdadm_examine"] else []) ++ wipefs ++ blkid)).filter fun t =>
    isRaidRelatedSignature t || t == "mdadm_examine"

def buildRemainingNonMdSignatures (wipefs blkid : List String) : List String :=
  unique ((wipefs ++ blkid).filter (!isRaidRelatedSignature ·))

def collectPartitionMetadataDiagnostics (probe : String → CommandRun) (devPath : String) :
    PartitionMetadataDiagnostics :=
  let examineDetected := isMdSuperblockDetected (probe (examineCommand devPath)).seen
  let wipefs := texts (parseWipefsProbeOutput (probe (wipefsCommand devPath)).seen)
  let blkidProbe := probe (blkidCommand devPath)
  let blkid := texts (blkidTypes blkidProbe.seen (blkidProbe.stderr.take 500))
  let remaining := buildRemainingSignatureTypes examineDetected wipefs blkid
  { mdMetadataRemoved := !examineDetected && !wipefs.any isRaidRelatedSignature &&
      !blkid.any isRaidRelatedSignature && remaining.length == 0
    remainingSignatureTypes := remaining
    remainingNonMdSignatures := buildRemainingNonMdSignatures wipefs blkid }

def PartitionRuns.answers (runs : PartitionRuns) (devPath : String) : PartitionAnswers where
  step cmd :=
    if includes cmd "mdadm --zero-superblock" then (runs.command cmd).zeroAnswer
    else (runs.command cmd).wipeAnswer
  baseline := collectPartitionMetadataDiagnostics runs.baseline devPath
  diagnostics := collectPartitionMetadataDiagnostics runs.after devPath

end

def memberPath (member : String) : String := ((sanitizeMemberPath member).toOption).getD member

inductive MetadataProbe where
  | examine
  | wipefs
  | blkid

namespace MetadataProbe

def command (devPath : String) : MetadataProbe → String
  | examine => examineCommand devPath
  | wipefs => wipefsCommand devPath
  | blkid => blkidCommand devPath

variable [CaseMapping]

def isMdType (type : String) : Bool := isRaidRelatedSignature type || type == "mdadm_examine"

def shows (text : Text) : MetadataProbe → Bool
  | examine => isMdSuperblockDetected (trim text)
  | wipefs => (texts (parseWipefsProbeOutput (trim text))).any isMdType
  | blkid => (texts (parseBlkidTypes (trim text))).any isMdType

def detects (run : CommandRun) : MetadataProbe → Bool
  | examine => isMdSuperblockDetected run.seen
  | wipefs => (texts (parseWipefsProbeOutput run.seen)).any isMdType
  | blkid => (texts (blkidTypes run.seen (run.stderr.take 500))).any isMdType

end MetadataProbe

section

variable [CaseMapping] {probe : String → CommandRun} {devPath : String}

theorem remainingSignatureTypes_eq_nil_iff :
    (collectPartitionMetadataDiagnostics probe devPath).remainingSignatureTypes = [] ↔
      ∀ k : MetadataProbe, k.detects (probe (k.command devPath)) = false := by
  simp only [collectPartitionMetadataDiagnostics, buildRemainingSignatureTypes,
    List.filter_eq_nil_iff, mem_unique, List.mem_append]
  constructor
  · intro h k
    rw [Bool.eq_false_iff]
    intro hDetects
    cases k with
    | examine =>
      apply h "mdadm_examine"
      · left; left
        simp only [MetadataProbe.detects, MetadataProbe.command] at hDetects
        rw [if_pos hDetects]
        exact List.mem_singleton_self _
      · simp
    | wipefs =>
      obtain ⟨type, hType, hMd⟩ := List.any_eq_true.mp hDetects
      exact h type (Or.inl (Or.inr hType)) hMd
    | blkid =>
      obtain ⟨type, hType, hMd⟩ := List.any_eq_true.mp hDetects
      exact h type (Or.inr hType) hMd
  · rintro h type ((hExamine | hWipefs) | hBlkid) hMd
    · have hNot := h .examine
      simp only [MetadataProbe.detects, MetadataProbe.command] at hNot
      simp [hNot] at hExamine
    · exact Bool.eq_false_iff.mp (h .wipefs) (List.any_eq_true.mpr ⟨type, hWipefs, hMd⟩)
    · exact Bool.eq_false_iff.mp (h .blkid) (List.any_eq_true.mpr ⟨type, hBlkid, hMd⟩)

theorem mdMetadataRemoved_iff :
    (collectPartitionMetadataDiagnostics probe devPath).mdMetadataRemoved = true ↔
      ∀ k : MetadataProbe, k.detects (probe (k.command devPath)) = false := by
  rw [← remainingSignatureTypes_eq_nil_iff]
  constructor
  · intro h
    simp only [collectPartitionMetadataDiagnostics, Bool.and_eq_true, beq_iff_eq] at h
    exact List.length_eq_zero_iff.mp h.2
  · intro h
    have hNone := remainingSignatureTypes_eq_nil_iff.mp h
    have hRaid (types : List String) (hTypes : types.any MetadataProbe.isMdType = false) :
        types.any isRaidRelatedSignature = false := by
      rw [List.any_eq_false] at hTypes ⊢
      intro type hType hIs
      exact hTypes type hType (by rw [MetadataProbe.isMdType, hIs, Bool.true_or])
    have hExamine : isMdSuperblockDetected (probe (examineCommand devPath)).seen = false :=
      hNone .examine
    have hWipefs : (texts (parseWipefsProbeOutput (probe (wipefsCommand devPath)).seen)).any
        isRaidRelatedSignature = false := hRaid _ (hNone .wipefs)
    have hBlkid : (texts (blkidTypes (probe (blkidCommand devPath)).seen
        ((probe (blkidCommand devPath)).stderr.take 500))).any isRaidRelatedSignature = false :=
      hRaid _ (hNone .blkid)
    simp only [collectPartitionMetadataDiagnostics] at h ⊢
    rw [h, hExamine, hWipefs, hBlkid]
    rfl

end

inductive MetadataCleanup where
  | zero
  | wipe (selection : WipeSelection)

def PartitionAnswers.readCode (answers : PartitionAnswers) (command : String) : Nat :=
  (answers.step command).readCode.getD 1

namespace MetadataCleanup

variable [CaseMapping]

def run (answers : CleaningAnswers) (members : List String) :
    MetadataCleanup → Except HttpError ZeroMdSuperblocksResponse
  | zero => zeroMdSuperblocks answers members
  | wipe selection => wipeMdSignatures selection answers members

def sent (answers : PartitionAnswers) (member : String) :
    MetadataCleanup → Except HttpError (List String)
  | zero => zeroedMember member
  | wipe selection => wipedMember selection answers member

def result (answers : PartitionAnswers) (member : String) :
    MetadataCleanup → Except HttpError (Option ZeroMdSuperblockPartitionResult)
  | zero => (zeroSuperblockWithDiagnostics answers member).map some
  | wipe selection => (wipeMember selection answers member).map (·.1)

/-- What a member's commands come to. -/
def Passes (answers : PartitionAnswers) (commands : List String) : Prop :=
  (∀ command ∈ commands, answers.readCode command = 0) ∧
    answers.diagnostics.mdMetadataRemoved = true

/-- The result of a member tells of the commands that were run on it. -/
def Tells (answers : PartitionAnswers) (commands : List String) :
    Option ZeroMdSuperblockPartitionResult → Prop
  | none => commands = []
  | some r => commands ≠ [] ∧ (r.failed = false ↔ Passes answers commands)

omit [CaseMapping] in
theorem failed_partitionResult (devPath command : String) (step : StepResult)
    (diagnostics : PartitionMetadataDiagnostics) :
    (partitionResult devPath command step diagnostics).failed = false ↔
      step.success = true ∧ diagnostics.mdMetadataRemoved = true := by
  simp [ZeroMdSuperblockPartitionResult.failed, partitionResult]

theorem buildAdvancedCleanupCommands_ne_nil {devPath : String} {types commands : List String}
    {examineDetected : Bool}
    (h : buildAdvancedCleanupCommands devPath types examineDetected = .ok commands) :
    commands ≠ [] := by
  have hBuilt {built : List String} {error : HttpError}
      (hText : (if built = [] then Except.error error else .ok built) = .ok commands) :
      commands ≠ [] := by
    split at hText
    · cases hText
    next hSome => exact Except.ok.inj hText ▸ hSome
  unfold buildAdvancedCleanupCommands at h
  exact hBuilt h

omit [CaseMapping] in
theorem success_runCleanupStep (answers : PartitionAnswers) (devPath command : String) :
    (runCleanupStep answers devPath command).success = true ↔
      answers.readCode (cleanupStepCommand devPath command) = 0 := by
  rw [runCleanupStep_eq]
  exact beq_iff_eq

omit [CaseMapping] in
theorem success_combinedStep (answers : PartitionAnswers) (devPath : String)
    (commands : List String) :
    (combinedStep (commands.map (runCleanupStep answers devPath))).success = true ↔
      ∀ command ∈ commands.map (cleanupStepCommand devPath), answers.readCode command = 0 := by
  simp only [combinedStep, List.all_map, List.all_eq_true, Function.comp_apply,
    success_runCleanupStep, List.forall_mem_map]

variable {selection : WipeSelection} {answers : PartitionAnswers} {member devPath : String}

theorem result_wipe_of_nil (hPath : sanitizeMemberPath member = .ok devPath)
    (hNone : selection.remainingTypes answers devPath member = []) :
    (wipe selection).result answers member = .ok none := by
  simp only [result, wipeMember, hPath, bind, Except.bind]
  rw [if_pos hNone]
  rfl

theorem result_wipe_of_built {built : List String} (hPath : sanitizeMemberPath member = .ok devPath)
    (hSome : selection.remainingTypes answers devPath member ≠ [])
    (hBuilt : buildAdvancedCleanupCommands devPath
      (selection.remainingTypes answers devPath member)
      (selection.examineDetected devPath member) = .ok built) :
    (wipe selection).result answers member =
      .ok (some (partitionResult devPath (join "\n" built)
        (combinedStep (built.map (runCleanupStep answers devPath))) answers.diagnostics)) := by
  have hSame := sanitizeMemberPath_self (sanitizeMemberPath_eq_ok hPath).1
  simp only [result, wipeMember, wipeSignaturesWithDiagnostics, hPath, hSame, hBuilt, bind,
    Except.bind]
  rw [if_neg hSome]
  rfl

theorem result_of_sent {cleanup : MetadataCleanup} {answers : PartitionAnswers} {member : String}
    {commands : List String} (h : cleanup.sent answers member = .ok commands) :
    ∃ r, cleanup.result answers member = .ok r ∧ Tells answers commands r := by
  cases cleanup with
  | zero =>
    obtain ⟨devPath, hPath, h⟩ := bind_eq_ok.mp h
    cases pure_eq_ok.mp h
    refine ⟨_, map_eq_ok.mpr ⟨_, bind_eq_ok.mpr ⟨devPath, hPath, rfl⟩, rfl⟩,
      List.cons_ne_nil _ _, ?_⟩
    rw [failed_partitionResult, Passes, List.forall_mem_singleton]
    exact and_congr_left fun _ => beq_iff_eq
  | wipe selection =>
    obtain ⟨devPath, hPath, h⟩ := bind_eq_ok.mp h
    dsimp only at h
    split at h
    next hNone =>
      cases pure_eq_ok.mp h
      exact ⟨none, result_wipe_of_nil hPath hNone, rfl⟩
    next hSome =>
      obtain ⟨built, hBuilt, h⟩ := bind_eq_ok.mp h
      cases pure_eq_ok.mp h
      refine ⟨_, result_wipe_of_built hPath hSome hBuilt, ?_, ?_⟩
      · rw [ne_eq, List.map_eq_nil_iff]
        exact buildAdvancedCleanupCommands_ne_nil hBuilt
      · rw [failed_partitionResult, success_combinedStep]
        rfl

theorem sent_of_result {cleanup : MetadataCleanup} {answers : PartitionAnswers} {member : String}
    {r : Option ZeroMdSuperblockPartitionResult} (h : cleanup.result answers member = .ok r) :
    ∃ commands, cleanup.sent answers member = .ok commands := by
  cases cleanup with
  | zero =>
    obtain ⟨_, h, -⟩ := map_eq_ok.mp h
    obtain ⟨devPath, hPath, -⟩ := bind_eq_ok.mp h
    exact ⟨_, bind_eq_ok.mpr ⟨devPath, hPath, rfl⟩⟩
  | wipe selection =>
    obtain ⟨_, h, -⟩ := map_eq_ok.mp h
    obtain ⟨devPath, hPath, h⟩ := bind_eq_ok.mp h
    dsimp only at h
    split at h
    next hNone =>
      refine ⟨[], bind_eq_ok.mpr ⟨devPath, hPath, ?_⟩⟩
      dsimp only
      rw [if_pos hNone]
      rfl
    next hSome =>
      obtain ⟨_, hWipe, -⟩ := bind_eq_ok.mp h
      obtain ⟨path, hSame, hWipe⟩ := bind_eq_ok.mp hWipe
      obtain ⟨built, hBuilt, -⟩ := bind_eq_ok.mp hWipe
      rw [sanitizeMemberPath_self (sanitizeMemberPath_eq_ok hPath).1] at hSame
      cases hSame
      refine ⟨built.map (cleanupStepCommand devPath), bind_eq_ok.mpr ⟨devPath, hPath, ?_⟩⟩
      dsimp only
      rw [if_neg hSome, hBuilt]
      rfl

omit [CaseMapping] in
theorem cleanupResponse_ok_iff {results : List ZeroMdSuperblockPartitionResult}
    {warnings : List String} :
    (∃ response, cleanupResponse results warnings = .ok response) ↔
      ∀ r ∈ results, r.failed = false := by
  constructor
  · rintro ⟨response, h⟩
    obtain ⟨_, hPassed, -⟩ := bind_eq_ok.mp h
    simpa using throwIf_eq_ok.mp hPassed
  · intro h
    exact ⟨_, bind_eq_ok.mpr ⟨(), throwIf_eq_ok.mpr (by simpa using h), rfl⟩⟩

omit [CaseMapping] in
theorem mapM_map_eq_ok {ε α β γ : Type} {f : α → Except ε β} {g : β → γ} {l : List α}
    {results : List γ} :
    l.mapM (fun a => (f a).map g) = .ok results ↔ ∃ found, l.mapM f = .ok found ∧
      results = found.map g := by
  simp only [mapM_eq_ok, map_eq_ok]
  constructor
  · intro h
    induction h with
    | nil => exact ⟨[], .nil, rfl⟩
    | cons hHead _ ih =>
      obtain ⟨b, hb, rfl⟩ := hHead
      obtain ⟨found, hFound, rfl⟩ := ih
      exact ⟨b :: found, .cons hb hFound, rfl⟩
  · rintro ⟨found, hFound, rfl⟩
    rw [List.forall₂_map_right_iff]
    exact hFound.imp fun _ b hb => ⟨b, hb, rfl⟩

theorem run_ok_iff {cleanup : MetadataCleanup} {answers : CleaningAnswers}
    {members : List String} :
    (∃ response, cleanup.run answers members = .ok response) ↔
      answers.writeEnabled = true ∧ ∃ results,
        members.zipIdx.mapM (fun entry => cleanup.result (answers.partition entry.2) entry.1) =
          .ok results ∧
        results.filterMap id ≠ [] ∧ ∀ r ∈ results.filterMap id, r.failed = false := by
  have hEnabled : ∀ u, throwIf (!answers.writeEnabled) writeDisabled = .ok u ↔
      answers.writeEnabled = true := by
    intro u
    rw [throwIf_eq_ok]
    simp
  cases cleanup with
  | zero =>
    simp only [result, mapM_map_eq_ok]
    constructor
    · rintro ⟨response, h⟩
      obtain ⟨_, hWrite, h⟩ := bind_eq_ok.mp h
      obtain ⟨_, hMembers, h⟩ := bind_eq_ok.mp h
      obtain ⟨found, hFound, h⟩ := bind_eq_ok.mp h
      refine ⟨(hEnabled _).mp hWrite, _, ⟨found, hFound, rfl⟩, ?_, ?_⟩
      · rintro hNone
        have hLength := (mapM_eq_ok.mp hFound).length_eq
        simp only [List.filterMap_map, Function.comp_def, id_eq, List.filterMap_some] at hNone
        rw [hNone, List.length_zipIdx, List.length_nil, List.length_eq_zero_iff] at hLength
        exact throwIf_eq_ok.mp hMembers hLength
      · simpa [Function.comp_def] using cleanupResponse_ok_iff.mp ⟨response, h⟩
    · rintro ⟨hWrite, _, ⟨found, hFound, rfl⟩, hSome, hPassed⟩
      simp only [List.filterMap_map, Function.comp_def, id_eq, List.filterMap_some]
        at hSome hPassed
      obtain ⟨response, hResponse⟩ := cleanupResponse_ok_iff.mpr hPassed
      refine ⟨response, bind_eq_ok.mpr ⟨(), (hEnabled _).mpr hWrite, bind_eq_ok.mpr ⟨(), ?_,
        bind_eq_ok.mpr ⟨found, hFound, hResponse⟩⟩⟩⟩
      rw [throwIf_eq_ok]
      rintro rfl
      apply hSome
      exact (pure_eq_ok.mp hFound).symm
  | wipe selection =>
    simp only [result, mapM_map_eq_ok]
    constructor
    · rintro ⟨response, h⟩
      obtain ⟨_, hWrite, h⟩ := bind_eq_ok.mp h
      obtain ⟨_, -, h⟩ := bind_eq_ok.mp h
      obtain ⟨found, hFound, h⟩ := bind_eq_ok.mp h
      obtain ⟨_, hSome, h⟩ := bind_eq_ok.mp h
      refine ⟨(hEnabled _).mp hWrite, _, ⟨found, hFound, rfl⟩, ?_, ?_⟩
      · rw [List.filterMap_map]
        exact throwIf_eq_ok.mp hSome
      · rw [List.filterMap_map]
        exact cleanupResponse_ok_iff.mp ⟨response, h⟩
    · rintro ⟨hWrite, _, ⟨found, hFound, rfl⟩, hSome, hPassed⟩
      rw [List.filterMap_map] at hSome hPassed
      obtain ⟨response, hResponse⟩ := cleanupResponse_ok_iff.mpr hPassed
      refine ⟨response, bind_eq_ok.mpr ⟨(), (hEnabled _).mpr hWrite, bind_eq_ok.mpr ⟨(), ?_,
        bind_eq_ok.mpr ⟨found, hFound, bind_eq_ok.mpr ⟨(), throwIf_eq_ok.mpr hSome,
          hResponse⟩⟩⟩⟩⟩
      rw [throwIf_eq_ok]
      rintro rfl
      apply hSome
      cases pure_eq_ok.mp hFound
      rfl

theorem run_ok_iff_sent {cleanup : MetadataCleanup} {answers : CleaningAnswers}
    {members : List String} :
    (∃ response, cleanup.run answers members = .ok response) ↔
      answers.writeEnabled = true ∧
      (∀ entry ∈ members.zipIdx, ∃ commands,
        cleanup.sent (answers.partition entry.2) entry.1 = .ok commands ∧
          (commands ≠ [] → Passes (answers.partition entry.2) commands)) ∧
      ∃ entry ∈ members.zipIdx, ∃ commands ≠ [],
        cleanup.sent (answers.partition entry.2) entry.1 = .ok commands := by
  rw [run_ok_iff]
  constructor
  · rintro ⟨hWrite, results, hResults, hSome, hPassed⟩
    rw [mapM_eq_ok] at hResults
    refine ⟨hWrite, ?_, ?_⟩
    · intro entry hEntry
      obtain ⟨r, hr, hResult⟩ := exists_of_forall₂_left hResults hEntry
      obtain ⟨commands, hSent⟩ := sent_of_result hResult
      obtain ⟨r', hResult', hTells⟩ := result_of_sent hSent
      cases hResult.symm.trans hResult'
      refine ⟨commands, hSent, fun hCommands => ?_⟩
      cases r with
      | none => exact absurd hTells hCommands
      | some r => exact hTells.2.mp (hPassed r (List.mem_filterMap.mpr ⟨some r, hr, rfl⟩))
    · obtain ⟨r, hr⟩ := List.exists_mem_of_ne_nil _ hSome
      obtain ⟨_, hr, rfl⟩ := List.mem_filterMap.mp hr
      obtain ⟨entry, hEntry, hResult⟩ := exists_of_forall₂_right hResults hr
      obtain ⟨commands, hSent⟩ := sent_of_result hResult
      obtain ⟨r', hResult', hTells⟩ := result_of_sent hSent
      cases hResult.symm.trans hResult'
      exact ⟨entry, hEntry, commands, hTells.1, hSent⟩
  · rintro ⟨hWrite, hSent, first, hFirst, commands, hCommands, hFirstSent⟩
    have hEach : ∀ entry ∈ members.zipIdx, ∃ commands r,
        cleanup.sent (answers.partition entry.2) entry.1 = .ok commands ∧
        cleanup.result (answers.partition entry.2) entry.1 = .ok r ∧
        Tells (answers.partition entry.2) commands r ∧
        (commands ≠ [] → Passes (answers.partition entry.2) commands) := by
      intro entry hEntry
      obtain ⟨commands, hSent, hPasses⟩ := hSent entry hEntry
      obtain ⟨r, hResult, hTells⟩ := result_of_sent hSent
      exact ⟨commands, r, hSent, hResult, hTells, hPasses⟩
    have hResults : members.zipIdx.mapM (fun entry =>
        cleanup.result (answers.partition entry.2) entry.1) = .ok (members.zipIdx.map fun entry =>
          ((cleanup.result (answers.partition entry.2) entry.1).toOption).getD none) := by
      apply mapM_ok
      intro entry hEntry
      obtain ⟨_, r, -, hResult, -⟩ := hEach entry hEntry
      rw [hResult]
      rfl
    refine ⟨hWrite, _, hResults, ?_, ?_⟩
    · obtain ⟨_, r, hSame, hResult, hTells, -⟩ := hEach first hFirst
      cases hFirstSent.symm.trans hSame
      cases r with
      | none => exact absurd hTells hCommands
      | some r =>
        apply List.ne_nil_of_mem
        refine List.mem_filterMap.mpr ⟨some r, List.mem_map.mpr ⟨first, hFirst, ?_⟩, rfl⟩
        rw [hResult]
        rfl
    · intro r hr
      obtain ⟨_, hr, rfl⟩ := List.mem_filterMap.mp hr
      obtain ⟨entry, hEntry, hFound⟩ := List.mem_map.mp hr
      obtain ⟨commands, _, -, hResult, hTells, hPasses⟩ := hEach entry hEntry
      rw [hResult] at hFound
      cases hFound
      exact hTells.2.mpr (hPasses hTells.1)

end MetadataCleanup

end EsosWebui.Raid
