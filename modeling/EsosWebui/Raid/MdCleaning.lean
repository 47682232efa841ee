import EsosWebui.Raid.ExecuteNodes

/-! Removal of MD metadata from the partitions of a node: the commands that are run on
each of them, and when it counts as done. -/
namespace EsosWebui.Raid

open Js

/-- How a command that changes a partition ends, the code that is read from its output, unless
the output is cut before it, and the text of the output. -/
structure StepAnswer where
  exitCode : Nat
  readCode : Option Nat
  stdout : String := ""

/-- What the read-only probes of a partition find. -/
structure PartitionMetadataDiagnostics where
  mdMetadataRemoved : Bool
  remainingSignatureTypes : List String := []
  remainingNonMdSignatures : List String := []

structure PartitionAnswers where
  step : String → StepAnswer
  baseline : PartitionMetadataDiagnostics
  diagnostics : PartitionMetadataDiagnostics

structure StepResult where
  exitCode : Nat
  stdout : String
  success : Bool

def stepResult (exitCode : Nat) (stdout : String) : StepResult :=
  { exitCode, stdout := trimString stdout, success := exitCode == 0 }

def zeroSuperblockCommand (devPath : String) (force : Bool) : String :=
  if force then s!"mdadm --zero-superblock --force {devPath}"
  else s!"mdadm --zero-superblock {devPath}"

def runZeroSuperblockCommand (answers : PartitionAnswers) (devPath : String) (force : Bool) :
    StepResult :=
  let answer := answers.step (zeroSuperblockCommand devPath force)
  stepResult (answer.readCode.getD 1) answer.stdout

/-- The command comes wrapped already and is wrapped again, so that the code that is read may be
that of the inner wrapper's `echo`. -/
def runWipeSignaturesCommand (answers : PartitionAnswers) (wipeCommand : String) : StepResult :=
  let answer := answers.step wipeCommand
  stepResult (answer.readCode.getD 1) answer.stdout

structure ZeroMdSuperblockPartitionResult where
  partition : String
  command : String
  success : Bool
  stdout : String
  exitCode : Nat
  verifiedRemoved : Bool
  mdMetadataRemoved : Bool
  remainingNonMdSignatures : List String

def partitionResult (devPath command : String) (step : StepResult)
    (diagnostics : PartitionMetadataDiagnostics) : ZeroMdSuperblockPartitionResult :=
  { partition := devPath
    command
    success := step.success
    stdout := step.stdout
    exitCode := step.exitCode
    verifiedRemoved := diagnostics.mdMetadataRemoved
    mdMetadataRemoved := diagnostics.mdMetadataRemoved
    remainingNonMdSignatures := diagnostics.remainingNonMdSignatures }

def ZeroMdSuperblockPartitionResult.failed (r : ZeroMdSuperblockPartitionResult) : Bool :=
  !r.success || !r.mdMetadataRemoved || !r.verifiedRemoved

def zeroSuperblockWithDiagnostics (answers : PartitionAnswers) (partition : String) :
    Except HttpError ZeroMdSuperblockPartitionResult := do
  let devPath ← sanitizeMemberPath partition
  return partitionResult devPath (zeroSuperblockCommand devPath false)
    (runZeroSuperblockCommand answers devPath false) answers.diagnostics

section

variable [CaseMapping]

def isRaidRelatedSignature (type : String) : Bool :=
  let normalized := CaseMapping.toLowerCase (trimString type)
  normalized == "mdadm_examine" || normalized == "linux_raid_member" || normalized == "mdraid" ||
    normalized == "mdadm" || (afterLiteral "raid" normalized).isSome

def buildAdvancedCleanupCommands (devPath : String) (remainingSignatureTypes : List String)
    (examineDetected : Bool) : Except HttpError (List String) :=
  let types := unique (remainingSignatureTypes.filter fun t =>
    t != "mdadm_examine" && isRaidRelatedSignature t)
  let list := join "," types
  let wipes :=
    if types.any fun t => CaseMapping.toLowerCase t == "linux_raid_member" then
      [s!"wipefs --types=linux_raid_member -a {devPath}"]
    else if types.length > 0 then [s!"wipefs --types={list} -a {devPath}"]
    else []
  let needsForceZero := remainingSignatureTypes.contains "mdadm_examine" || examineDetected
  let commands := wipes ++ if needsForceZero then [zeroSuperblockCommand devPath true] else []
  if commands = [] then .error ⟨400, "Aucune action de nettoyage avancée applicable"⟩
  else .ok commands

/-- `cmd.includes('mdadm --zero-superblock')` decides how a command is run. -/
def runCleanupStep (answers : PartitionAnswers) (devPath cmd : String) : StepResult :=
  if includes cmd "mdadm --zero-superblock" then
    runZeroSuperblockCommand answers devPath (includes cmd "--force")
  else runWipeSignaturesCommand answers cmd

def combinedStep (steps : List StepResult) : StepResult :=
  { exitCode :=
      if steps.all (·.success) then 0 else (steps.getLast?.map (·.exitCode)).getD 1
    stdout := join "\n---\n" ((steps.map (·.stdout)).filter (· != ""))
    success := steps.all (·.success) }

def wipeSignaturesWithDiagnostics (answers : PartitionAnswers) (partition : String)
    (remainingSignatureTypes : List String) (examineDetected : Bool) :
    Except HttpError ZeroMdSuperblockPartitionResult := do
  let devPath ← sanitizeMemberPath partition
  let commands ← buildAdvancedCleanupCommands devPath remainingSignatureTypes examineDetected
  let steps := commands.map (runCleanupStep answers devPath)
  return partitionResult devPath (join "\n" commands) (combinedStep steps) answers.diagnostics

end

/-- What a cleanup of a node comes to. -/
structure ZeroMdSuperblocksResponse where
  ok : Bool
  results : List ZeroMdSuperblockPartitionResult
  warnings : List String
  stdout : String
  commands : List String

/-- Output is cut to its first 4000 characters. -/
def cleanupStdout (results : List ZeroMdSuperblockPartitionResult) : String :=
  String.ofList ((join "\n---\n" ((results.map (·.stdout)).filter (· != ""))).toList.take 4000)

def cleanupResponse (results : List ZeroMdSuperblockPartitionResult) (warnings : List String) :
    Except HttpError ZeroMdSuperblocksResponse := do
  throwIf (results.any (·.failed) = true) ⟨422, "MD metadata still present"⟩
  return { ok := true, results, warnings, stdout := cleanupStdout results
           commands := results.map (·.command) }

structure CleaningAnswers where
  writeEnabled : Bool := true
  partition : Nat → PartitionAnswers

def writeDisabled : HttpError :=
  ⟨403, "Les actions d'écriture RAID sont désactivées (RAID_SOFTWARE_WRITE_ENABLED=false)"⟩

def zeroWarning (r : ZeroMdSuperblockPartitionResult) : List String :=
  let partition := r.partition
  let code := r.exitCode
  let nonMd := join ", " r.remainingNonMdSignatures
  if !r.success then [s!"{partition} : mdadm --zero-superblock a échoué (code {code})"]
  else if !r.mdMetadataRemoved || !r.verifiedRemoved then
    [s!"{partition} : superblock MD encore détecté après nettoyage"]
  else if r.remainingNonMdSignatures.length > 0 then
    [s!"{partition} : signature non-RAID {nonMd}"]
  else []

def zeroMdSuperblocks (answers : CleaningAnswers) (members : List String) :
    Except HttpError ZeroMdSuperblocksResponse := do
  throwIf (!answers.writeEnabled) writeDisabled
  throwIf (members = []) ⟨400, "Au moins une partition membre est requise"⟩
  let results ← members.zipIdx.mapM fun (member, i) =>
    zeroSuperblockWithDiagnostics (answers.partition i) member
  cleanupResponse results (results.flatMap zeroWarning)

/-- What a request says of its members: the signatures to erase, and whether `mdadm --examine`
detected them. -/
structure WipeSelection where
  remainingSignatureTypes : List (String × List String) := []
  mdadmExamine : List (String × Bool) := []

variable [CaseMapping]

/-- The signatures that a request names for a member; none when it names none. -/
def WipeSelection.presetTypes (selection : WipeSelection) (devPath member : String) :
    List String :=
  ((selection.remainingSignatureTypes.lookup devPath).or
    (selection.remainingSignatureTypes.lookup member)).getD []

def WipeSelection.remainingTypes (selection : WipeSelection) (answers : PartitionAnswers)
    (devPath member : String) : List String :=
  if selection.presetTypes devPath member = [] then answers.baseline.remainingSignatureTypes
  else selection.presetTypes devPath member

def WipeSelection.examineDetected (selection : WipeSelection) (devPath member : String) : Bool :=
  ((selection.mdadmExamine.lookup devPath).or (selection.mdadmExamine.lookup member)).getD false

def wipeMember (selection : WipeSelection) (answers : PartitionAnswers) (member : String) :
    Except HttpError (Option ZeroMdSuperblockPartitionResult × List String) := do
  let devPath ← sanitizeMemberPath member
  let remainingTypes := selection.remainingTypes answers devPath member
  let found :=
    if selection.presetTypes devPath member = [] ∧ answers.baseline.mdMetadataRemoved then
      [s!"{devPath} : aucune signature RAID détectée avant nettoyage"]
    else []
  if remainingTypes = [] then
    return (none, found ++ [s!"{devPath} : aucune signature à effacer"])
  else
    let result ← wipeSignaturesWithDiagnostics answers devPath remainingTypes
      (selection.examineDetected devPath member)
    return (some result, found)

def wipeWarning (r : ZeroMdSuperblockPartitionResult) : List String :=
  let partition := r.partition
  let code := r.exitCode
  let nonMd := join ", " r.remainingNonMdSignatures
  if !r.success then [s!"{partition} : wipefs a échoué (code {code})"]
  else if !r.mdMetadataRemoved || !r.verifiedRemoved then
    [s!"{partition} : métadonnées RAID encore détectées après nettoyage des signatures"]
  else if r.remainingNonMdSignatures.length > 0 then
    [s!"{partition} : signature non-RAID {nonMd}"]
  else []

def wipeMdSignatures (selection : WipeSelection) (answers : CleaningAnswers)
    (members : List String) : Except HttpError ZeroMdSuperblocksResponse := do
  throwIf (!answers.writeEnabled) writeDisabled
  throwIf (members = []) ⟨400, "Au moins une partition membre est requise"⟩
  let wiped ← members.zipIdx.mapM fun (member, i) =>
    wipeMember selection (answers.partition i) member
  let results := wiped.filterMap (·.1)
  throwIf (results = [])
    ⟨400, "Aucune signature RAID à effacer sur les partitions sélectionnées"⟩
  cleanupResponse results (wiped.flatMap (·.2) ++ results.flatMap wipeWarning)

end EsosWebui.Raid
