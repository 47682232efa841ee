import EsosWebui.Js.Number
import EsosWebui.Raid.MdActions

/-! When a normal return of an MD action means that its command has ended with 0. -/
namespace EsosWebui.Raid

open Js

theorem unbordered_exitCodeLabel : Unbordered exitCodeLabel := by decide +kernel

theorem head?_toDigits {n : Nat} (h : n ≠ 0) :
    (Nat.toDigits 10 n).head?.any (fun c => '1' ≤ c && c ≤ '9') := by
  induction n using Nat.strongRecOn with
  | ind n ih =>
    by_cases hSmall : n < 10
    · have hChar : ∀ d < 10, d ≠ 0 → ('1' ≤ d.digitChar && d.digitChar ≤ '9') = true := by
        decide
      rw [Nat.toDigits_of_lt_base hSmall]
      exact hChar n hSmall h
    · have hSplit := Nat.toDigits_of_base_le (b := 10) (by omega) (Nat.le_of_not_lt hSmall)
      have hHead := ih (n / 10) (by omega) (by omega)
      rw [hSplit, List.head?_append]
      cases hFirst : (Nat.toDigits 10 (n / 10)).head? with
      | none => simp [hFirst] at hHead
      | some c => simpa [hFirst] using hHead

theorem hasFailureMarker_stdout {output : RemoteOutput} {code : Nat}
    (hCode : output.exitCode = some code) (hFails : code ≠ 0) :
    hasFailureMarker output.stdout := by
  have hHead := head?_toDigits hFails
  rw [RemoteOutput.stdout, hCode]
  refine occurs_append ?_ output.body
  cases hDigits : Nat.toDigits 10 code with
  | nil => exact absurd hDigits Nat.toDigits_ne_nil
  | cons first digits => simpa [hDigits] using hHead

def RemoteOutput.firstCode (output : RemoteOutput) : Option Nat :=
  ((firstDigits exitCodeLabel output.body).map (Nat.ofDigitChars 10 · 0)).or output.exitCode

theorem firstDigits_exitMarker (code : Nat) :
    firstDigits exitCodeLabel (exitMarker code) = some (Nat.toDigits 10 code) :=
  firstDigits_label_append Nat.toDigits_ne_nil
    (fun _ hc => Nat.isDigit_of_mem_toDigits (by omega) (by omega) hc) (by simp)

theorem firstCode_eq (output : RemoteOutput) :
    (firstDigits exitCodeLabel output.stdout).map (Nat.ofDigitChars 10 · 0) =
      output.firstCode := by
  unfold RemoteOutput.stdout RemoteOutput.firstCode
  cases output.exitCode with
  | none => simp
  | some code =>
    have hSplit : firstDigits exitCodeLabel (output.body ++ exitMarker code) =
        (firstDigits exitCodeLabel output.body).or
          (firstDigits exitCodeLabel (exitMarker code)) :=
      firstDigits_append_label unbordered_exitCodeLabel _ _
    rw [Option.map_some, Option.getD_some, hSplit, firstDigits_exitMarker]
    cases firstDigits exitCodeLabel output.body with
    | none => simp [Nat.ofDigitChars_ten_toDigits]
    | some digits => simp

/-- The command has ended with 0, as its wrapper says. -/
def CommandFinished (shell : RemoteShell) (command : String) : Prop :=
  ∃ output, shell (wrapCommand command) = .ok output ∧ output.exitCode = some 0

/-- A normal return means that the command has ended with 0. -/
def MeansFinished {α : Type} (run : Except NodeError α) (shell : RemoteShell)
    (command : Except HttpError String) : Prop :=
  ∀ result, run = .ok result → ∃ text, command = .ok text ∧ CommandFinished shell text

def OutputsMeet (meets : RemoteOutput → Prop) (writeEnabled : Bool) (shell : RemoteShell)
    (command : Except HttpError String) : Prop :=
  writeEnabled = true → ∀ text, command = .ok text →
    ∀ output, shell (wrapCommand text) = .ok output → meets output

/-- The marker arrives, or a marker with another code than 0 stands before it. -/
def MarkerSeen (output : RemoteOutput) : Prop :=
  output.exitCode.isSome = true ∨ hasFailureMarker output.body = true

/-- The command has ended with 0, or a failure is recognised: the prompt, an error of mdadm's
own, or a first marker with another code than 0. -/
def AssemblySeen (output : RemoteOutput) : Prop :=
  output.exitCode = some 0 ∨ isMdadmAwaitingInteractiveConfirmation output.stdout = true ∨
    mdadmSays "error" output.stdout = true ∨ mdadmSays "failed" output.stdout = true ∨
    output.firstCode.any (· != 0) = true

theorem checkMarker_iff (option : String) (output : RemoteOutput) :
    (checkMarker option output.stdout = .ok () → output.exitCode = some 0) ↔
      MarkerSeen output := by
  have hCheck : checkMarker option output.stdout = .ok () ↔
      ¬ hasFailureMarker output.stdout = true := throwIf_eq_ok
  unfold MarkerSeen
  rw [hCheck]
  cases hCode : output.exitCode with
  | none => simp [RemoteOutput.stdout, hCode]
  | some code =>
    by_cases hZero : code = 0
    · simp [hZero]
    · simp [hasFailureMarker_stdout hCode hZero]

theorem checkAssembled_iff (option : String) (output : RemoteOutput) :
    (checkAssembled option output.stdout = .ok () → output.exitCode = some 0) ↔
      AssemblySeen output := by
  have hFailure : isMdadmCreateCommandFailure output.stdout =
      (output.firstCode.any (· != 0) || mdadmSays "error" output.stdout ||
        mdadmSays "failed" output.stdout) := by
    rw [isMdadmCreateCommandFailure, ← firstCode_eq, Option.any_map]
  have hCheck : checkAssembled option output.stdout = .ok () ↔
      ¬ isMdadmAwaitingInteractiveConfirmation output.stdout = true ∧
        ¬ isMdadmCreateCommandFailure output.stdout = true := by
    constructor
    · intro h
      obtain ⟨_, hPrompt, h⟩ := bind_eq_ok.mp h
      exact ⟨throwIf_eq_ok.mp hPrompt, throwIf_eq_ok.mp h⟩
    · rintro ⟨hPrompt, hRest⟩
      exact bind_eq_ok.mpr ⟨(), throwIf_eq_ok.mpr hPrompt, throwIf_eq_ok.mpr hRest⟩
  unfold AssemblySeen
  rw [hCheck, hFailure]
  simp only [Bool.or_eq_true]
  tauto

theorem runCommand_eq_ok {α : Type} {shell : RemoteShell} {command : String}
    {check : Text → Except NodeError Unit} {result : Text → α} {r : α}
    (h : runCommand shell command check result = .ok r) :
    ∃ output, shell (wrapCommand command) = .ok output ∧ check output.stdout = .ok () := by
  obtain ⟨output, hOutput, h⟩ := bind_eq_ok.mp h
  obtain ⟨_, hCheck, -⟩ := bind_eq_ok.mp h
  exact ⟨output, hOutput, hCheck⟩

section

variable {α : Type} {writeEnabled : Bool} {shell : RemoteShell}

theorem meansFinished_iff {meets : RemoteOutput → Prop} {check : Text → Except NodeError Unit}
    (hCheck : ∀ output : RemoteOutput,
      (check output.stdout = .ok () → output.exitCode = some 0) ↔ meets output)
    {command : Except HttpError String} {result : String → Text → α} :
    MeansFinished (do
        assertWriteEnabled writeEnabled
        let text ← checked command
        runCommand shell text check (result text)) shell command ↔
      OutputsMeet meets writeEnabled shell command := by
  constructor
  · intro h hEnabled text hText output hOutput
    refine (hCheck output).mp fun hPasses => ?_
    have hRun : (do
        assertWriteEnabled writeEnabled
        let text ← checked command
        runCommand shell text check (result text)) = .ok (result text output.stdout) := by
      rw [hText]
      refine bind_eq_ok.mpr ⟨(), throwIf_eq_ok.mpr (by simp [hEnabled]), ?_⟩
      refine bind_eq_ok.mpr ⟨text, rfl, bind_eq_ok.mpr ⟨output, hOutput, ?_⟩⟩
      exact bind_eq_ok.mpr ⟨(), hPasses, rfl⟩
    obtain ⟨_, hSame, finished, hFinished, hZero⟩ := h _ hRun
    rw [hText] at hSame
    obtain rfl := Except.ok.inj hSame
    rw [hOutput] at hFinished
    rwa [Except.ok.inj hFinished]
  · intro h r hRun
    obtain ⟨_, hEnabled, hRun⟩ := bind_eq_ok.mp hRun
    obtain ⟨text, hText, hRun⟩ := bind_eq_ok.mp hRun
    have hText := mapError_eq_ok.mp hText
    obtain ⟨output, hOutput, hPasses⟩ := runCommand_eq_ok hRun
    have hMeets := h (by simpa using throwIf_eq_ok.mp hEnabled) text hText output hOutput
    exact ⟨text, hText, output, hOutput, (hCheck output).mpr hMeets hPasses⟩

theorem stopMdArray_iff (arrayName : String) :
    MeansFinished (stopMdArray writeEnabled shell arrayName) shell (stopCommand arrayName) ↔
      OutputsMeet MarkerSeen writeEnabled shell (stopCommand arrayName) :=
  meansFinished_iff (checkMarker_iff "--stop")

theorem changeMember_iff (option arrayName device : String) :
    MeansFinished (changeMember option writeEnabled shell arrayName device) shell
        (memberCommand option arrayName device) ↔
      OutputsMeet MarkerSeen writeEnabled shell (memberCommand option arrayName device) :=
  meansFinished_iff (checkMarker_iff option)

theorem assembleMdArray_iff (name : String) (targetName : Option String) (members : List String) :
    MeansFinished (assembleMdArray writeEnabled shell name targetName members) shell
        (assembleCommand name targetName members) ↔
      OutputsMeet AssemblySeen writeEnabled shell (assembleCommand name targetName members) :=
  meansFinished_iff (checkAssembled_iff "--assemble")

/-- The command of a creation without the array's name. -/
def createCommandText (req : MdCreatePayload) (planCommand : Option String) :
    Except HttpError String :=
  (createCommand req planCommand).map (·.2)

theorem createMdArrayFromPlan_iff (req : MdCreatePayload) (planCommand : Option String) :
    MeansFinished (createMdArrayFromPlan writeEnabled shell req planCommand) shell
        (createCommandText req planCommand) ↔
      OutputsMeet AssemblySeen writeEnabled shell (createCommandText req planCommand) := by
  unfold createCommandText
  cases hCreate : createCommand req planCommand with
  | error error =>
    refine iff_of_true ?_ nofun
    intro r hRun
    obtain ⟨_, -, hRun⟩ := bind_eq_ok.mp hRun
    rw [hCreate] at hRun
    cases hRun
  | ok created =>
    obtain ⟨arrayName, command⟩ := created
    -- What the execution throws is replaced, what it returns is not.
    have hSame : ∀ wrapped output, (shell wrapped).mapError (createExecError command) =
        .ok output ↔ shell wrapped = .ok output := fun wrapped output => mapError_eq_ok
    have hIff := @meansFinished_iff _ writeEnabled
      (fun wrapped => (shell wrapped).mapError (createExecError command)) _ _
      (checkAssembled_iff "--create") (.ok command)
      fun text stdout =>
        ({ stdout := firstChars 2000 stdout
           command := text
           persisted := (shell (persistCommand arrayName)).toOption.any fun persistOut =>
             occurs "PERSIST_OK".toList (fun _ => true) persistOut.stdout } : MdCommandResult)
    simp only [MeansFinished, OutputsMeet, CommandFinished, hSame] at hIff
    have hRun : createMdArrayFromPlan writeEnabled shell req planCommand = (do
        assertWriteEnabled writeEnabled
        let text ← checked (.ok command)
        runCommand (fun wrapped => (shell wrapped).mapError (createExecError command)) text
          (checkAssembled "--create") fun stdout =>
            { stdout := firstChars 2000 stdout
              command := text
              persisted := (shell (persistCommand arrayName)).toOption.any fun persistOut =>
                occurs "PERSIST_OK".toList (fun _ => true) persistOut.stdout }) := by
      unfold createMdArrayFromPlan
      rw [hCreate]
      rfl
    rw [MeansFinished, hRun]
    exact hIff

end

theorem hasFailureMarkerAnyCase_stdout {output : RemoteOutput} {code : Nat}
    (hCode : output.exitCode = some code) (hFails : code ≠ 0) :
    hasFailureMarkerAnyCase output.stdout := by
  have hHead := head?_toDigits hFails
  have hLabel (rest : Text) : afterLetters "exit_code=".toList (exitCodeLabel ++ rest) =
      some rest := rfl
  rw [RemoteOutput.stdout, hCode]
  refine List.any_eq_true.mpr ⟨exitMarker code, ?_, ?_⟩
  · exact (List.mem_tails _ _).mpr (List.suffix_append _ _)
  · rw [exitMarker, hLabel]
    cases hDigits : Nat.toDigits 10 code with
    | nil => exact absurd hDigits Nat.toDigits_ne_nil
    | cons first digits => simpa [hDigits] using hHead

def Prepares (shell : RemoteShell) (command : String) : Prop :=
  ∃ output, shell (wrapCommand command) = .ok output ∧ isPrepareFailure output.stdout = false

theorem runPrepareCommands_iff (shell : Nat → RemoteShell) (outputs : List Text)
    (commands : List String) :
    (∃ r, runPrepareCommands shell outputs commands = .ok r) ↔
      ∀ entry ∈ commands.zipIdx outputs.length, Prepares (shell entry.2) entry.1 := by
  induction commands generalizing outputs with
  | nil => simp [runPrepareCommands]
  | cons command commands ih =>
    rw [List.zipIdx_cons, List.forall_mem_cons]
    constructor
    · rintro ⟨r, hRun⟩
      obtain ⟨output, hOutput, hRun⟩ := bind_eq_ok.mp hRun
      obtain ⟨_, hPasses, hRun⟩ := bind_eq_ok.mp hRun
      have hRest := (ih (outputs ++ [output.stdout])).mp ⟨r, hRun⟩
      rw [List.length_append] at hRest
      exact ⟨⟨output, hOutput, by simpa using throwIf_eq_ok.mp hPasses⟩, hRest⟩
    · rintro ⟨⟨output, hOutput, hPasses⟩, hRest⟩
      have hLength : (outputs ++ [output.stdout]).length = outputs.length + 1 := by simp
      obtain ⟨r, hRun⟩ := (ih (outputs ++ [output.stdout])).mpr (hLength ▸ hRest)
      exact ⟨r, bind_eq_ok.mpr ⟨output, hOutput,
        bind_eq_ok.mpr ⟨(), throwIf_eq_ok.mpr (by simp [hPasses]), hRun⟩⟩⟩

/-- A normal return of a preparation means that each of its commands has ended with 0. -/
def PreparationMeansFinished (writeEnabled : Bool) (shell : Nat → RemoteShell)
    (commands preparedPartitions : List String) : Prop :=
  ∀ response, prepareMdPartitions writeEnabled shell commands preparedPartitions = .ok response →
    ∀ entry ∈ commands.zipIdx, CommandFinished (shell entry.2) entry.1

def PreparationSeen (shell : Nat → RemoteShell) (commands : List String) : Prop :=
  (∃ entry ∈ commands.zipIdx, ¬ Prepares (shell entry.2) entry.1) ∨
    ∀ entry ∈ commands.zipIdx, ∀ output,
      shell entry.2 (wrapCommand entry.1) = .ok output → output.exitCode.isSome = true

theorem prepareMdPartitions_iff (writeEnabled : Bool) (shell : Nat → RemoteShell)
    (commands preparedPartitions : List String) :
    PreparationMeansFinished writeEnabled shell commands preparedPartitions ↔
      (writeEnabled = true → PreparationSeen shell commands) := by
  have hReturns : (∃ response,
      prepareMdPartitions writeEnabled shell commands preparedPartitions = .ok response) ↔
        writeEnabled = true ∧ ∀ entry ∈ commands.zipIdx, Prepares (shell entry.2) entry.1 := by
    have hCommands := runPrepareCommands_iff shell [] commands
    rw [List.length_nil] at hCommands
    rw [← hCommands]
    constructor
    · rintro ⟨response, hRun⟩
      obtain ⟨_, hEnabled, hRun⟩ := bind_eq_ok.mp hRun
      obtain ⟨outputs, hRun, -⟩ := bind_eq_ok.mp hRun
      exact ⟨by simpa using throwIf_eq_ok.mp hEnabled, outputs, hRun⟩
    · rintro ⟨hEnabled, outputs, hRun⟩
      exact ⟨_, bind_eq_ok.mpr ⟨(), throwIf_eq_ok.mpr (by simp [hEnabled]),
        bind_eq_ok.mpr ⟨outputs, hRun, rfl⟩⟩⟩
  constructor
  · intro h hEnabled
    by_cases hAll : ∀ entry ∈ commands.zipIdx, Prepares (shell entry.2) entry.1
    · right
      intro entry hEntry output hOutput
      obtain ⟨response, hRun⟩ := hReturns.mpr ⟨hEnabled, hAll⟩
      obtain ⟨finished, hFinished, hZero⟩ := h response hRun entry hEntry
      rw [hOutput] at hFinished
      rw [Except.ok.inj hFinished, hZero]
      rfl
    · left
      push Not at hAll
      exact hAll
  · intro h response hRun entry hEntry
    obtain ⟨hEnabled, hAll⟩ := hReturns.mp ⟨response, hRun⟩
    have hMarkers := (h hEnabled).resolve_left fun ⟨ended, hEnded, hNot⟩ => hNot (hAll ended hEnded)
    obtain ⟨output, hOutput, hPasses⟩ := hAll entry hEntry
    refine ⟨output, hOutput, ?_⟩
    obtain ⟨code, hCode⟩ := Option.isSome_iff_exists.mp (hMarkers entry hEntry output hOutput)
    by_cases hZero : code = 0
    · rw [hCode, hZero]
    · have hFails := hasFailureMarkerAnyCase_stdout hCode hZero
      simp [isPrepareFailure, hFails] at hPasses

/-- The actions return normally only when their command has ended with 0 exactly if every output
of it is recognised as wanted: for a stop and the changes of a member the marker arrives, or a
marker with another code stands before it; for a creation and an assembly the code is 0, or the
prompt, an error of mdadm's own or a first marker with another code is there; a preparation is
ended by some command, or all markers arrive. -/
theorem md_actions_mean_finished_iff (writeEnabled : Bool) (shell : RemoteShell)
    (shells : Nat → RemoteShell) :
    (∀ arrayName,
      MeansFinished (stopMdArray writeEnabled shell arrayName) shell (stopCommand arrayName) ↔
        OutputsMeet MarkerSeen writeEnabled shell (stopCommand arrayName)) ∧
    (∀ arrayName device,
      (MeansFinished (addMdDevice writeEnabled shell arrayName device) shell
          (memberCommand "--add" arrayName device) ↔
        OutputsMeet MarkerSeen writeEnabled shell (memberCommand "--add" arrayName device)) ∧
      (MeansFinished (setMdDeviceFaulty writeEnabled shell arrayName device) shell
          (memberCommand "--fail" arrayName device) ↔
        OutputsMeet MarkerSeen writeEnabled shell (memberCommand "--fail" arrayName device)) ∧
      (MeansFinished (removeMdDevice writeEnabled shell arrayName device) shell
          (memberCommand "--remove" arrayName device) ↔
        OutputsMeet MarkerSeen writeEnabled shell (memberCommand "--remove" arrayName device))) ∧
    (∀ name targetName members,
      MeansFinished (assembleMdArray writeEnabled shell name targetName members) shell
          (assembleCommand name targetName members) ↔
        OutputsMeet AssemblySeen writeEnabled shell (assembleCommand name targetName members)) ∧
    (∀ req planCommand,
      MeansFinished (createMdArrayFromPlan writeEnabled shell req planCommand) shell
          (createCommandText req planCommand) ↔
        OutputsMeet AssemblySeen writeEnabled shell (createCommandText req planCommand)) ∧
    ∀ commands preparedPartitions,
      PreparationMeansFinished writeEnabled shells commands preparedPartitions ↔
        (writeEnabled = true → PreparationSeen shells commands) :=
  ⟨stopMdArray_iff,
    fun arrayName device =>
      ⟨changeMember_iff "--add" arrayName device, changeMember_iff "--fail" arrayName device,
        changeMember_iff "--remove" arrayName device⟩,
    assembleMdArray_iff, createMdArrayFromPlan_iff,
    prepareMdPartitions_iff writeEnabled shells⟩

/-- A session that is killed before the command has printed anything. -/
def killedShell : RemoteShell := fun _ => .ok { body := [], exitCode := none }

/-- Every action returns normally although no marker arrived. -/
theorem killed_actions_return :
    ¬ MeansFinished (stopMdArray true killedShell "md0") killedShell (stopCommand "md0") ∧
      ¬ MeansFinished (addMdDevice true killedShell "md0" "sda1") killedShell
        (memberCommand "--add" "md0" "sda1") ∧
      ¬ MeansFinished (assembleMdArray true killedShell "md0" none ["sda1"]) killedShell
        (assembleCommand "md0" none ["sda1"]) ∧
      ¬ PreparationMeansFinished true (fun _ => killedShell) ["partprobe /dev/sda"] [] := by
  have hNever : ∀ command, ¬ CommandFinished killedShell command := by
    rintro command ⟨output, hOutput, hZero⟩
    obtain rfl := Except.ok.inj hOutput
    cases hZero
  have hMeans {α : Type} {run : Except NodeError α} {command : Except HttpError String}
      (hReturns : run.isOk = true) : ¬ MeansFinished run killedShell command := by
    intro h
    obtain ⟨r, hRun⟩ := exists_of_isOk hReturns
    obtain ⟨text, -, hFinished⟩ := h r hRun
    exact hNever text hFinished
  refine ⟨hMeans (by decide +kernel), hMeans (by decide +kernel), hMeans (by decide +kernel), ?_⟩
  intro h
  obtain ⟨r, hRun⟩ := exists_of_isOk
    (x := prepareMdPartitions true (fun _ => killedShell) ["partprobe /dev/sda"] [])
    (by decide +kernel)
  exact hNever _ (h r hRun ("partprobe /dev/sda", 0) (by decide))

end EsosWebui.Raid
