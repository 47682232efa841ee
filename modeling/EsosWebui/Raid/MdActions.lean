import EsosWebui.Raid.ExecuteNodes

/-! The MD actions on one node: the commands that they run, and which outputs count as success. -/
namespace EsosWebui.Raid

open Js

def exitCodeLabel : Text := "EXIT_CODE=".toList

/-- The output of a wrapped command: what the command prints, as far as it arrives, and the
marker of the wrapper with the command's exit code, unless the output ends before it. -/
structure RemoteOutput where
  body : Text
  exitCode : Option Nat

/-- `EXIT_CODE=<code>\n` -/
def exitMarker (exitCode : Nat) : Text := exitCodeLabel ++ (Nat.toDigits 10 exitCode ++ ['\n'])

def RemoteOutput.stdout (output : RemoteOutput) : Text :=
  output.body ++ (output.exitCode.map exitMarker).getD []

abbrev RemoteShell := String → Except NodeError RemoteOutput

def wrapCommand (command : String) : String := s!"{command} 2>&1; echo EXIT_CODE=$?"

/-- `EXIT_CODE=[1-9]` -/
def hasFailureMarker (stdout : Text) : Bool :=
  occurs exitCodeLabel (·.any fun c => '1' ≤ c && c ≤ '9') stdout

/-- `text.slice(-count)` -/
def lastChars (count : Nat) (text : Text) : String :=
  String.ofList (text.drop (text.length - count))

/-- `text.slice(0, count)` -/
def firstChars (count : Nat) (text : Text) : String := String.ofList (text.take count)

/-- `[A-Za-z0-9_]` -/
def isIdentChar (c : Char) : Bool := c.isAlphanum || c == '_'

def startsWithWord (word text : Text) : Bool :=
  (afterLetters word text).any fun rest => !rest.head?.any isIdentChar

/-- `\b(word)\b`, ignoring case; `inside` when the character before is part of a word. -/
def includesWord (word : Text) : Bool → Text → Bool
  | _, [] => false
  | inside, c :: rest =>
    (!inside && startsWithWord word (c :: rest)) || includesWord word (isIdentChar c) rest

def anyLineStart (p : Text → Bool) (text : Text) : Bool :=
  p text || text.tails.any fun
    | c :: rest => isLineTerminator c && p rest
    | [] => false

/-- `^mdadm:\s+word\b`, ignoring case, at the start of a line. -/
def mdadmSays (word : String) (text : Text) : Bool :=
  anyLineStart (fun line => (afterLetters "mdadm:".toList line).any fun rest =>
    rest.head?.any isSpace && startsWithWord word.toList (trimStart rest)) text

def mdadmInteractiveConfirmPrompt : String := "Continue creating array?"

def mdadmInteractiveConfirmMessage : String :=
  "mdadm is waiting for interactive confirmation; non-interactive mode is required."

def isMdadmAwaitingInteractiveConfirmation (stdout : Text) : Bool :=
  occurs mdadmInteractiveConfirmPrompt.toList (fun _ => true) stdout

def isMdadmCreateCommandFailure (stdout : Text) : Bool :=
  (firstDigits exitCodeLabel stdout).any (Nat.ofDigitChars 10 · 0 != 0) ||
    mdadmSays "error" stdout || mdadmSays "failed" stdout

def assertWriteEnabled (writeEnabled : Bool) : Except NodeError Unit :=
  throwIf (!writeEnabled) (HttpError.thrown ⟨403,
    "Les actions d'écriture RAID sont désactivées (RAID_SOFTWARE_WRITE_ENABLED=false)"⟩)

def checked {α : Type} (x : Except HttpError α) : Except NodeError α := x.mapError HttpError.thrown

def runCommand {α : Type} (shell : RemoteShell) (command : String)
    (check : Text → Except NodeError Unit) (result : Text → α) : Except NodeError α := do
  let output ← shell (wrapCommand command)
  check output.stdout
  return result output.stdout

def checkMarker (option : String) (stdout : Text) : Except NodeError Unit :=
  let last := lastChars 300 stdout
  throwIf (hasFailureMarker stdout) (HttpError.thrown ⟨500, s!"Échec mdadm {option} : {last}"⟩)

def stopCommand (arrayName : String) : Except HttpError String := do
  let name ← sanitizeArrayName arrayName
  return s!"mdadm --stop /dev/{name}"

def stopMdArray (writeEnabled : Bool) (shell : RemoteShell) (arrayName : String) :
    Except NodeError String := do
  assertWriteEnabled writeEnabled
  let command ← checked (stopCommand arrayName)
  runCommand shell command (checkMarker "--stop") (firstChars 1000)

def memberCommand (option arrayName device : String) : Except HttpError String := do
  let name ← sanitizeArrayName arrayName
  let devPath ← sanitizeMemberPath device
  return s!"mdadm /dev/{name} {option} {devPath}"

def changeMember (option : String) (writeEnabled : Bool) (shell : RemoteShell)
    (arrayName device : String) : Except NodeError String := do
  assertWriteEnabled writeEnabled
  let command ← checked (memberCommand option arrayName device)
  runCommand shell command (checkMarker option) (firstChars 1000)

def addMdDevice : Bool → RemoteShell → String → String → Except NodeError String :=
  changeMember "--add"

def setMdDeviceFaulty : Bool → RemoteShell → String → String → Except NodeError String :=
  changeMember "--fail"

def removeMdDevice : Bool → RemoteShell → String → String → Except NodeError String :=
  changeMember "--remove"

def checkAssembled (option : String) (stdout : Text) : Except NodeError Unit := do
  let thrown (message : String) : NodeError :=
    { statusCode := some 500, statusMessage := some message, stdout := some (String.ofList stdout) }
  let last := lastChars 500 stdout
  throwIf (isMdadmAwaitingInteractiveConfirmation stdout) (thrown mdadmInteractiveConfirmMessage)
  throwIf (isMdadmCreateCommandFailure stdout) (thrown s!"Échec mdadm {option} : {last}")

structure MdCommandResult where
  stdout : String
  command : String
  persisted : Bool := false

/-- `targetName` is the name that the array gets, if it is to get another one. -/
def assembleCommand (name : String) (targetName : Option String) (members : List String) :
    Except HttpError String := do
  let arrayName ← sanitizeArrayName (targetName.getD name)
  let members ← members.mapM sanitizeMemberPath
  buildMdAssembleCommand arrayName members

def assembleMdArray (writeEnabled : Bool) (shell : RemoteShell) (name : String)
    (targetName : Option String) (members : List String) : Except NodeError MdCommandResult := do
  assertWriteEnabled writeEnabled
  let command ← checked (assembleCommand name targetName members)
  runCommand shell command (checkAssembled "--assemble") fun stdout =>
    { stdout := firstChars 2000 stdout, command }

structure MdCreatePayload where
  name : String
  level : String
  devices : List String
  chunkKb : Nat
  raidDevices : Option Nat := none

def normalizeMdCreatePayload (req : MdCreatePayload) :
    Except HttpError MdCreatePayload := do
  let name ← sanitizeMdArrayName req.name
  let level ← sanitizeRaidLevel req.level
  let devices ← sanitizeMdMemberDevices req.devices
  assertMdMemberCount level devices.length
  let requested := req.raidDevices.getD devices.length
  throwIf (requested ≠ devices.length)
    ⟨400, s!"raidDevices ({requested}) ne correspond pas au nombre de membres ({devices.length})"⟩
  let chunkKb ← sanitizeChunkKb req.chunkKb
  return { req with name, level, devices, chunkKb }

def assertExecutableMdCreateCommand (command : String) (members : List String) :
    Except HttpError Unit := do
  throwIf (members = []) ⟨400, mdCreateEmptyMembersMessage⟩
  throwIf ((firstDigits raidDevicesLabel command.toList).map (Nat.ofDigitChars 10 · 0) ≠
      some members.length)
    ⟨400, "Commande MD invalide : nombre de membres incohérent."⟩
  match members.find? fun member => !(words command.toList).contains member.toList with
  | some member => .error ⟨400, s!"Commande MD invalide : membre manquant {member}"⟩
  | none => return ()

def createCommand (req : MdCreatePayload) (planCommand : Option String) :
    Except HttpError (String × String) := do
  let normalizedReq ← normalizeMdCreatePayload req
  let arrayName ← sanitizeMdArrayName normalizedReq.name
  let command ← buildMdCreateCommand normalizedReq.name normalizedReq.level normalizedReq.devices
    normalizedReq.chunkKb
  assertExecutableMdCreateCommand command normalizedReq.devices
  match planCommand.map trimString with
  | some planned =>
    throwIf (planned ≠ command) ⟨400,
      s!"Commande MD planifiée différente de la commande d'exécution : {planned} != {command}"⟩
    assertExecutableMdCreateCommand planned normalizedReq.devices
  | none => pure ()
  throwIf (occurs raidDevicesLabel (·.all isSpace) command.toList ||
      (firstDigits raidDevicesLabel command.toList).isNone)
    ⟨400, mdCreateEmptyMembersMessage⟩
  return (arrayName, command)

/-- The digits of `SSH exec timeout \((\d+)ms\)` in a message. -/
def timeoutMs (message : String) : Option Text :=
  message.toList.tails.findSome? fun rest =>
    (afterText "SSH exec timeout (".toList rest).bind fun rest =>
      let digits := rest.takeWhile Char.isDigit
      if digits ≠ [] ∧ (afterText "ms)".toList (rest.dropWhile Char.isDigit)).isSome then
        some digits
      else none

def resolveMdCreateExecErrorMessage (err : NodeError) (finalCommand : String) : String :=
  let combined := join "\n" ([err.stdout, err.stderr].filterMap fun text => text.filter (· ≠ ""))
  let raw := (err.statusMessage.or err.message).getD "Erreur SSH création MD array"
  if isMdadmAwaitingInteractiveConfirmation combined.toList then mdadmInteractiveConfirmMessage
  else
    match timeoutMs raw with
    | some digits =>
      let ms := String.ofList digits
      s!"SSH exec timeout ({ms}ms): {finalCommand}"
    | none => raw

def persistCommand (arrayName : String) : String :=
  join "; "
    [s!"grep -v \"{arrayName}\" /etc/mdadm.conf 2>/dev/null > /tmp/mdadm.conf.tmp || " ++
        "touch /tmp/mdadm.conf.tmp",
      "mdadm --detail --scan >> /tmp/mdadm.conf.tmp",
      "sort -u -k2,2 /tmp/mdadm.conf.tmp > /etc/mdadm.conf",
      "conf_sync.sh 2>/dev/null || true",
      "echo PERSIST_OK"]

def createExecError (command : String) (err : NodeError) : NodeError :=
  { statusCode := some (err.statusCode.getD 500)
    statusMessage := some (resolveMdCreateExecErrorMessage err command)
    stdout := err.stdout
    stderr := err.stderr }

/-- A creation; that its array is not persisted does not make it fail. -/
def createMdArrayFromPlan (writeEnabled : Bool) (shell : RemoteShell) (req : MdCreatePayload)
    (planCommand : Option String) : Except NodeError MdCommandResult := do
  assertWriteEnabled writeEnabled
  let (arrayName, command) ← checked (createCommand req planCommand)
  let traced : RemoteShell := fun wrapped => (shell wrapped).mapError (createExecError command)
  let persisted := (shell (persistCommand arrayName)).toOption.any fun persistOut =>
    occurs "PERSIST_OK".toList (fun _ => true) persistOut.stdout
  runCommand traced command (checkAssembled "--create") fun stdout =>
    { stdout := firstChars 2000 stdout, command, persisted }

/-- `EXIT_CODE=[1-9]`, ignoring case. -/
def hasFailureMarkerAnyCase (stdout : Text) : Bool :=
  stdout.tails.any fun rest => (afterLetters "exit_code=".toList rest).any fun rest =>
    rest.head?.any fun c => '1' ≤ c && c ≤ '9'

def isPrepareFailure (stdout : Text) : Bool :=
  hasFailureMarkerAnyCase stdout || includesWord "error".toList false stdout ||
    includesWord "failed".toList false stdout

/-- The commands of a preparation one after the other, with the outputs so far; the shell's
answers are by the position of the command. -/
def runPrepareCommands (shell : Nat → RemoteShell) :
    List Text → List String → Except NodeError (List Text)
  | outputs, [] => .ok outputs
  | outputs, command :: commands => do
      let output ← shell outputs.length (wrapCommand command)
      let last := lastChars 500 output.stdout
      throwIf (isPrepareFailure output.stdout)
        { statusCode := some 500
          statusMessage := some s!"Échec préparation partition RAID : {last}"
          stdout := some
            (firstChars 4000 (['\n'].intercalate (outputs ++ [output.stdout]))) }
      runPrepareCommands shell (outputs ++ [output.stdout]) commands

structure PrepareMdPartitionsResponse where
  stdout : String
  commands : List String
  preparedPartitions : List String

def prepareMdPartitions (writeEnabled : Bool) (shell : Nat → RemoteShell) (commands : List String)
    (preparedPartitions : List String) : Except NodeError PrepareMdPartitionsResponse := do
  assertWriteEnabled writeEnabled
  let outputs ← runPrepareCommands shell [] commands
  return {
    stdout := firstChars 4000 (['\n'].intercalate outputs)
    commands
    preparedPartitions }

end EsosWebui.Raid
