import EsosWebui.Fs.CreateFs
import EsosWebui.Js.Base64
import EsosWebui.Posix.Script
import EsosWebui.Ssh.RunExec

/-! The scripts that replace a remote file through a temporary one: what they do to both files,
whatever happens to their commands, and what their callers make of the answer. -/
namespace EsosWebui.Ssh

open Js
open Posix (Command Ending)
open Fs (shellSingleQuoteForRemote orElseText)

/-- The file that a script replaces, and the temporary one beside it. -/
structure RemoteFile where
  target : Option Bytes
  tmp : Option Bytes := none
  stderr : Text := []

/-- Whether a command does its work, what it prints about it, and whether the shell is killed
then. -/
structure CommandFault where
  works : Bool := true
  stderr : Text := []
  killed : Bool := false

/-- Without room for them, only so many bytes are written. -/
structure DecodeFault extends CommandFault where
  cutAfter : Option Nat := none

structure WriteFaults where
  assign : CommandFault := {}
  decode : DecodeFault := {}
  test : CommandFault := {}
  move : CommandFault := {}

def CommandFault.ending (fault : CommandFault) (status : Nat) : Ending :=
  if fault.killed then .killed else .exited status

def DecodeFault.written (fault : DecodeFault) (decoded : Bytes) : Bytes :=
  match fault.cutAfter with
  | none => decoded
  | some bytes => decoded.take bytes

structure ShellLine where
  text : Text
  command : Command RemoteFile

def scriptText (lines : List ShellLine) : Text := ['\n'].intercalate (lines.map (·.text))

def runLines (lines : List ShellLine) : Command RemoteFile := Posix.script (lines.map (·.command))

section

variable (path : Text)

def assignLine (fault : CommandFault) : ShellLine where
  text := "tmp=$(printf '%s.tmp.%s' ".toList ++ shellSingleQuoteForRemote path ++ " $$)".toList
  command s := ({ s with stderr := s.stderr ++ fault.stderr }, fault.ending 0)

def decodeLine (delimiter b64 : Text) (fault : DecodeFault) : ShellLine where
  text := ['\n'].intercalate
    ["base64 -d > \"$tmp\" <<'".toList ++ delimiter ++ ['\''], b64, delimiter]
  command s :=
    let stderr := s.stderr ++ fault.stderr
    if fault.works then
      let decoded := Base64.decode (b64 ++ ['\n'])
      let written := fault.written decoded
      ({ s with tmp := some written, stderr }, fault.ending (if written = decoded then 0 else 1))
    else ({ s with stderr }, fault.ending 1)

def testLine (fault : CommandFault) : ShellLine where
  text := "[ -s \"$tmp\" ]".toList
  command s :=
    ({ s with stderr := s.stderr ++ fault.stderr },
      fault.ending (if s.tmp.any (· ≠ []) then 0 else 1))

def moveLine (fault : CommandFault) : ShellLine where
  text := "mv \"$tmp\" ".toList ++ shellSingleQuoteForRemote path
  command s :=
    let stderr := s.stderr ++ fault.stderr
    match s.tmp.filter fun _ => fault.works with
    | some data => ({ target := some data, tmp := none, stderr }, fault.ending 0)
    | none => ({ s with stderr }, fault.ending 1)

def contentToBase64 (content : Text) : Text := Base64.encode (utf8 content)

def atomicWriteLines (delimiter content : Text) (requireNonEmpty : Bool) (faults : WriteFaults) :
    Except Text (List ShellLine) :=
  let b64 := contentToBase64 content
  if contains b64 delimiter then
    .error "Internal error: base64 payload collides with heredoc delimiter".toList
  else
    .ok ([assignLine path faults.assign, decodeLine delimiter b64 faults.decode] ++
      (if requireNonEmpty then [testLine faults.test] else []) ++ [moveLine path faults.move])

/-- A line whose errors are not printed and whose status is dropped. -/
def silentLine (command : Text) (fault : CommandFault) : ShellLine where
  text := command ++ " 2>/dev/null || true".toList
  command := Command.orTrue fun s => (s, fault.ending (if fault.works then 0 else 1))

end

/-- How the stream of a command ends: with the status of the shell, without one when the
connection is lost, or with an error. -/
inductive Closing where
  | passesOn (stdout : Text)
  | lost (stdout stderr : Text)
  | rejected (message : Text)

def Closing.answer (closing : Closing) (ending : Ending) (printed : Text) : Except Text Answer :=
  match closing with
  | .passesOn stdout => .ok { code := ending.status?.getD 0, stdout, stderr := printed }
  | .lost stdout stderr => .ok { code := 0, stdout, stderr }
  | .rejected message => .error message

def Closing.events (closing : Closing) (ending : Ending) (printed : Text) : List StreamEvent :=
  match closing with
  | .passesOn stdout =>
    [.data (String.ofList stdout), .errData (String.ofList printed), .exit ending.status?,
      .close ending.status?]
  | .lost stdout stderr =>
    [.data (String.ofList stdout), .errData (String.ofList stderr), .close none]
  | .rejected message => [.error (String.ofList message)]

def Settled.answer : Settled → Except Text Answer
  | .resolved result =>
    .ok { code := result.code, stdout := result.stdout.toList, stderr := result.stderr.toList }
  | .rejected error => .error error.message.toList

theorem answer_eq_runExec (closing : Closing) (ending : Ending) (printed : Text) (cmd : String)
    (timeoutMs : Nat) :
    (runExec cmd timeoutMs (.ok (closing.events ending printed))).map Settled.answer =
      some (closing.answer ending printed) := by
  cases closing <;>
    simp [runExec, Closing.events, Closing.answer, ExecState.handle, ExecState.resolve,
      ExecState.reject, ExecState.settle, ExecState.release, Settled.answer]

structure FileWrite where
  path : Text
  content : Text
  delimiter : Text
  requireNonEmpty : Bool := true

section

variable (write : FileWrite) (faults : WriteFaults) (closing : Closing) (file : RemoteFile)

def execLines (lines : Except Text (List ShellLine)) (closing : Closing) (file : RemoteFile) :
    RemoteFile × Except Text Answer :=
  match lines with
  | .error message => (file, .error message)
  | .ok lines =>
    let (after, ending) := runLines lines { file with stderr := [] }
    (after, closing.answer ending after.stderr)

def writeRemoteFileAtomic : RemoteFile × Except Text Answer :=
  execLines (atomicWriteLines write.path write.delimiter write.content write.requireNonEmpty faults)
    closing file

def decimal (n : Int) : Text := (toString n).toList

def writeRemoteFileAtomicOrThrow (errorPrefix : Option Text) : RemoteFile × Except Text Unit :=
  let (after, answer) := writeRemoteFileAtomic write faults closing file
  (after, do
    let log ← answer
    let detail := orElseText (trim log.stderr) (orElseText (trim log.stdout)
      ("exit ".toList ++ decimal log.code))
    throwIf (log.code ≠ 0)
      (errorPrefix.getD "Écriture fichier distante".toList ++ " : ".toList ++ detail))

def allowedRemoteConfigPaths : List Text :=
  ["/etc/network.conf".toList, "/etc/resolv.conf".toList, "/etc/ntp.conf".toList,
    "/etc/ntp_server".toList, "/etc/ssmtp/ssmtp.conf".toList]

def assertAllowedRemoteConfigPath (path : Text) : Except Text Unit :=
  throwIf (path ∉ allowedRemoteConfigPaths) ("Remote config path not allowed: ".toList ++ path)

structure ConfigFaults extends WriteFaults where
  backup : CommandFault := {}
  sync : CommandFault := {}

def configLines (faults : ConfigFaults) (sync : Bool) : Except Text (List ShellLine) := do
  let lines ← atomicWriteLines write.path write.delimiter write.content true faults.toWriteFaults
  let backup := "cp -f ".toList ++ shellSingleQuoteForRemote write.path ++ ' ' ::
    shellSingleQuoteForRemote (write.path ++ ".bak".toList)
  return silentLine backup faults.backup :: lines ++
    if sync then [silentLine "conf_sync.sh".toList faults.sync] else []

/-- `stderr && !/No such file or directory/.test(stderr)` -/
def complains (stderr : Text) : Bool :=
  stderr ≠ [] && !contains stderr "No such file or directory".toList

def writeConfigFile (manager : Bool) (sanId : Text) (sync : Bool) (faults : ConfigFaults) :
    RemoteFile × Except Text Unit :=
  match (do assertAllowedRemoteConfigPath write.path
            throwIf (manager = false) ("No SSH manager for SAN: ".toList ++ sanId) :
          Except Text Unit) with
  | .error message => (file, .error message)
  | .ok () =>
    let (after, answer) := execLines (configLines write faults sync) closing file
    (after, do
      let r ← answer
      throwIf (complains r.stderr = true)
        ("writeConfigFile(".toList ++ write.path ++ "): ".toList ++ r.stderr))

end

private theorem intercalate_document (sep a b c d e f : Text) :
    sep.intercalate [a, sep.intercalate [b, c, d], e, f] = sep.intercalate [a, b, c, d, e, f] := by
  simp [List.intercalate]

theorem scriptText_atomicWriteLines (path delimiter content : Text) (faults : WriteFaults) :
    (atomicWriteLines path delimiter content true faults).map scriptText =
      Fs.buildAtomicBase64FileWriteScript ⟨contentToBase64, delimiter⟩ path content := by
  unfold atomicWriteLines Fs.buildAtomicBase64FileWriteScript
  dsimp only
  split
  · rfl
  · exact congrArg Except.ok (intercalate_document ..)

end EsosWebui.Ssh
