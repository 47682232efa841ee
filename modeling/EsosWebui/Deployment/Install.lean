import EsosWebui.Deployment.JobRuns
import EsosWebui.Ssh.RemoteFileWriter

/-! The installation of a binary on a SAN: its transfer, the reading of its hash and the commands
of its kind. -/
namespace EsosWebui.Deployment

open Js
open Posix (Command Ending)
open Fs (orElseText shellSingleQuoteForRemote)
open Ssh (Closing decimal)

inductive DeploymentBinaryKind where
  | rpm
  | executable
  | archive
  deriving DecidableEq

inductive DeploymentInstallKind where
  | copyExecutable
  | rpm
  | perccli
  deriving DecidableEq

structure DeploymentInstallSpec where
  installKind : Option DeploymentInstallKind := none
  remotePath : Option Text := none

structure DeploymentBinary where
  filename : Text
  sha256 : Text
  kind : DeploymentBinaryKind
  installSpec : DeploymentInstallSpec := {}

/-- `[\w.-]` -/
def isStagingChar (c : Char) : Bool := c.isAlphanum || "_.-".toList.contains c

/-- A character that UTF-16 has in two parts is replaced twice. -/
def remoteStagingPath (uuid : Text) (binary : DeploymentBinary) : Text :=
  "/tmp/esos-deploy-".toList ++ uuid.take 8 ++ '-' :: binary.filename.flatMap fun c =>
    if isStagingChar c then [c] else if c.toNat < 0x10000 then ['_'] else ['_', '_']

inductive InstallCommand where
  | mkdir (dir : Text)
  | cd (dir : Text)
  | rpm2cpio (package : Text)
  | cpio
  | find
  | head
  | test (file : Text)
  | cp (source dest : Text)
  | chmod (file : Text)
  | ln (source link : Text)

/-- What becomes of the commands of one session: without a status the shell is killed with the
command. -/
structure ExecOutcome where
  status : InstallCommand → Option Nat := fun _ => some 0
  found : Text := []
  stderr : Text := []
  closing : Closing := .passesOn []

structure ShellState where
  ran : List (InstallCommand × Nat) := []
  p : Text := []

section

variable (o : ExecOutcome)

def simple (command : InstallCommand) : Command ShellState := fun s =>
  match o.status command with
  | some status => ({ s with ran := s.ran ++ [(command, status)] }, .exited status)
  | none => (s, .killed)

/-- `rpm2cpio package | cpio -idmv 2>&1` -/
def extract (package : Text) : Command ShellState :=
  (simple o (.rpm2cpio package)).pipe (simple o .cpio)

/-- `p=$(find . -type f -name 'perccli64' 2>/dev/null | head -1)` -/
def assignFound : Command ShellState :=
  ((simple o .find).pipe (simple o .head)).next fun status s =>
    ({ s with p := o.found }, .exited status)

/-- `test -n "$p"` -/
def testFound : Command ShellState := fun s =>
  let status := if s.p = [] then 1 else 0
  ({ s with ran := s.ran ++ [(.test s.p, status)] }, .exited status)

/-- `cp -f "$p" dest` -/
def copyFound (dest : Text) : Command ShellState := fun s => simple o (.cp s.p dest) s

end

def perccliDir : Text := "/opt/MegaRAID/perccli".toList

def perccliPath : Text := "/opt/MegaRAID/perccli/perccli64".toList

inductive InstallStep where
  | makeWorkdir (workdir : Text)
  | extractIn (workdir package : Text)
  | installFound (workdir : Text)
  | link (source link : Text)
  | makeAndExtract (workdir package : Text)
  | copy (source dest : Text)

namespace InstallStep

def text : InstallStep → Text
  | makeWorkdir workdir => "mkdir -p ".toList ++ shellSingleQuoteForRemote workdir
  | extractIn workdir package =>
    "cd ".toList ++ shellSingleQuoteForRemote workdir ++ " && rpm2cpio ".toList ++
      shellSingleQuoteForRemote package ++ " | cpio -idmv 2>&1".toList
  | installFound workdir =>
    "cd ".toList ++ shellSingleQuoteForRemote workdir ++
      " && p=$(find . -type f -name 'perccli64' 2>/dev/null | head -1); ".toList ++
      "test -n \"$p\" && mkdir -p /opt/MegaRAID/perccli && ".toList ++
      "cp -f \"$p\" /opt/MegaRAID/perccli/perccli64 && ".toList ++
      "chmod 755 /opt/MegaRAID/perccli/perccli64".toList
  | link source name => "ln -sf ".toList ++ source ++ ' ' :: name
  | makeAndExtract workdir package =>
    "mkdir -p ".toList ++ shellSingleQuoteForRemote workdir ++ " && cd ".toList ++
      shellSingleQuoteForRemote workdir ++ " && rpm2cpio ".toList ++
      shellSingleQuoteForRemote package ++ " | cpio -idmv 2>&1".toList
  | copy source dest =>
    "cp -f ".toList ++ shellSingleQuoteForRemote source ++ ' ' ::
      shellSingleQuoteForRemote dest ++ " && chmod 755 ".toList ++
        shellSingleQuoteForRemote dest

def command (o : ExecOutcome) : InstallStep → Command ShellState
  | makeWorkdir workdir => simple o (.mkdir workdir)
  | extractIn workdir package => (simple o (.cd workdir)).andThen (extract o package)
  | installFound workdir =>
    ((simple o (.cd workdir)).andThen (assignFound o)).next fun _ =>
      testFound.andThen ((simple o (.mkdir perccliDir)).andThen
        ((copyFound o perccliPath).andThen (simple o (.chmod perccliPath))))
  | link source name => simple o (.ln source name)
  | makeAndExtract workdir package =>
    (simple o (.mkdir workdir)).andThen ((simple o (.cd workdir)).andThen (extract o package))
  | copy source dest => (simple o (.cp source dest)).andThen (simple o (.chmod dest))

/-- What a step says without a text on the error stream, or on the output. -/
def failure (answer : Answer) : InstallStep → Text
  | makeAndExtract _ _ => orElseText (trim answer.stderr) "Extraction RPM échouée".toList
  | copy _ _ => orElseText (trim answer.stderr) "Copie échouée".toList
  | step =>
    orElseText (trim answer.stderr) (orElseText (trim answer.stdout)
      ("Échec: ".toList ++ step.text))

end InstallStep

section

variable (toLowerCase : Text → Text) (binary : DeploymentBinary)

def installKind : DeploymentInstallKind :=
  binary.installSpec.installKind.getD
    (if binary.kind = .rpm then .rpm else .copyExecutable)

def isPerccli : Bool :=
  installKind binary = .perccli || (installKind binary = .rpm &&
    contains (toLowerCase binary.filename) "perccli".toList)

def installSteps (uuid remotePath : Text) : List InstallStep :=
  if isPerccli toLowerCase binary then
    let workdir := "/tmp/esos-perccli-work-".toList ++ uuid.take 8
    [.makeWorkdir workdir, .extractIn workdir remotePath, .installFound workdir,
      .link perccliPath "/usr/local/sbin/perccli64".toList,
      .link perccliPath "/usr/local/sbin/perccli".toList]
  else if installKind binary = .rpm then
    [.makeAndExtract ("/tmp/esos-rpm-work-".toList ++ uuid.take 8) remotePath]
  else
    [.copy remotePath
      (binary.installSpec.remotePath.getD ("/usr/local/sbin/".toList ++ binary.filename))]

end

structure InstallExec where
  step : InstallStep
  outcome : ExecOutcome

namespace InstallExec

variable (e : InstallExec)

def after : ShellState × Ending := e.step.command e.outcome {}

def answer : Except Text Answer := e.outcome.closing.answer e.after.2 e.outcome.stderr

end InstallExec

def applyInstall : List InstallExec → Except Text Unit
  | [] => .ok ()
  | e :: rest => do
      let res ← e.answer
      throwIf (res.code ≠ 0) (e.step.failure res)
      applyInstall rest

/-- The chunks are sent one after the other. -/
def transferLocalFileViaSshBase64 : List (Except Text Answer) → Except Text Unit
  | [] => .ok ()
  | chunk :: rest => do
      let result ← chunk
      throwIf (result.code ≠ 0) (orElseText (trim result.stderr) (orElseText (trim result.stdout)
        ("transfer exit ".toList ++ decimal result.code)))
      transferLocalFileViaSshBase64 rest

def transferLocalFileViaSsh (sftp : Except Text Unit) (chunks : List (Except Text Answer)) :
    Except Text Unit :=
  match sftp with
  | .ok () => .ok ()
  | .error _ => transferLocalFileViaSshBase64 chunks

/-- What the steps of a target meet. -/
structure TargetOutcomes where
  writable : Except Text Unit := .ok ()
  connected : Except Text Bool := .ok true
  localPath : Option Text
  sftp : Except Text Unit := .ok ()
  chunks : List (Except Text Answer) := []
  verify : Except Text Answer
  execs : Nat → ExecOutcome := fun _ => {}

/-- `verify.stdout.trim().split(/\s/)[0]` -/
def remoteHash (verify : Answer) : Text := firstWord (trim verify.stdout)

variable (toLowerCase : Text → Text) (binary : DeploymentBinary) (uuid workUuid : Text)
  (outcomes : TargetOutcomes)

def installExecs : List InstallExec :=
  (installSteps toLowerCase binary workUuid (remoteStagingPath uuid binary)).mapIdx
    fun i step => { step, outcome := outcomes.execs i }

/-- Up to the hash, which is compared only if there is one. -/
def transferTarget : Except Text Answer := do
  outcomes.writable
  let ready ← outcomes.connected
  throwIf (ready = false) "SSH non connecté".toList
  throwIf (outcomes.localPath = none)
    "Fichier binaire introuvable sur le conteneur WebUI".toList
  transferLocalFileViaSsh outcomes.sftp outcomes.chunks
  let verify ← outcomes.verify
  throwIf (remoteHash verify ≠ [] ∧ remoteHash verify ≠ binary.sha256)
    ("Checksum distant incorrect (attendu ".toList ++ binary.sha256.take 12 ++ "…)".toList)
  return verify

def finished : Except Text Unit → Outcome × Option Text
  | .ok () => (.success, none)
  | .error msg => (.failed, some msg)

def runTarget : Outcome × Option Text :=
  finished do
    let _ ← transferTarget binary outcomes
    applyInstall (installExecs toLowerCase binary uuid workUuid outcomes)

end EsosWebui.Deployment
