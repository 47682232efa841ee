import EsosWebui.Scst.Mutators
import EsosWebui.Ssh.HonestWrites

/-! A request written to `scst.conf` and reloaded: when an acknowledged change is live, and a
refused one leaves the file as it was. -/
namespace EsosWebui.Scst

open Js
open Posix (Command Ending)
open Fs (orElseText shellSingleQuoteForRemote)
open Ssh

/-- `scstadmin` is preferred to the init script. -/
inductive ReloadTool where
  | scstadmin
  | initScript

/-- The tools of the node, and what becomes of the one that is run. Without a status the shell is
killed with the tool. -/
structure ReloadFaults where
  scstadmin : Bool := true
  initScript : Bool := true
  killedBefore : Bool := false
  status : Option Nat := some 0
  stderr : Text := []

abbrev Reloaded := Option (ReloadTool × Ending)

namespace ReloadFaults

variable (faults : ReloadFaults)

def ending : Ending := (faults.status.map .exited).getD .killed

def lookup (found : Bool) : Command Reloaded := fun s =>
  (s, if faults.killedBefore then .killed else .exited (if found then 0 else 1))

def runTool (tool : ReloadTool) : Command Reloaded := fun _ =>
  (some (tool, faults.ending), faults.ending)

def script : Command Reloaded :=
  .ifThenElse (faults.lookup faults.scstadmin) (faults.runTool .scstadmin).orTrue
    (.ifThenElse (faults.lookup faults.initScript) (faults.runTool .initScript).orTrue (.exit 0))

end ReloadFaults

def scstConfPath (env : Option Text) : Text := orElseText (env.getD []) "/etc/scst.conf".toList

def reloadCmd (path : Text) : Text :=
  ['\n'].intercalate
    ["if command -v scstadmin >/dev/null 2>&1; then".toList,
      "  scstadmin -force -noprompt -config ".toList ++ shellSingleQuoteForRemote path ++
        " 2>&1 || true".toList,
      "elif [ -x /etc/init.d/scst ]; then".toList,
      "  /etc/init.d/scst reload 2>&1 || true".toList,
      "fi".toList]

/-- What the steps of a change meet, and how their sessions end. -/
structure ChangeFaults where
  write : WriteFaults := {}
  writeClosing : Closing := .passesOn []
  reload : ReloadFaults := {}
  reloadClosing : Closing := .passesOn []

structure Changed where
  file : RemoteFile
  reloaded : Reloaded
  answer : Except Text Unit

def settled (closing : Closing) (cmd : Text) (ending : Ending) (printed : Text) : Settled :=
  match closing with
  | .passesOn stdout =>
    .resolved
      { stdout := String.ofList stdout
        stderr := String.ofList printed
        code := ending.status?.getD 0 }
  | .lost stdout stderr =>
    .resolved { stdout := String.ofList stdout, stderr := String.ofList stderr, code := 0 }
  | .rejected message =>
    .rejected
      { message := String.ofList message, cmd := String.ofList cmd, stdout := "", stderr := "" }

theorem runExec_events (closing : Closing) (cmd printed : Text) (ending : Ending)
    (timeoutMs : Nat) :
    runExec (String.ofList cmd) timeoutMs (.ok (closing.events ending printed)) =
      some (settled closing cmd ending printed) := by
  cases closing <;>
    simp [runExec, Closing.events, settled, ExecState.handle, ExecState.resolve,
      ExecState.reject, ExecState.settle, ExecState.release]

def errorPrefix : Text := "Écriture scst.conf".toList

def writeAndReloadScst (path delimiter content : Text) (faults : ChangeFaults)
    (file : RemoteFile) : Changed :=
  let (file, written) := writeRemoteFileAtomicOrThrow ⟨path, content, delimiter, true⟩ faults.write
    faults.writeClosing file (some errorPrefix)
  match written with
  | .error message => { file, reloaded := none, answer := .error message }
  | .ok () =>
    let (reloaded, ending) := faults.reload.script none
    let result := settled faults.reloadClosing (reloadCmd path) ending faults.reload.stderr
    { file
      reloaded
      answer := (Ssh.writeAndReloadScst (.ok ()) result).mapError String.toList }

def Request.change (toLowerCase : Text → Text) (r : Request) (read : Except Text Text)
    (path delimiter : Text) (faults : ChangeFaults) (file : RemoteFile) : Changed :=
  match read >>= r.run toLowerCase with
  | .error message => { file, reloaded := none, answer := .error message }
  | .ok content => writeAndReloadScst path delimiter content faults file

/-- An acknowledged change is live, and a refused one is not in the file. -/
def IsLiveOrUndone (content : Text) (before : RemoteFile) (changed : Changed) : Prop :=
  if changed.answer.isOk then
    changed.file.target = some (utf8 content) ∧ ∃ tool, changed.reloaded = some (tool, .exited 0)
  else changed.file.target = before.target

section

variable {faults : ReloadFaults} {closing : Closing} {cmd : Text}

/-- A tool is run, and does its work. -/
def ReloadFaults.Succeeds (faults : ReloadFaults) : Prop :=
  faults.killedBefore = false ∧ (faults.scstadmin || faults.initScript) = true ∧
    faults.status = some 0

theorem status_script : (faults.script none).2.status?.getD 0 = 0 := by
  obtain ⟨scstadmin, initScript, killedBefore, status, _⟩ := faults
  cases killedBefore <;> cases scstadmin <;> cases initScript <;> cases status <;> rfl

theorem reloaded_script :
    (∃ tool, (faults.script none).1 = some (tool, .exited 0)) ↔ faults.Succeeds := by
  obtain ⟨scstadmin, initScript, killedBefore, status, _⟩ := faults
  cases killedBefore <;> cases scstadmin <;> cases initScript <;> cases status <;>
    simp [ReloadFaults.script, ReloadFaults.lookup, ReloadFaults.runTool, ReloadFaults.Succeeds,
      ReloadFaults.ending, Command.ifThenElse, Command.next, Command.orTrue, Command.exit]

theorem isOk_reload :
    (Ssh.writeAndReloadScst (.ok ())
      (settled closing cmd (faults.script none).2 faults.stderr)).isOk =
        !closing.isRejected := by
  cases closing with
  | passesOn stdout =>
    have hCode := @status_script faults
    simp [Ssh.writeAndReloadScst, settled, hCode, throwIf, Closing.isRejected]
    rfl
  | lost stdout stderr => rfl
  | rejected message => rfl

end

section

variable {path delimiter content : Text} {faults : ChangeFaults} {file : RemoteFile}

/-- Of the bytes that take the place of the file, what the answer requires: that of the write, or
that of the reload once the write has returned. -/
def ChangeFaults.IsFaithful (faults : ChangeFaults) (content : Text) (file : RemoteFile) : Prop :=
  let moved := faults.write.moved true content file
  if faults.write.returns true content file faults.writeClosing then
    if faults.reloadClosing.isRejected then Leaves file moved
    else Installs content file moved ∧ faults.reload.Succeeds
  else Leaves file moved

variable (path faults file) in
theorem writeAndReloadScst_of_collides (h : contains (contentToBase64 content) delimiter) :
    ∃ message, writeAndReloadScst path delimiter content faults file =
      { file, reloaded := none, answer := .error message } := by
  obtain ⟨message, hWritten⟩ : ∃ message, writeRemoteFileAtomicOrThrow
      ⟨path, content, delimiter, true⟩ faults.write faults.writeClosing file (some errorPrefix) =
        (file, .error message) := by
    have hCollides : FileWrite.collides ⟨path, content, delimiter, true⟩ = true := h
    rw [writeRemoteFileAtomicOrThrow, writeRemoteFileAtomic_of_collides hCollides]
    exact ⟨_, rfl⟩
  exact ⟨message, by rw [writeAndReloadScst, hWritten]⟩

variable (path faults file) in
theorem writeAndReloadScst_of_run (h : contains (contentToBase64 content) delimiter = false) :
    let changed := writeAndReloadScst path delimiter content faults file
    changed.file.target = (faults.write.moved true content file).or file.target ∧
      (if faults.write.returns true content file faults.writeClosing then
        changed.reloaded = (faults.reload.script none).1 ∧
          changed.answer.isOk = !faults.reloadClosing.isRejected
      else changed.answer.isOk = false) := by
  have hCollides : FileWrite.collides ⟨path, content, delimiter, true⟩ = false := h
  obtain ⟨after, answer, hWritten, hTarget, hAnswer⟩ := exists_writeRemoteFileAtomicOrThrow
    faults.write faults.writeClosing file (some errorPrefix) hCollides
  rw [writeAndReloadScst, hWritten]
  cases answer with
  | error message =>
    rw [← hAnswer]
    exact ⟨hTarget, rfl⟩
  | ok u =>
    rw [← hAnswer]
    refine ⟨hTarget, rfl, ?_⟩
    dsimp only
    rw [isOk_mapError, isOk_reload]

/-- A change is live once its caller is told so, and is not in the file otherwise, exactly if the
steps that it met do not come between the file, the tool and the answers. -/
theorem writeAndReloadScst_isLiveOrUndone :
    IsLiveOrUndone content file (writeAndReloadScst path delimiter content faults file) ↔
      contains (contentToBase64 content) delimiter = true ∨ faults.IsFaithful content file := by
  cases hCollides : contains (contentToBase64 content) delimiter
  · obtain ⟨hTarget, hAnswer⟩ := writeAndReloadScst_of_run path faults file hCollides
    unfold IsLiveOrUndone ChangeFaults.IsFaithful
    cases hReturns : faults.write.returns true content file faults.writeClosing
    · rw [hReturns] at hAnswer
      rw [show _ = false from hAnswer, hTarget]
      simp [Leaves]
    · rw [hReturns, if_pos rfl] at hAnswer
      rw [hAnswer.1, hAnswer.2, hTarget, reloaded_script]
      cases faults.reloadClosing.isRejected <;> simp [Leaves, Installs]
  · obtain ⟨message, hChanged⟩ := writeAndReloadScst_of_collides path faults file hCollides
    rw [hChanged]
    simp [IsLiveOrUndone, Except.isOk, Except.toBool]

/-- A refused change is not in the file exactly if the write and the reload are both answered, or
nothing has taken the place of the file. -/
theorem writeAndReloadScst_undone :
    (¬ (writeAndReloadScst path delimiter content faults file).answer.isOk = true →
      (writeAndReloadScst path delimiter content faults file).file.target = file.target) ↔
      contains (contentToBase64 content) delimiter = true ∨
        (faults.write.returns true content file faults.writeClosing = true ∧
          faults.reloadClosing.isRejected = false) ∨
        Leaves file (faults.write.moved true content file) := by
  cases hCollides : contains (contentToBase64 content) delimiter
  · obtain ⟨hTarget, hAnswer⟩ := writeAndReloadScst_of_run path faults file hCollides
    cases hReturns : faults.write.returns true content file faults.writeClosing
    · rw [hReturns] at hAnswer
      rw [show _ = false from hAnswer, hTarget]
      simp [Leaves]
    · rw [hReturns, if_pos rfl] at hAnswer
      rw [hAnswer.2, hTarget]
      cases faults.reloadClosing.isRejected <;> simp [Leaves]
  · obtain ⟨message, hChanged⟩ := writeAndReloadScst_of_collides path faults file hCollides
    rw [hChanged]
    simp

/-- What a request asks for is live once its caller is told so, and is not in the file
otherwise. A request that is refused asks for nothing. -/
def Request.IsLiveOrUndone (toLowerCase : Text → Text) (r : Request) (read : Except Text Text)
    (before : RemoteFile) (changed : Changed) : Prop :=
  match read >>= r.run toLowerCase with
  | .ok content => Scst.IsLiveOrUndone content before changed
  | .error message => changed.answer = .error message ∧ changed.file = before

theorem isLiveOrUndone_change {toLowerCase : Text → Text} {r : Request}
    {read : Except Text Text} :
    r.IsLiveOrUndone toLowerCase read file
        (r.change toLowerCase read path delimiter faults file) ↔
      ∀ content, (read >>= r.run toLowerCase) = .ok content →
        contains (contentToBase64 content) delimiter = true ∨
          faults.IsFaithful content file := by
  unfold Request.IsLiveOrUndone Request.change
  cases read >>= r.run toLowerCase with
  | error message => simp
  | ok content =>
    dsimp only
    rw [writeAndReloadScst_isLiveOrUndone]
    simp

theorem changes_live_or_undone_iff (toLowerCase : Text → Text) (r : Request)
    (read : Except Text Text) (path delimiter content : Text) (faults : ChangeFaults)
    (file : RemoteFile) :
    (IsLiveOrUndone content file (writeAndReloadScst path delimiter content faults file) ↔
      contains (contentToBase64 content) delimiter = true ∨ faults.IsFaithful content file) ∧
    (r.IsLiveOrUndone toLowerCase read file
        (r.change toLowerCase read path delimiter faults file) ↔
      ∀ content, (read >>= r.run toLowerCase) = .ok content →
        contains (contentToBase64 content) delimiter = true ∨
          faults.IsFaithful content file) :=
  ⟨writeAndReloadScst_isLiveOrUndone, isLiveOrUndone_change⟩

end

def createFirstTarget : Request :=
  .createTarget "iscsi".toList "iqn.2024-01.org.esos:t1".toList

def firstTargetConf : Text :=
  "TARGET_DRIVER iscsi \x7b\n\tTARGET iqn.2024-01.org.esos:t1 \x7b\n\t\x7d\n\x7d\n".toList

theorem createFirstTarget_run : createFirstTarget.run id [] = .ok firstTargetConf := by
  decide +kernel

def emptyConf : RemoteFile where
  target := some []

theorem not_collides_firstTargetConf :
    contains (contentToBase64 firstTargetConf) "ESOS_B64_00".toList = false := by
  decide +kernel

/-- The caller is not told that `scstadmin` has failed. When the session of the reload is lost, it
is told of an error, but the target is in the file. -/
theorem reload_not_told :
    ¬ createFirstTarget.IsLiveOrUndone id (.ok []) emptyConf
      (createFirstTarget.change id (.ok []) "/etc/scst.conf".toList "ESOS_B64_00".toList
        { reload := { status := some 1 } } emptyConf) ∧
    ¬ createFirstTarget.IsLiveOrUndone id (.ok []) emptyConf
      (createFirstTarget.change id (.ok []) "/etc/scst.conf".toList "ESOS_B64_00".toList
        { reloadClosing := .rejected "SSH exec timeout (60000ms)".toList } emptyConf) := by
  rw [isLiveOrUndone_change, isLiveOrUndone_change]
  constructor
  · intro hChange
    rcases hChange firstTargetConf createFirstTarget_run with hCollides | ⟨-, -, -, hStatus⟩
    · exact Bool.noConfusion (not_collides_firstTargetConf.symm.trans hCollides)
    · cases hStatus
  · intro hChange
    rcases hChange firstTargetConf createFirstTarget_run with hCollides | hLeaves
    · exact Bool.noConfusion (not_collides_firstTargetConf.symm.trans hCollides)
    · have hSame : some (utf8 firstTargetConf) = some [] := hLeaves
      revert hSame
      decide +kernel

end EsosWebui.Scst
