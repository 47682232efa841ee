import EsosWebui.Deployment.Install

/-! When a target that is said to be installed has its hash read back, and all its commands done. -/
namespace EsosWebui.Deployment

open Js
open Posix (Command Ending)
open Ssh (Closing)

/-- The caller takes a command for done: its status is 0, or there is none, as after a killed shell
or a lost connection. -/
def Heard (lost : Bool) (ending : Ending) : Prop := lost = true ∨ ending.status?.getD 0 = 0

/-- A shell that is taken for done leaves this behind. -/
def Tells (lost : Bool) (k : Command ShellState) (s : ShellState) (P : ShellState → Prop) : Prop :=
  Heard lost (k s).2 → P (k s).1

def ShellState.add (s : ShellState) (command : InstallCommand) (status : Nat) : ShellState :=
  { s with ran := s.ran ++ [(command, status)] }

section

variable {lost : Bool} {o : ExecOutcome} {c d : InstallCommand} {k : Command ShellState}
  {rest : Nat → Command ShellState} {s s' : ShellState} {P : ShellState → Prop} {status : Nat}

theorem tells_of_killed (h : k s = (s', .killed)) : Tells lost k s P ↔ P s' := by
  simp [Tells, Heard, h, Ending.status?]

theorem tells_of_exited (h : k s = (s', .exited status)) :
    Tells lost k s P ↔ (lost = true ∨ status = 0 → P s') := by
  simp [Tells, Heard, h, Ending.status?]

theorem tells_next_of_exited (h : k s = (s', .exited status)) :
    Tells lost (k.next rest) s P ↔ Tells lost (rest status) s' P := by
  unfold Tells
  rw [Posix.next_of_exited h]

theorem simple_of_none (h : o.status c = none) : simple o c s = (s, .killed) := by
  rw [simple, h]

theorem simple_of_some (h : o.status c = some status) :
    simple o c s = (s.add c status, .exited status) := by
  rw [simple, h]
  rfl

end

/-- The commands of a step, when `p` is what was found. -/
def InstallStep.commands (found : Text) : InstallStep → List InstallCommand
  | makeWorkdir workdir => [.mkdir workdir]
  | extractIn workdir package => [.cd workdir, .rpm2cpio package, .cpio]
  | installFound workdir =>
    [.cd workdir, .find, .head, .test found, .mkdir perccliDir, .cp found perccliPath,
      .chmod perccliPath]
  | link source name => [.ln source name]
  | makeAndExtract workdir package =>
    [.mkdir workdir, .cd workdir, .rpm2cpio package, .cpio]
  | copy source dest => [.cp source dest, .chmod dest]

/-- All commands were run, and have exited with 0. -/
def InstallStep.IsDone (step : InstallStep) (found : Text) (s : ShellState) : Prop :=
  s.ran = (step.commands found).map (·, 0)

/-- Commands one after the other up to one that fails, of which none kills the shell. No status is
seen of one that fails when the connection is lost. -/
def Tested (lost : Bool) (o : ExecOutcome) (rest : Prop) : List InstallCommand → Prop
  | [] => rest
  | c :: cs =>
    match o.status c with
    | none => False
    | some 0 => Tested lost o rest cs
    | some _ => lost = false

/-- The second of two commands fails if the first does. -/
def Piped (lost : Bool) (o : ExecOutcome) (c d : InstallCommand) : Prop :=
  ∃ m n, o.status c = some m ∧ o.status d = some n ∧ ((lost = true ∨ n = 0) → m = 0 ∧ n = 0)

/-- What must become of the commands of a step so that it is taken for done only if it is. -/
def InstallStep.TellsStatus (lost : Bool) (o : ExecOutcome) : InstallStep → Prop
  | makeWorkdir workdir => Tested lost o True [.mkdir workdir]
  | extractIn workdir package =>
    Tested lost o (Piped lost o (.rpm2cpio package) .cpio) [.cd workdir]
  | installFound workdir =>
    Tested lost o
      ((o.status .find).isSome = true ∧ (o.status .head).isSome = true ∧
        if o.found = [] then lost = false
        else Tested lost o (o.status .find = some 0 ∧ o.status .head = some 0)
          [.mkdir perccliDir, .cp o.found perccliPath, .chmod perccliPath])
      [.cd workdir]
  | link source name => Tested lost o True [.ln source name]
  | makeAndExtract workdir package =>
    Tested lost o (Piped lost o (.rpm2cpio package) .cpio) [.mkdir workdir, .cd workdir]
  | copy source dest => Tested lost o True [.cp source dest, .chmod dest]

section

variable {lost : Bool} {o : ExecOutcome} {step : InstallStep} {c d : InstallCommand}
  {cs : List InstallCommand} {rest : Prop} {k : Command ShellState} {s : ShellState}
  {full : List (InstallCommand × Nat)}

theorem tells_last (hLast : s.ran ++ [(c, 0)] = full ↔ rest)
    (hPart : ∀ n, s.ran ≠ full ∧ s.ran ++ [(c, n + 1)] ≠ full) :
    Tells lost (simple o c) s (fun s => s.ran = full) ↔ Tested lost o rest [c] := by
  unfold Tested
  cases h : o.status c with
  | none =>
    rw [tells_of_killed (simple_of_none h)]
    exact iff_of_false (hPart 0).1 id
  | some n =>
    rw [tells_of_exited (simple_of_some h)]
    cases n with
    | zero => simpa [Tested, ShellState.add] using hLast
    | succ n => simp [ShellState.add, (hPart n).2]

theorem tells_cons (hPart : ∀ n, s.ran ≠ full ∧ s.ran ++ [(c, n + 1)] ≠ full)
    (hRest : Tells lost k (s.add c 0) (fun s => s.ran = full) ↔ Tested lost o rest cs) :
    Tells lost ((simple o c).andThen k) s (fun s => s.ran = full) ↔
      Tested lost o rest (c :: cs) := by
  unfold Command.andThen
  cases h : o.status c with
  | none =>
    rw [tells_of_killed (Posix.next_of_killed (simple_of_none h))]
    simp [Tested, h, (hPart 0).1]
  | some n =>
    rw [tells_next_of_exited (simple_of_some h)]
    cases n with
    | zero => simpa [Tested, h] using hRest
    | succ n =>
      rw [if_neg (Nat.succ_ne_zero n), tells_of_exited rfl]
      simp [Tested, h, ShellState.add, (hPart n).2]

theorem tells_extract {package : Text}
    (hFull : full = s.ran ++ [(.rpm2cpio package, 0), (.cpio, 0)]) :
    Tells lost (extract o package) s (fun s => s.ran = full) ↔
      Piped lost o (.rpm2cpio package) .cpio := by
  subst hFull
  unfold extract Command.pipe Piped
  cases hPackage : o.status (.rpm2cpio package) with
  | none =>
    rw [tells_of_killed (Posix.next_of_killed (simple_of_none hPackage))]
    simp
  | some m =>
    rw [tells_next_of_exited (simple_of_some hPackage)]
    cases hCpio : o.status .cpio with
    | none =>
      rw [tells_of_killed (simple_of_none hCpio)]
      simp [ShellState.add]
    | some n =>
      rw [tells_of_exited (simple_of_some hCpio)]
      simp [ShellState.add]

theorem tells_testFound (hPart : s.ran ++ [(.test [], 1)] ≠ full) :
    Tells lost (testFound.andThen k) s (fun s => s.ran = full) ↔
      if s.p = [] then lost = false
      else Tells lost k (s.add (.test s.p) 0) (fun s => s.ran = full) := by
  unfold Command.andThen
  by_cases hFound : s.p = []
  · have hTest : testFound s = (s.add (.test []) 1, .exited 1) := by
      simp [testFound, hFound, ShellState.add]
    rw [tells_next_of_exited hTest, if_pos hFound, if_neg Nat.one_ne_zero, tells_of_exited rfl]
    simp [ShellState.add, hPart]
  · have hTest : testFound s = (s.add (.test s.p) 0, .exited 0) := by
      simp [testFound, hFound, ShellState.add]
    rw [tells_next_of_exited hTest, if_neg hFound, if_pos rfl]

theorem tells_copyFound {dest : Text} {P : ShellState → Prop} :
    Tells lost ((copyFound o dest).andThen k) s P ↔
      Tells lost ((simple o (.cp s.p dest)).andThen k) s P := Iff.rfl

theorem assignFound_of_some {a b : Nat} (hFind : o.status .find = some a)
    (hHead : o.status .head = some b) :
    assignFound o s = ({ (s.add .find a).add .head b with p := o.found }, .exited b) := by
  rw [assignFound, Command.pipe, Posix.next_of_exited]
  rw [Posix.next_of_exited (simple_of_some hFind), simple_of_some hHead]

theorem assignFound_of_none (hNone : o.status .find = none ∨ o.status .head = none) :
    ∃ ran, ran.length ≤ 1 ∧
      assignFound o s = ({ s with ran := s.ran ++ ran }, .killed) := by
  rw [assignFound, Command.pipe]
  cases hFind : o.status .find with
  | none =>
    refine ⟨[], Nat.zero_le 1, ?_⟩
    rw [Posix.next_of_killed (Posix.next_of_killed (simple_of_none hFind)), List.append_nil]
  | some a =>
    have hHead : o.status .head = none := by simpa [hFind] using hNone
    refine ⟨[(.find, a)], Nat.le_refl 1, Posix.next_of_killed ?_⟩
    rw [Posix.next_of_exited (simple_of_some hFind), simple_of_none hHead]
    rfl

theorem tells_installFound {workdir : Text} :
    Tells lost ((InstallStep.installFound workdir).command o) {}
        ((InstallStep.installFound workdir).IsDone o.found) ↔
      (InstallStep.installFound workdir).TellsStatus lost o := by
  unfold InstallStep.command InstallStep.TellsStatus Tested
  dsimp only
  cases hCd : o.status (.cd workdir) with
  | none =>
    have hKilled : ((simple o (.cd workdir)).andThen (assignFound o)) {} = ({}, .killed) :=
      Posix.next_of_killed (simple_of_none hCd)
    rw [tells_of_killed (Posix.next_of_killed hKilled)]
    simp [InstallStep.IsDone, InstallStep.commands]
  | some status =>
    cases status with
    | succ n =>
      have hExited : ((simple o (.cd workdir)).andThen (assignFound o)) {} =
          (({} : ShellState).add (.cd workdir) (n + 1), .exited (n + 1)) := by
        rw [Command.andThen, Posix.next_of_exited (simple_of_some hCd)]
        rfl
      rw [tells_next_of_exited hExited]
      refine (tells_testFound ?_).trans ?_
      · simp [InstallStep.commands, ShellState.add]
      · simp [ShellState.add]
    | zero =>
      have hAssign : ((simple o (.cd workdir)).andThen (assignFound o)) {} =
          assignFound o (({} : ShellState).add (.cd workdir) 0) := by
        rw [Command.andThen, Posix.next_of_exited (simple_of_some hCd), if_pos rfl]
      by_cases hNone : o.status .find = none ∨ o.status .head = none
      · obtain ⟨ran, hRan, hKilled⟩ := assignFound_of_none
          (s := ({} : ShellState).add (.cd workdir) 0) hNone
        rw [tells_of_killed (Posix.next_of_killed (hAssign.trans hKilled))]
        refine iff_of_false (fun hDone => ?_) fun hSome => ?_
        · have hLength := congrArg List.length hDone
          simp [InstallStep.commands, ShellState.add] at hLength
          omega
        · rcases hNone with hNone | hNone <;> simp [Tested, hNone] at hSome
      · obtain ⟨⟨a, hFind⟩, b, hHead⟩ : (∃ a, o.status .find = some a) ∧
            ∃ b, o.status .head = some b := by
          simpa [not_or, Option.ne_none_iff_exists'] using hNone
        rw [tells_next_of_exited (hAssign.trans (assignFound_of_some hFind hHead))]
        refine (tells_testFound ?_).trans ?_
        · simp [InstallStep.commands, ShellState.add]
        · dsimp only
          rw [Tested, hFind, hHead, Option.isSome_some, Option.isSome_some]
          simp only [true_and]
          by_cases hFound : o.found = []
          · rw [if_pos hFound, if_pos hFound]
          · rw [if_neg hFound, if_neg hFound]
            refine tells_cons ?_ ?_
            · intro n
              simp [InstallStep.commands, ShellState.add]
            · refine tells_copyFound.trans (tells_cons ?_ (tells_last ?_ ?_))
              · intro n
                simp [InstallStep.commands, ShellState.add]
              · simp [InstallStep.commands, ShellState.add]
              · intro n
                simp [InstallStep.commands, ShellState.add]

theorem tells_command :
    Tells lost (step.command o) {} (step.IsDone o.found) ↔ step.TellsStatus lost o := by
  cases step with
  | makeWorkdir workdir =>
    exact tells_last (by simp [InstallStep.commands]) (by simp [InstallStep.commands])
  | extractIn workdir package =>
    exact tells_cons (by simp [InstallStep.commands]) (tells_extract rfl)
  | installFound workdir => exact tells_installFound
  | link source name =>
    exact tells_last (by simp [InstallStep.commands]) (by simp [InstallStep.commands])
  | makeAndExtract workdir package =>
    exact tells_cons (by simp [InstallStep.commands])
      (tells_cons (by simp [InstallStep.commands, ShellState.add]) (tells_extract rfl))
  | copy source dest =>
    exact tells_cons (by simp [InstallStep.commands])
      (tells_last (by simp [InstallStep.commands, ShellState.add])
        (by simp [InstallStep.commands, ShellState.add]))

end

namespace InstallExec

variable {e : InstallExec}

/-- The session answers with 0. -/
def IsAccepted (e : InstallExec) : Prop := ∃ res, e.answer = .ok res ∧ res.code = 0

def IsDone (e : InstallExec) : Prop := e.step.IsDone e.outcome.found e.after.1

/-- A session answers with 0 only if its commands are done. -/
def TellsDone (e : InstallExec) : Prop :=
  match e.outcome.closing with
  | .passesOn _ => e.step.TellsStatus false e.outcome
  | .lost _ _ => e.step.TellsStatus true e.outcome
  | .rejected _ => True

theorem tellsDone_iff : (e.IsAccepted → e.IsDone) ↔ e.TellsDone := by
  unfold IsAccepted TellsDone answer
  cases hClosing : e.outcome.closing with
  | passesOn stdout =>
    dsimp only
    rw [← tells_command]
    simp [Tells, Heard, Closing.answer, IsDone, after]
  | lost stdout stderr =>
    dsimp only
    rw [← tells_command]
    simp [Tells, Heard, Closing.answer, IsDone, after]
  | rejected message => simp [Closing.answer]

end InstallExec

theorem applyInstall_eq_ok {execs : List InstallExec} :
    applyInstall execs = .ok () ↔ ∀ e ∈ execs, e.IsAccepted := by
  induction execs with
  | nil => simp [applyInstall]
  | cons e rest ih =>
    simp only [applyInstall, bind_eq_ok, throwIf_eq_ok, ih, List.forall_mem_cons,
      InstallExec.IsAccepted, not_not]
    constructor
    · rintro ⟨res, hAnswer, -, hCode, hRest⟩
      exact ⟨⟨res, hAnswer, hCode⟩, hRest⟩
    · rintro ⟨⟨res, hAnswer, hCode⟩, hRest⟩
      exact ⟨res, hAnswer, (), hCode, hRest⟩

section

variable {toLowerCase : Text → Text} {binary : DeploymentBinary} {uuid workUuid : Text}
  {outcomes : TargetOutcomes}

/-- Nothing has failed before the hash is read. -/
structure TargetOutcomes.IsTransferred (outcomes : TargetOutcomes) : Prop where
  writable : outcomes.writable = .ok ()
  connected : outcomes.connected = .ok true
  localPath : outcomes.localPath ≠ none
  sent : outcomes.sftp = .ok () ∨
    ∀ chunk ∈ outcomes.chunks, ∃ result, chunk = .ok result ∧ result.code = 0

theorem transferLocalFileViaSshBase64_eq_ok {chunks : List (Except Text Answer)} :
    transferLocalFileViaSshBase64 chunks = .ok () ↔
      ∀ chunk ∈ chunks, ∃ result, chunk = .ok result ∧ result.code = 0 := by
  induction chunks with
  | nil => simp [transferLocalFileViaSshBase64]
  | cons chunk rest ih =>
    simp only [transferLocalFileViaSshBase64, bind_eq_ok, throwIf_eq_ok, ih,
      List.forall_mem_cons, not_not]
    constructor
    · rintro ⟨result, hChunk, -, hCode, hRest⟩
      exact ⟨⟨result, hChunk, hCode⟩, hRest⟩
    · rintro ⟨⟨result, hChunk, hCode⟩, hRest⟩
      exact ⟨result, hChunk, (), hCode, hRest⟩

theorem transferTarget_eq_ok {verify : Answer} :
    transferTarget binary outcomes = .ok verify ↔
      outcomes.IsTransferred ∧ outcomes.verify = .ok verify ∧
        (remoteHash verify = [] ∨ remoteHash verify = binary.sha256) := by
  have hSent : transferLocalFileViaSsh outcomes.sftp outcomes.chunks = .ok () ↔
      outcomes.sftp = .ok () ∨
        ∀ chunk ∈ outcomes.chunks, ∃ result, chunk = .ok result ∧ result.code = 0 := by
    rw [← transferLocalFileViaSshBase64_eq_ok]
    cases outcomes.sftp <;> simp [transferLocalFileViaSsh]
  have hHash : ¬ (remoteHash verify ≠ [] ∧ remoteHash verify ≠ binary.sha256) ↔
      remoteHash verify = [] ∨ remoteHash verify = binary.sha256 := by
    rw [not_and_or, not_not, not_not]
  unfold transferTarget
  simp only [bind_eq_ok, throwIf_eq_ok, pure_eq_ok]
  constructor
  · rintro ⟨_, hWritable, ready, hConnected, -, hReady, -, hPath, _, hTransfer, other, hVerify, -,
      hSame, rfl⟩
    obtain rfl : ready = true := by simpa using hReady
    exact ⟨⟨hWritable, hConnected, hPath, hSent.mp hTransfer⟩, hVerify, hHash.mp hSame⟩
  · rintro ⟨h, hVerify, hSame⟩
    exact ⟨(), h.writable, true, h.connected, (), Bool.noConfusion, (), h.localPath, (),
      hSent.mpr h.sent, verify, hVerify, (), hHash.mpr hSame, rfl⟩

/-- A target that is said to be installed has its hash read back, and all its commands done. -/
def InstalledVerified (toLowerCase : Text → Text) (binary : DeploymentBinary)
    (uuid workUuid : Text) (outcomes : TargetOutcomes) : Prop :=
  (runTarget toLowerCase binary uuid workUuid outcomes).1 = .success →
    (∃ verify, outcomes.verify = .ok verify ∧ remoteHash verify ≠ [] ∧
      remoteHash verify = binary.sha256) ∧
    ∀ e ∈ installExecs toLowerCase binary uuid workUuid outcomes, e.IsDone

theorem finished_eq_success {x : Except Text Unit} : (finished x).1 = .success ↔ x = .ok () := by
  cases x <;> simp [finished]

theorem runTarget_eq_success :
    (runTarget toLowerCase binary uuid workUuid outcomes).1 = .success ↔
      (∃ verify, transferTarget binary outcomes = .ok verify) ∧
        ∀ e ∈ installExecs toLowerCase binary uuid workUuid outcomes, e.IsAccepted := by
  rw [← applyInstall_eq_ok, runTarget, finished_eq_success, bind_eq_ok]
  exact exists_and_right

theorem installed_target_verified_iff (toLowerCase : Text → Text) (binary : DeploymentBinary)
    (uuid workUuid : Text) (outcomes : TargetOutcomes) :
    InstalledVerified toLowerCase binary uuid workUuid outcomes ↔
      ∀ verify, outcomes.IsTransferred → outcomes.verify = .ok verify →
        (remoteHash verify = [] ∨ remoteHash verify = binary.sha256) →
        (∀ e ∈ installExecs toLowerCase binary uuid workUuid outcomes, e.IsAccepted) →
          remoteHash verify ≠ [] ∧
            ∀ e ∈ installExecs toLowerCase binary uuid workUuid outcomes, e.TellsDone := by
  unfold InstalledVerified
  rw [runTarget_eq_success]
  simp only [transferTarget_eq_ok]
  constructor
  · intro hSound verify hTransferred hVerify hHash hAccepted
    obtain ⟨⟨other, hOther, hSome, -⟩, hDone⟩ :=
      hSound ⟨⟨verify, hTransferred, hVerify, hHash⟩, hAccepted⟩
    obtain rfl := Except.ok.inj (hVerify.symm.trans hOther)
    exact ⟨hSome, fun e he => InstallExec.tellsDone_iff.mp fun _ => hDone e he⟩
  · rintro hTells ⟨⟨verify, hTransferred, hVerify, hHash⟩, hAccepted⟩
    obtain ⟨hSome, hDone⟩ := hTells verify hTransferred hVerify hHash hAccepted
    exact ⟨⟨verify, hVerify, hSome, hHash.resolve_left hSome⟩, fun e he =>
      InstallExec.tellsDone_iff.mpr (hDone e he) (hAccepted e he)⟩

end

def toolBinary : DeploymentBinary where
  filename := "storcli64".toList
  sha256 := "9f86d081884c7d659a2feaa0c55ad015a3bf4f1b2b0b822cd15d6c15b0f00a08".toList
  kind := .executable

/-- Without `sha256sum`, nothing is printed. -/
def noSha256sum : TargetOutcomes where
  localPath := some "/opt/esos-webui/binaries/storcli64".toList
  verify := .ok { code := 0 }

def packageBinary : DeploymentBinary where
  filename := "storcli.rpm".toList
  sha256 := toolBinary.sha256
  kind := .rpm

/-- The hash is read back, and `rpm2cpio` fails. -/
def brokenPackage : TargetOutcomes where
  localPath := some "/opt/esos-webui/binaries/storcli.rpm".toList
  verify := .ok { code := 0, stdout := toolBinary.sha256 ++ ['\n'] }
  execs _ :=
    { status := fun c => match c with
        | .rpm2cpio _ => some 1
        | _ => some 0 }

/-- An unverified file and a package that could not be read are said to be installed. -/
theorem unverified_target_success :
    ¬ InstalledVerified id toolBinary [] [] noSha256sum ∧
      ¬ InstalledVerified id packageBinary [] [] brokenPackage := by
  constructor
  · intro hSound
    obtain ⟨⟨verify, hVerify, hSome, -⟩, -⟩ := hSound (by decide +kernel)
    obtain rfl := Except.ok.inj hVerify
    exact hSome rfl
  · intro hSound
    have hSteps : installSteps id packageBinary [] (remoteStagingPath [] packageBinary) =
        [.makeAndExtract "/tmp/esos-rpm-work-".toList (remoteStagingPath [] packageBinary)] := by
      have hKind : isPerccli id packageBinary = false := by decide +kernel
      rw [installSteps, hKind]
      rfl
    have hDone := (hSound (by decide +kernel)).2
    rw [installExecs, hSteps] at hDone
    have hStatus := congrArg (List.map Prod.snd) (hDone _ (List.mem_singleton_self _))
    cases hStatus

end EsosWebui.Deployment
