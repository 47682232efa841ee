import EsosWebui.Js.Strings
import EsosWebui.Js.Throw

/-! One remote command: what its promise is settled with, for any order of the events of
its stream. -/
namespace EsosWebui.Ssh

open Js

/-- What `exec` resolves with. -/
structure ExecResult where
  stdout : String
  stderr : String
  code : Nat
  deriving DecidableEq

/-- An error with the output up to then. -/
structure ExecError where
  message : String
  cmd : String
  stdout : String
  stderr : String
  deriving DecidableEq

inductive Settled where
  | resolved (result : ExecResult)
  | rejected (error : ExecError)
  deriving DecidableEq

/-- What happens on the stream of a command. Output comes decoded. An exit is by a status or,
without one, by a signal; the closing has the status only if the stream passes one on. -/
inductive StreamEvent where
  | data (text : String)
  | errData (text : String)
  | exit (status : Option Nat)
  | close (code : Option Nat)
  | error (message : String)
  | timeout
  deriving DecidableEq

/-- The variables that the handlers of one command share. -/
structure ExecState where
  cmd : String
  timeoutMs : Nat
  stdout : String := ""
  stderr : String := ""
  timer : Bool := true
  destroyed : Bool := false
  released : Bool := false
  promise : Option Settled := none

def timeoutMessage (timeoutMs : Nat) (cmd : String) : String :=
  let shown := String.ofList (cmd.toList.take 60)
  s!"SSH exec timeout ({timeoutMs}ms): {shown}"

namespace ExecState

def release (s : ExecState) : ExecState := { s with released := true }

def settle (s : ExecState) (outcome : Settled) : ExecState :=
  { s with promise := s.promise.or (some outcome) }

def resolve (s : ExecState) (code : Nat) : ExecState :=
  s.settle (.resolved ⟨s.stdout, s.stderr, code⟩)

def reject (s : ExecState) (message : String) : ExecState :=
  s.settle (.rejected ⟨message, s.cmd, s.stdout, s.stderr⟩)

/-- The handlers of the stream. Nothing listens for the exit, and a cleared timer does not fire. -/
def handle (s : ExecState) (event : StreamEvent) : ExecState :=
  match event with
  | .data text => { s with stdout := s.stdout ++ text }
  | .errData text => { s with stderr := s.stderr ++ text }
  | .exit _ => s
  | .close code => ({ s with timer := false }.release).resolve (code.getD 0)
  | .error message => ({ s with timer := false }.release).reject message
  | .timeout =>
    if s.timer then
      ({ s with timer := false, destroyed := true }.release).reject
        (timeoutMessage s.timeoutMs s.cmd)
    else s

end ExecState

/-- The outcome of a command, from how its channel opened: with an error, or with a stream
on which events happen. It stays pending if none of them settles it. -/
def runExec (cmd : String) (timeoutMs : Nat) (opened : Except String (List StreamEvent)) :
    Option Settled :=
  match opened with
  | .error message => some (.rejected ⟨message, cmd, "", ""⟩)
  | .ok events => (events.foldl ExecState.handle { cmd, timeoutMs }).promise

/-- `result.stderr.trim() || result.stdout.trim() || "exit code"` -/
def ExecResult.detail (result : ExecResult) : String :=
  let code := result.code
  if trimString result.stderr ≠ "" then trimString result.stderr
  else if trimString result.stdout ≠ "" then trimString result.stdout
  else s!"exit {code}"

def writeAndReloadScst (written : Except String Unit) (reload : Settled) : Except String Unit := do
  written
  match reload with
  | .rejected error => .error error.message
  | .resolved result =>
    let detail := result.detail
    throwIf (result.code ≠ 0) s!"Erreur lors du rechargement SCST : {detail}"

def StreamEvent.settles (event : StreamEvent) : Bool :=
  match event with
  | .close _ | .error _ | .timeout => true
  | .data _ | .errData _ | .exit _ => false

namespace ExecState

theorem promise_settle_of_some {s : ExecState} {outcome : Settled} (h : s.promise = some outcome)
    (other : Settled) : (s.settle other).promise = some outcome := by
  simp [settle, h]

theorem promise_handle_of_some {s : ExecState} {outcome : Settled} (h : s.promise = some outcome)
    (event : StreamEvent) : (s.handle event).promise = some outcome := by
  cases event with
  | data text => exact h
  | errData text => exact h
  | exit status => exact h
  | close code => exact promise_settle_of_some h _
  | error message => exact promise_settle_of_some h _
  | timeout =>
    unfold handle
    dsimp only
    split
    · exact promise_settle_of_some h _
    · exact h

theorem promise_foldl_of_some {s : ExecState} {outcome : Settled} (h : s.promise = some outcome)
    (events : List StreamEvent) : (events.foldl handle s).promise = some outcome := by
  induction events generalizing s with
  | nil => exact h
  | cons event events ih => exact ih (promise_handle_of_some h event)

def Pending (s : ExecState) : Prop := s.promise = none ∧ s.timer = true

theorem Pending.handle {s : ExecState} (h : s.Pending) {event : StreamEvent}
    (hEvent : event.settles = false) : (s.handle event).Pending := by
  cases event with
  | data text => exact h
  | errData text => exact h
  | exit status => exact h
  | close code => cases hEvent
  | error message => cases hEvent
  | timeout => cases hEvent

theorem Pending.foldl {s : ExecState} (h : s.Pending) {events : List StreamEvent}
    (hEvents : ∀ event ∈ events, event.settles = false) :
    (events.foldl ExecState.handle s).Pending := by
  induction events generalizing s with
  | nil => exact h
  | cons event events ih =>
    obtain ⟨hEvent, hEvents⟩ := List.forall_mem_cons.mp hEvents
    exact ih (h.handle hEvent) hEvents

theorem Pending.promise_close {s : ExecState} (h : s.Pending) (code : Option Nat)
    (after : List StreamEvent) : (after.foldl ExecState.handle (s.handle (.close code))).promise =
      some (.resolved ⟨s.stdout, s.stderr, code.getD 0⟩) := by
  apply promise_foldl_of_some
  simp [ExecState.handle, resolve, settle, release, h.1]

theorem Pending.promise_foldl {s : ExecState} (h : s.Pending) {events : List StreamEvent}
    {event : StreamEvent} (hFirst : events.find? (·.settles) = some event) :
    (∃ result, (events.foldl ExecState.handle s).promise = some (.resolved result) ∧
      ∃ code, event = .close code ∧ result.code = code.getD 0) ∨
    (∃ error, (events.foldl ExecState.handle s).promise = some (.rejected error)) ∧
      ∀ code, event ≠ .close code := by
  obtain ⟨hSettles, before, after, rfl, hBefore⟩ := List.find?_eq_some_iff_append.mp hFirst
  have hPending := h.foldl fun event hEvent => by simpa using hBefore event hEvent
  rw [List.foldl_append, List.foldl_cons]
  generalize before.foldl ExecState.handle s = s' at hPending ⊢
  have ⟨hPromise, hTimer⟩ := hPending
  cases event with
  | data text => cases hSettles
  | errData text => cases hSettles
  | exit status => cases hSettles
  | close code =>
    exact .inl ⟨_, hPending.promise_close code after, code, rfl, rfl⟩
  | error message =>
    right
    refine ⟨⟨⟨message, s'.cmd, s'.stdout, s'.stderr⟩, promise_foldl_of_some ?_ after⟩, by simp⟩
    simp [ExecState.handle, reject, settle, release, hPromise]
  | timeout =>
    right
    refine ⟨⟨⟨timeoutMessage s'.timeoutMs s'.cmd, s'.cmd, s'.stdout, s'.stderr⟩,
      promise_foldl_of_some ?_ after⟩, by simp⟩
    simp [ExecState.handle, reject, settle, release, hPromise, hTimer]

end ExecState

def StreamEvent.exitStatus (event : StreamEvent) : Option (Option Nat) :=
  match event with
  | .exit status => some status
  | _ => none

def reportedStatus (events : List StreamEvent) : Option Nat :=
  ((events.filterMap StreamEvent.exitStatus).getLast?).join

def reported (opened : Except String (List StreamEvent)) : Option Nat :=
  (opened.toOption.map reportedStatus).join

/-- The closing of a stream passes on the status that was reported. -/
def PassesOnExit (opened : Except String (List StreamEvent)) : Prop :=
  ∀ events, opened = .ok events → ∀ code, .close code ∈ events → code = reportedStatus events

/-- A command counts as successful, for itself and for the reload of the configuration, only
if the remote side reported the exit status 0. -/
structure NeverLooksSuccessful (cmd : String) (timeoutMs : Nat)
    (opened : Except String (List StreamEvent)) : Prop where
  code : ∀ result, runExec cmd timeoutMs opened = some (.resolved result) → result.code = 0 →
    reported opened = some 0
  reload : ∀ outcome written, runExec cmd timeoutMs opened = some outcome →
    writeAndReloadScst written outcome = .ok () → reported opened = some 0

/-- What settles the command is that its stream closes without a status. -/
def ClosesWithoutStatus (opened : Except String (List StreamEvent)) : Prop :=
  ∃ events, opened = .ok events ∧ events.find? (·.settles) = some (.close none)

theorem writeAndReloadScst_eq_ok {written : Except String Unit} {outcome : Settled}
    (h : writeAndReloadScst written outcome = .ok ()) :
    ∃ result, outcome = .resolved result ∧ result.code = 0 := by
  obtain ⟨_, -, h⟩ := bind_eq_ok.mp h
  cases outcome with
  | rejected error => cases h
  | resolved result => exact ⟨result, rfl, not_not.mp (throwIf_eq_ok.mp h)⟩

/-- An interrupted command never looks successful, unless its stream closes without a status. -/
theorem runExec_never_looks_successful_iff (cmd : String) (timeoutMs : Nat)
    {opened : Except String (List StreamEvent)} (hExit : PassesOnExit opened) :
    NeverLooksSuccessful cmd timeoutMs opened ↔ ¬ ClosesWithoutStatus opened := by
  constructor
  · rintro hNever ⟨events, rfl, hFirst⟩
    have hReported : reportedStatus events = none :=
      (hExit events rfl none (List.mem_of_find?_eq_some hFirst)).symm
    have hPending : ({ cmd, timeoutMs } : ExecState).Pending := ⟨rfl, rfl⟩
    rcases hPending.promise_foldl hFirst with ⟨result, hResult, code, hCode, hZero⟩ | ⟨-, hOther⟩
    · cases hCode
      have hStatus : reportedStatus events = some 0 := hNever.code result hResult hZero
      rw [hReported] at hStatus
      cases hStatus
    · exact hOther none rfl
  · intro hCloses
    have hCode : ∀ result, runExec cmd timeoutMs opened = some (.resolved result) →
        result.code = 0 → reported opened = some 0 := by
      intro result hResult hZero
      cases opened with
      | error message => cases hResult
      | ok events =>
        have hPending : ({ cmd, timeoutMs } : ExecState).Pending := ⟨rfl, rfl⟩
        have hPromise : (events.foldl ExecState.handle { cmd, timeoutMs }).promise =
          some (.resolved result) := hResult
        cases hFirst : events.find? (·.settles) with
        | none =>
          have hNone := (hPending.foldl fun event hEvent => by
            simpa using List.find?_eq_none.mp hFirst event hEvent).1
          rw [hPromise] at hNone
          cases hNone
        | some event =>
          rcases hPending.promise_foldl hFirst with
            ⟨found, hFound, code, rfl, hSame⟩ | ⟨⟨_, hNot⟩, -⟩
          · rw [hPromise] at hFound
            cases hFound
            cases code with
            | none => exact absurd ⟨events, rfl, hFirst⟩ hCloses
            | some code =>
              have hStatus := hExit events rfl _ (List.mem_of_find?_eq_some hFirst)
              obtain rfl : code = 0 := hSame.symm.trans hZero
              exact hStatus.symm
          · rw [hPromise] at hNot
            cases hNot
    refine ⟨hCode, fun outcome written hOutcome hOk => ?_⟩
    obtain ⟨result, rfl, hZero⟩ := writeAndReloadScst_eq_ok hOk
    exact hCode result hOutcome hZero

def exitedEvents : List StreamEvent := [.data "ok", .exit (some 0), .close (some 0)]

theorem runExec_never_looks_successful_iff_exited :
    NeverLooksSuccessful "true" 5000 (.ok exitedEvents) := by
  have hExit : PassesOnExit (.ok exitedEvents) := by
    rintro events hEvents code hCode
    cases hEvents
    obtain rfl : code = some 0 := by simpa [exitedEvents] using hCode
    decide
  apply (runExec_never_looks_successful_iff "true" 5000 hExit).mpr
  rintro ⟨events, hEvents, hFirst⟩
  cases hEvents
  exact absurd hFirst (by decide)

/-- A channel that closes when the connection is lost looks like a success. -/
theorem lostConnection_looks_successful :
    PassesOnExit (.ok [.data "mkfs", .close none]) ∧
      runExec "mkfs /dev/sdb1" 30000 (.ok [.data "mkfs", .close none]) =
        some (.resolved ⟨"mkfs", "", 0⟩) ∧
      writeAndReloadScst (.ok ()) (.resolved ⟨"mkfs", "", 0⟩) = .ok () ∧
      ¬ NeverLooksSuccessful "mkfs /dev/sdb1" 30000 (.ok [.data "mkfs", .close none]) := by
  refine ⟨?_, by decide +kernel, by decide +kernel, fun hNever => ?_⟩
  · rintro events hEvents code hCode
    cases hEvents
    obtain rfl : code = none := by simpa using hCode
    decide
  · have hStatus := hNever.code ⟨"mkfs", "", 0⟩ (by decide +kernel) rfl
    exact absurd hStatus (by decide)

end EsosWebui.Ssh
