import EsosWebui.Ssh.ManagerSteps

/-! The channels of a connection over whole runs, whatever happens in which order. -/
namespace EsosWebui.Ssh

open Js

def promiseOf (commands : List Command) (id : Nat) : Option Settled :=
  (commands[id]?).bind (·.exec.promise)

/-- No promise that is settled is lost or settled again. -/
def Keeps (commands commands' : List Command) : Prop :=
  ∀ id outcome, promiseOf commands id = some outcome → promiseOf commands' id = some outcome

section

variable {commands : List Command} {f : Command → Command}

theorem Keeps.refl (commands : List Command) : Keeps commands commands := fun _ _ h => h

theorem Keeps.trans {commands' commands'' : List Command} (h : Keeps commands commands')
    (h' : Keeps commands' commands'') : Keeps commands commands'' :=
  fun id outcome hSettled => h' id outcome (h id outcome hSettled)

theorem keeps_modify (id : Nat)
    (h : ∀ c outcome, c.exec.promise = some outcome → (f c).exec.promise = some outcome) :
    Keeps commands (commands.modify id f) := by
  intro j outcome hSettled
  obtain ⟨c, hc, hPromise⟩ := Option.bind_eq_some_iff.mp hSettled
  unfold promiseOf
  rw [List.getElem?_modify, hc]
  by_cases hSame : id = j
  · simpa [hSame] using h c outcome hPromise
  · simpa [hSame] using hPromise

theorem keeps_append (command : Command) : Keeps commands (commands ++ [command]) := by
  intro j outcome hSettled
  obtain ⟨c, hc, hPromise⟩ := Option.bind_eq_some_iff.mp hSettled
  unfold promiseOf
  rw [List.getElem?_append_left (List.getElem?_eq_some_iff.mp hc).1, hc]
  exact hPromise

theorem keeps_foldl {α : Type} {g : Manager → α → Manager}
    (h : ∀ m a, Keeps m.commands (g m a).commands) (as : List α) (m : Manager) :
    Keeps m.commands (as.foldl g m).commands := by
  induction as generalizing m with
  | nil => exact Keeps.refl _
  | cons a as ih => exact (h m a).trans (ih (g m a))

end

namespace Manager

variable (m : Manager)

theorem setPhase_keeps (id : Nat) (phase : Phase) :
    Keeps m.commands (m.setPhase id phase).commands :=
  keeps_modify id fun _ _ h => h

theorem rejectCommand_keeps (message : String) (id : Nat) :
    Keeps m.commands (m.rejectCommand message id).commands :=
  keeps_modify id fun _ _ h => ExecState.promise_settle_of_some h _

theorem releaseSlot_keeps : Keeps m.commands m.releaseSlot.commands := by
  unfold releaseSlot
  dsimp only
  split
  · exact Keeps.refl _
  · rename_i next waiters hWaiters
    exact setPhase_keeps { m with activeChannels := m.activeChannels - 1, waiters } next .woken

theorem runExec_keeps (id : Nat) : Keeps m.commands (m.runExec id).commands := by
  unfold runExec acquireSlot
  split
  · exact rejectCommand_keeps m _ id
  · split
    · exact setPhase_keeps { m with activeChannels := m.activeChannels + 1 } id .granted
    · exact setPhase_keeps { m with waiters := m.waiters ++ [id] } id .waiting

theorem drainQueue_keeps (message : String) : Keeps m.commands (m.drainQueue message).commands :=
  keeps_foldl (fun m id => rejectCommand_keeps m message id) m.queue { m with queue := [] }

theorem scheduleReconnect_keeps : Keeps m.commands m.scheduleReconnect.commands := by
  unfold scheduleReconnect
  split
  · exact Keeps.refl _
  · split
    · exact drainQueue_keeps { m with client := false, status := .error } _
    · exact Keeps.refl _

theorem connect_keeps (threw : Bool) : Keeps m.commands (m.connect threw).commands := by
  unfold connect
  dsimp only
  split
  · exact Keeps.refl _
  · split
    · exact scheduleReconnect_keeps { m with
        status := if m.retryCount > 0 then .reconnecting else .connecting
        client := true }
    · exact Keeps.refl _

theorem destroy_keeps : Keeps m.commands m.destroy.commands := by
  let drained := { m with destroyed := true, client := false, status := .error }.drainQueue
    "SSHSessionManager destroyed"
  have hDrained : Keeps m.commands drained.commands :=
    drainQueue_keeps { m with destroyed := true, client := false, status := .error } _
  exact hDrained.trans
    (keeps_foldl (fun m id => setPhase_keeps m id .woken) m.waiters { drained with waiters := [] })

theorem exec_keeps (cmd : String) (timeoutMs : Nat) :
    Keeps m.commands (m.exec cmd timeoutMs).commands := by
  have hCalled := @keeps_append m.commands ⟨.queued, { cmd, timeoutMs }⟩
  unfold exec
  dsimp only
  split
  · exact hCalled.trans (rejectCommand_keeps { m with commands := _ } _ _)
  · split
    · exact hCalled.trans (runExec_keeps { m with commands := _ } _)
    · exact hCalled

theorem stream_keeps (id : Nat) (event : StreamEvent) :
    Keeps m.commands (m.stream id event).commands := by
  have hHandled : Keeps m.commands
      (m.update id fun c => { c with exec := c.exec.handle event }).commands :=
    keeps_modify id fun _ _ h => ExecState.promise_handle_of_some h event
  unfold stream
  split
  · dsimp only
    split
    · split
      · exact hHandled.trans (releaseSlot_keeps _)
      · exact hHandled
    · exact Keeps.refl _
  · exact Keeps.refl _

/-- A promise is settled at most once, whatever happens next. -/
theorem step_keeps (event : Event) : Keeps m.commands (m.step event).commands := by
  cases event with
  | start threw => exact connect_keeps { m with destroyed := false } threw
  | connect threw => exact connect_keeps m threw
  | ready =>
    exact keeps_foldl runExec_keeps m.queue
      { m with retryCount := 0, status := .connected, queue := [] }
  | closed => exact scheduleReconnect_keeps m
  | destroy => exact destroy_keeps m
  | reloaded threw => exact connect_keeps { m with destroyed := false, retryCount := 0 } threw
  | exec cmd timeoutMs => exact exec_keeps m cmd timeoutMs
  | slot id =>
    show Keeps m.commands (m.slot id).commands
    unfold slot
    split
    · exact setPhase_keeps { m with activeChannels := m.activeChannels + 1 } id .granted
    · exact Keeps.refl _
  | resume id threw =>
    show Keeps m.commands (m.resume id threw).commands
    unfold resume
    split
    · exact setPhase_keeps m id _
    · exact Keeps.refl _
  | openFailed id message =>
    show Keeps m.commands (m.openFailed id message).commands
    have hRejected : Keeps m.commands (m.update id fun c =>
        { phase := .refused, exec := c.exec.release.reject message }).commands :=
      keeps_modify id fun _ _ h => ExecState.promise_settle_of_some h _
    unfold openFailed
    split
    · exact hRejected.trans (releaseSlot_keeps _)
    · exact Keeps.refl _
  | opened id =>
    show Keeps m.commands (m.opened id).commands
    unfold opened
    split
    · exact setPhase_keeps m id .running
    · exact Keeps.refl _
  | stream id event => exact stream_keeps m id event

/-- What keeps a command that is not settled from being forgotten. -/
def Ahead (m : Manager) (id : Nat) (phase : Phase) (exec : ExecState) : Prop :=
  match phase with
  -- the connection, once it is ready or given up, takes it out of the queue
  | .queued => id ∈ m.queue
  -- all slots are taken or promised, and each that is released wakes a waiter
  | .waiting => id ∈ m.waiters ∧ m.activeChannels + woken m.commands = maxChannels
  -- a continuation or the callback of the client is due
  | .woken | .granted | .opening => True
  | .running => exec.timer = true
  | .refused | .lost => False

/-- The channels that are taken are those of the commands that were granted one and have not
finished, and no command is forgotten. -/
structure Accounted (m : Manager) : Prop where
  held : m.activeChannels = held m.commands
  bounded : m.activeChannels ≤ maxChannels
  idle : (∀ c ∈ m.commands, c.settled = true) → m.activeChannels = 0
  ahead : ∀ id c, m.commands[id]? = some c → c.settled = false → m.Ahead id c.phase c.exec

variable {m}

theorem Inv.accounted (h : m.Inv m.queue) : m.Accounted := by
  have hBalance := h.balance
  have hRoom := h.room
  refine ⟨by simpa using hBalance, by omega, fun hSettled => ?_, fun id c hc hUnsettled => ?_⟩
  · have hNone : Ssh.held m.commands = 0 := List.countP_eq_zero.mpr fun c hc => by
      simp [Command.holding, hSettled c hc]
    rw [hBalance, hNone]
    rfl
  · have hPhaseOf : phaseOf m.commands id = some c.phase := by simp [phaseOf, hc]
    have hSound := h.sound_at hc
    cases hPhase : c.phase with
    | queued => exact (h.queued.mem_iff id).mpr (hPhase ▸ hPhaseOf)
    | waiting =>
      have hWaits := (h.waiting.mem_iff id).mpr (hPhase ▸ hPhaseOf)
      exact ⟨hWaits, h.full (List.ne_nil_of_mem hWaits)⟩
    | woken => trivial
    | granted => trivial
    | opening => trivial
    | running =>
      simp only [Command.sound, hPhase, hUnsettled, Bool.and_eq_true, Bool.false_or] at hSound
      exact hSound.2
    | refused => simp [Command.sound, hPhase, hUnsettled] at hSound
    | lost => simp [Command.sound, hPhase] at hSound

def OrderlyRun (m : Manager) (events : List Event) : Prop :=
  match events with
  | [] => True
  | event :: events => m.Orderly event ∧ (m.step event).OrderlyRun events

instance (m : Manager) (count : Nat) : Decidable (m.Free count) :=
  inferInstanceAs (Decidable (_ ∨ _ ∨ _))

instance (m : Manager) : (event : Event) → Decidable (m.Undisturbed event)
  | .destroy => inferInstanceAs (Decidable (m.waiters = []))
  | .resume id threw => inferInstanceAs
      (Decidable (phaseOf m.commands id = some .granted → m.client = true ∧ threw = false))
  | .start _ | .connect _ | .ready | .closed | .reloaded _ | .exec _ _ | .slot _
  | .openFailed _ _ | .opened _ | .stream _ _ => isTrue trivial

instance (m : Manager) (event : Event) : Decidable (m.Orderly event) :=
  inferInstanceAs (Decidable (_ ∧ _))

instance decidableOrderlyRun : (events : List Event) → (m : Manager) →
    Decidable (m.OrderlyRun events)
  | [], _ => isTrue trivial
  | event :: events, m =>
    have := decidableOrderlyRun events (m.step event)
    inferInstanceAs (Decidable (m.Orderly event ∧ (m.step event).OrderlyRun events))

theorem new_inv : ({} : Manager).Inv [] :=
  ⟨rfl, by decide, fun hSome => absurd rfl hSome, ⟨List.nodup_nil, fun id => by simp [phaseOf]⟩,
    ⟨List.nodup_nil, fun id => by simp [phaseOf]⟩, fun c hc => absurd hc List.not_mem_nil⟩

theorem foldl_inv {events : List Event} (h : m.Inv m.queue) (hRun : m.OrderlyRun events) :
    (events.foldl step m).Inv (events.foldl step m).queue := by
  induction events generalizing m with
  | nil => exact h
  | cons event events ih => exact ih (step_inv h hRun.1) hRun.2

theorem OrderlyRun.before {before after : List Event} (h : m.OrderlyRun (before ++ after)) :
    m.OrderlyRun before := by
  induction before generalizing m with
  | nil => trivial
  | cons event before ih => exact ⟨h.1, ih h.2⟩

/-- In a run of orderly steps the channels are accounted for in every state, and a promise that
is settled in one stays as it is. -/
theorem accounted_of_orderlyRun {before after : List Event}
    (h : ({} : Manager).OrderlyRun (before ++ after)) :
    (run before).Accounted ∧ Keeps (run before).commands (run (before ++ after)).commands := by
  refine ⟨(foldl_inv new_inv h.before).accounted, ?_⟩
  unfold run
  rw [List.foldl_append]
  exact keeps_foldl step_keeps after _

/-- Ten commands that run, and one more. -/
def elevenCommands : List Event :=
  [.start false, .ready] ++
    (List.range 10).flatMap (fun id => [.exec "true" 5000, .resume id false, .opened id]) ++
    [.exec "uptime" 5000]

/-- The last command waits for the first to finish and then runs itself. -/
def handedOver : List Event :=
  [.stream 0 (.close (some 0)), .slot 10, .resume 10 false, .opened 10, .stream 10 .timeout]

theorem accounted_handedOver : ({} : Manager).OrderlyRun (elevenCommands ++ handedOver) ∧
    (run elevenCommands).Accounted ∧
    Keeps (run elevenCommands).commands (run (elevenCommands ++ handedOver)).commands :=
  have hRun : ({} : Manager).OrderlyRun (elevenCommands ++ handedOver) := by decide +kernel
  ⟨hRun, accounted_of_orderlyRun hRun⟩

/-- The connection is given up while a command waits: it takes an eleventh slot and is lost, with
its promise and its slot. -/
theorem not_accounted_of_destroy :
    (run (elevenCommands ++ [.destroy, .slot 10])).activeChannels = 11 ∧
      phaseOf (run (elevenCommands ++ [.destroy, .slot 10, .resume 10 false])).commands 10 =
        some .lost ∧
      promiseOf (run (elevenCommands ++ [.destroy, .slot 10, .resume 10 false])).commands 10 =
        none ∧
      ¬ (run (elevenCommands ++ [.destroy, .slot 10])).Accounted ∧
      ¬ (run (elevenCommands ++ [.destroy, .slot 10, .resume 10 false])).Accounted := by
  have hOver : (run (elevenCommands ++ [.destroy, .slot 10])).activeChannels = 11 := by
    decide +kernel
  have hOver' :
      (run (elevenCommands ++ [.destroy, .slot 10, .resume 10 false])).activeChannels = 11 := by
    decide +kernel
  refine ⟨hOver, by decide +kernel, by decide +kernel, fun h => ?_, fun h => ?_⟩
  · have hBounded := h.bounded
    rw [hOver] at hBounded
    exact absurd hBounded (by decide)
  · have hBounded := h.bounded
    rw [hOver'] at hBounded
    exact absurd hBounded (by decide)

end Manager

end EsosWebui.Ssh
