import EsosWebui.Ssh.ChannelAccounting

/-! What each step of a connection keeps of its accounting. -/
namespace EsosWebui.Ssh

open Js

namespace Manager

def Inv (m : Manager) (queue : List Nat) : Prop :=
  Accounts 0 m.activeChannels m.waiters queue m.commands

def Free (m : Manager) (count : Nat) : Prop := Room m.activeChannels m.commands count

@[simp] theorem queue_runExec (m : Manager) (id : Nat) : (m.runExec id).queue = m.queue := by
  unfold runExec acquireSlot
  split
  · rfl
  · split <;> rfl

@[simp] theorem client_runExec (m : Manager) (id : Nat) : (m.runExec id).client = m.client := by
  unfold runExec acquireSlot
  split
  · rfl
  · split <;> rfl

/-- A command that leaves the queue is rejected, takes a slot or waits for one. -/
theorem Inv.runExec {m : Manager} {queue : List Nat} {id count : Nat} (h : m.Inv queue)
    (hQueued : phaseOf m.commands id = some .queued) (hFree : m.client = true → m.Free (count + 1)) :
    (m.runExec id).Inv (queue.erase id) ∧ (m.client = true → (m.runExec id).Free count) := by
  unfold Manager.runExec
  cases hClient : m.client with
  | false => exact ⟨(Accounts.reject h hQueued "SSH: no client").1, by simp⟩
  | true =>
    rw [if_neg (by simp)]
    have hFree := hFree hClient
    unfold acquireSlot
    split
    · rename_i hSlot
      obtain ⟨hAccounts, hRoom⟩ := Accounts.acquire h rfl hQueued hFree hSlot
      exact ⟨hAccounts, fun _ => hRoom⟩
    · rename_i hTaken
      obtain ⟨hAccounts, hRoom⟩ := Accounts.wait h rfl hQueued (not_lt.mp hTaken) count
      exact ⟨hAccounts, fun _ => hRoom⟩

theorem queued_of_cons {m : Manager} {id : Nat} {queue : List Nat} (h : m.Inv (id :: queue)) :
    phaseOf m.commands id = some .queued :=
  (h.queued.mem_iff id).mp List.mem_cons_self

theorem Inv.flush {queue : List Nat} {m : Manager} (h : m.Inv queue)
    (hFree : m.client = true → m.Free queue.length) : (queue.foldl Manager.runExec m).Inv [] := by
  induction queue generalizing m with
  | nil => exact h
  | cons id queue ih =>
    obtain ⟨hRun, hRest⟩ := h.runExec (queued_of_cons h) hFree
    rw [List.erase_cons_head] at hRun
    exact ih hRun (by simpa using hRest)

theorem queue_flush (queue : List Nat) (m : Manager) :
    (queue.foldl Manager.runExec m).queue = m.queue := by
  induction queue generalizing m with
  | nil => rfl
  | cons id queue ih => exact (ih _).trans (queue_runExec m id)

theorem Inv.drain {message : String} {queue : List Nat} {m : Manager} (h : m.Inv queue) :
    (queue.foldl (rejectCommand message) m).Inv [] := by
  induction queue generalizing m with
  | nil => exact h
  | cons id queue ih =>
    have hRejected := (Accounts.reject h (queued_of_cons h) message).1
    rw [List.erase_cons_head] at hRejected
    exact ih hRejected

theorem drain_others (message : String) (queue : List Nat) (m : Manager) :
    (queue.foldl (rejectCommand message) m).queue = m.queue ∧
      (queue.foldl (rejectCommand message) m).waiters = m.waiters ∧
      (queue.foldl (rejectCommand message) m).activeChannels = m.activeChannels := by
  induction queue generalizing m with
  | nil => exact ⟨rfl, rfl, rfl⟩
  | cons id queue ih => exact ih (m.rejectCommand message id)

/-- How many commands ask for a slot. -/
def asks (m : Manager) (event : Event) : Nat :=
  match event with
  | .ready => if m.client then m.queue.length else 0
  | .exec _ _ =>
    if !m.destroyed && m.status == .connected && m.client then 1 else 0
  | _ => 0

/-- The connection is not given up while commands wait, and a command that was granted a slot
finds a client that does not throw. -/
def Undisturbed (m : Manager) (event : Event) : Prop :=
  match event with
  | .destroy => m.waiters = []
  | .resume id threw =>
    phaseOf m.commands id = some .granted → m.client = true ∧ threw = false
  | _ => True

/-- What keeps the accounting right; also, no command takes a slot that a woken waiter is about
to take. -/
def Orderly (m : Manager) (event : Event) : Prop :=
  m.Free (m.asks event) ∧ m.Undisturbed event

variable {m : Manager}

theorem drainQueue_inv (h : m.Inv m.queue) (message : String) :
    (m.drainQueue message).Inv (m.drainQueue message).queue := by
  have hQueue : (m.drainQueue message).queue = [] :=
    (drain_others message m.queue { m with queue := [] }).1
  rw [hQueue]
  exact Inv.drain h

theorem flushQueue_inv (h : m.Inv m.queue) (hFree : m.client = true → m.Free m.queue.length) :
    m.flushQueue.Inv m.flushQueue.queue := by
  have hQueue : m.flushQueue.queue = [] := queue_flush m.queue { m with queue := [] }
  rw [hQueue]
  exact @Inv.flush m.queue { m with queue := [] } h hFree

theorem scheduleReconnect_inv (h : m.Inv m.queue) :
    m.scheduleReconnect.Inv m.scheduleReconnect.queue := by
  unfold scheduleReconnect
  split
  · exact h
  · split
    · exact @drainQueue_inv { m with client := false, status := .error } h _
    · exact h

theorem connect_inv (h : m.Inv m.queue) (threw : Bool) :
    (m.connect threw).Inv (m.connect threw).queue := by
  unfold connect
  dsimp only
  split
  · exact h
  · split
    · exact @scheduleReconnect_inv { m with
        status := if m.retryCount > 0 then .reconnecting else .connecting
        client := true } h
    · exact h

theorem ready_inv (h : m.Inv m.queue) (hFree : m.Free (m.asks .ready)) :
    m.ready.Inv m.ready.queue := by
  apply @flushQueue_inv { m with retryCount := 0, status := .connected } h
  intro hClient
  have hClient : m.client = true := hClient
  rwa [asks, if_pos hClient] at hFree

theorem destroy_inv (h : m.Inv m.queue) (hWaiters : m.waiters = []) :
    m.destroy.Inv m.destroy.queue := by
  let drained := { m with destroyed := true, client := false, status := .error }.drainQueue
    "SSHSessionManager destroyed"
  have hDrained : drained.Inv drained.queue :=
    @drainQueue_inv { m with destroyed := true, client := false, status := .error } h _
  have hNone : drained.waiters = [] :=
    (drain_others "SSHSessionManager destroyed" m.queue
      { m with destroyed := true, client := false, status := .error, queue := [] }).2.1.trans
      hWaiters
  have hDestroy : m.destroy = { drained with waiters := [] } := by
    show m.waiters.foldl _ { drained with waiters := [] } = _
    rw [hWaiters, List.foldl_nil]
  rw [hDestroy]
  show Accounts 0 _ [] _ _
  rw [← hNone]
  exact hDrained

theorem releaseSlot_inv {queue : List Nat}
    (h : Accounts 1 m.activeChannels m.waiters queue m.commands) : m.releaseSlot.Inv queue := by
  unfold releaseSlot
  dsimp only
  split
  · rename_i hWaiters
    exact hWaiters ▸ h.release hWaiters rfl
  · rename_i next waiters hWaiters
    exact h.wake hWaiters rfl

theorem exec_inv (h : m.Inv m.queue) (cmd : String) (timeoutMs : Nat)
    (hFree : m.Free (m.asks (.exec cmd timeoutMs))) :
    (m.exec cmd timeoutMs).Inv (m.exec cmd timeoutMs).queue := by
  let command : Command := ⟨.queued, { cmd, timeoutMs }⟩
  let called := { m with commands := m.commands ++ [command] }
  obtain ⟨hCalled, hWoken⟩ := Accounts.call h command rfl rfl
  have hQueued : phaseOf called.commands m.commands.length = some .queued := by
    rw [phaseOf_append, if_pos rfl]
  have hNew : m.commands.length ∉ m.queue := fun hMem => by
    have hPhase := (h.queued.mem_iff _).mp hMem
    rw [phaseOf_length] at hPhase
    cases hPhase
  have hErase : (m.queue ++ [m.commands.length]).erase m.commands.length = m.queue := by
    rw [List.erase_append_right _ hNew, List.erase_cons_head, List.append_nil]
  unfold exec
  dsimp only
  split
  · have hRejected := (Accounts.reject hCalled hQueued "SSH: connection in error state").1
    rw [hErase] at hRejected
    exact hRejected
  · rename_i hUp
    split
    · rename_i hConnected
      have hAsks : m.asks (.exec cmd timeoutMs) = 1 := by
        simp only [Bool.or_eq_true, not_or, Bool.not_eq_true] at hUp
        simp only [Bool.and_eq_true] at hConnected
        simp [asks, hUp.1, hConnected.1, hConnected.2]
      rw [hAsks] at hFree
      have hRoom : called.Free 1 := by
        unfold Free Room at hFree ⊢
        show woken (m.commands ++ [command]) = 0 ∨ _ ∨ _ + (woken (m.commands ++ [command]) : Int)
          + _ ≤ _
        rwa [hWoken]
      have hRun := (@Inv.runExec called _ _ 0 hCalled hQueued fun _ => hRoom).1
      rw [hErase] at hRun
      rw [queue_runExec]
      exact hRun
    · exact hCalled

theorem slot_inv (h : m.Inv m.queue) (id : Nat) : (m.slot id).Inv (m.slot id).queue := by
  unfold slot
  split
  · rename_i hWoken
    obtain ⟨c, hc, hPhase⟩ := exists_of_phaseOf hWoken
    have hFresh : c.fresh = true := by simpa [Command.sound, hPhase] using h.sound_at hc
    have hUnsettled : c.settled = false := by
      simp only [Command.fresh, Bool.and_eq_true, Bool.not_eq_true'] at hFresh
      exact hFresh.1.1
    have hSettled : ({ c with phase := .granted } : Command).settled = false := hUnsettled
    have hSound : ({ c with phase := .granted } : Command).sound = true := hFresh
    show Accounts 0 (m.activeChannels + 1) m.waiters m.queue
      (m.commands.modify id fun c => { c with phase := .granted })
    apply Accounts.modify h hc (by simp [hPhase]) (by simp) hSound
    · simp [Command.holding, Command.granted, hPhase, hSettled]
    · simp [Command.waking, hPhase]
  · exact h

theorem resume_inv (h : m.Inv m.queue) (id : Nat) (threw : Bool)
    (hClient : phaseOf m.commands id = some .granted → m.client = true ∧ threw = false) :
    (m.resume id threw).Inv (m.resume id threw).queue := by
  unfold resume
  split
  · rename_i hGranted
    obtain ⟨hSome, hNot⟩ := hClient hGranted
    obtain ⟨c, hc, hPhase⟩ := exists_of_phaseOf hGranted
    have hFresh : c.fresh = true := by simpa [Command.sound, hPhase] using h.sound_at hc
    have hSound : ({ c with phase := .opening } : Command).sound = true := hFresh
    rw [if_neg (by simp [hSome, hNot])]
    show Accounts 0 m.activeChannels m.waiters m.queue
      (m.commands.modify id fun c => { c with phase := .opening })
    apply Accounts.modify h hc (by simp [hPhase]) (by simp) hSound
    · simp [Command.holding, Command.granted, Command.settled, hPhase]
    · simp [Command.waking, hPhase]
  · exact h

@[simp] theorem queue_releaseSlot (m : Manager) : m.releaseSlot.queue = m.queue := by
  unfold releaseSlot
  cases hWaiters : m.waiters <;> rfl

theorem openFailed_inv (h : m.Inv m.queue) (id : Nat) (message : String) :
    (m.openFailed id message).Inv (m.openFailed id message).queue := by
  unfold openFailed
  split
  · rename_i hOpening
    obtain ⟨c, hc, hPhase⟩ := exists_of_phaseOf hOpening
    have hFresh : c.fresh = true := by simpa [Command.sound, hPhase] using h.sound_at hc
    have hUnsettled : c.settled = false := by
      simp only [Command.fresh, Bool.and_eq_true, Bool.not_eq_true'] at hFresh
      exact hFresh.1.1
    have hSound :
        ({ phase := .refused, exec := c.exec.release.reject message } : Command).sound = true :=
      ExecState.promise_settle c.exec.release _
    rw [queue_releaseSlot]
    apply releaseSlot_inv
    show Accounts 1 m.activeChannels m.waiters m.queue (m.commands.modify id fun c =>
      { phase := .refused, exec := c.exec.release.reject message })
    apply Accounts.modify h hc (by simp [hPhase]) (by simp) hSound
    · simp [Command.holding, Command.granted, hPhase, hUnsettled]
    · simp [Command.waking, hPhase]
  · exact h

theorem opened_inv (h : m.Inv m.queue) (id : Nat) : (m.opened id).Inv (m.opened id).queue := by
  unfold opened
  split
  · rename_i hOpening
    obtain ⟨c, hc, hPhase⟩ := exists_of_phaseOf hOpening
    have hFresh : c.fresh = true := by simpa [Command.sound, hPhase] using h.sound_at hc
    have hSound : ({ c with phase := .running } : Command).sound = true := by
      simp only [Command.fresh, Bool.and_eq_true, Bool.not_eq_true'] at hFresh
      obtain ⟨⟨hUnsettled, hReleased⟩, hTimer⟩ := hFresh
      have hSettled : ({ c with phase := .running } : Command).settled = false := hUnsettled
      simp [Command.sound, hSettled, hReleased, hTimer]
    show Accounts 0 m.activeChannels m.waiters m.queue
      (m.commands.modify id fun c => { c with phase := .running })
    apply Accounts.modify h hc (by simp [hPhase]) (by simp) hSound
    · simp [Command.holding, Command.granted, Command.settled, hPhase]
    · simp [Command.waking, hPhase]
  · exact h

/-- A handler that settles a command gives its slot back, and no other handler does. -/
theorem stream_inv (h : m.Inv m.queue) (id : Nat) (event : StreamEvent) :
    (m.stream id event).Inv (m.stream id event).queue := by
  unfold stream
  split
  · rename_i c hc
    split
    · rename_i hPhase
      obtain ⟨hSound, hStays, hSettles⟩ := Command.sound_handle hPhase (h.sound_at hc) event
      have hAfter : ({ c with exec := c.exec.handle event } : Command).phase ≠ .waiting ∧
          ({ c with exec := c.exec.handle event } : Command).phase ≠ .queued := by
        simp [hPhase]
      have hWoken : m.activeChannels + c.waking.toNat =
          m.activeChannels + ({ c with exec := c.exec.handle event } : Command).waking.toNat := rfl
      have hBefore : c.holding = !c.settled := by
        simp [Command.holding, Command.granted, hPhase]
      have hHolds : ({ c with exec := c.exec.handle event } : Command).holding =
          !(c.exec.handle event).promise.isSome := by
        simp [Command.holding, Command.granted, Command.settled, hPhase]
      dsimp only
      split
      · rename_i hReleases
        have hUnsettled : c.settled = false := by
          have hSame := h.sound_at hc
          simp only [Command.sound, hPhase, Bool.and_eq_true, beq_iff_eq] at hSame
          rw [hSame.1]
          simpa using (Bool.and_eq_true_iff.mp hReleases).1
        rw [queue_releaseSlot]
        apply releaseSlot_inv
        show Accounts 1 m.activeChannels m.waiters m.queue
          (m.commands.modify id fun c => { c with exec := c.exec.handle event })
        apply Accounts.modify h hc (by simp [hPhase]) hAfter hSound _ hWoken
        rw [hBefore, hHolds, hUnsettled, (hSettles hUnsettled).mpr hReleases]
        simp
      · rename_i hKeeps
        show Accounts 0 m.activeChannels m.waiters m.queue
          (m.commands.modify id fun c => { c with exec := c.exec.handle event })
        apply Accounts.modify h hc (by simp [hPhase]) hAfter hSound _ hWoken
        rw [hBefore, hHolds]
        cases hSettled : c.settled with
        | true => rw [hStays hSettled]
        | false =>
          have hPending : (c.exec.handle event).promise.isSome = false :=
            Bool.eq_false_iff.mpr fun hSome => hKeeps ((hSettles hSettled).mp hSome)
          rw [hPending]
    · exact h
  · exact h

theorem step_inv (h : m.Inv m.queue) {event : Event} (hOrderly : m.Orderly event) :
    (m.step event).Inv (m.step event).queue := by
  obtain ⟨hFree, hEvent⟩ := hOrderly
  cases event with
  | start threw => exact @connect_inv { m with destroyed := false } h threw
  | connect threw => exact connect_inv h threw
  | ready => exact ready_inv h hFree
  | closed => exact scheduleReconnect_inv h
  | destroy => exact destroy_inv h hEvent
  | reloaded threw => exact @connect_inv { m with destroyed := false, retryCount := 0 } h threw
  | exec cmd timeoutMs => exact exec_inv h cmd timeoutMs hFree
  | slot id => exact slot_inv h id
  | resume id threw => exact resume_inv h id threw hEvent
  | openFailed id message => exact openFailed_inv h id message
  | opened id => exact opened_inv h id
  | stream id event => exact stream_inv h id event

end Manager

end EsosWebui.Ssh
