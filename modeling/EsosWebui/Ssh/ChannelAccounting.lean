import EsosWebui.Ssh.SessionManager

/-! How many channels the commands of a connection hold, and that each command is settled. -/
namespace EsosWebui.Ssh

open Js

def Command.granted (c : Command) : Bool :=
  match c.phase with
  | .granted | .opening | .running | .lost => true
  | _ => false

/-- A waiter that was woken up and has not taken its slot. -/
def Command.waking (c : Command) : Bool :=
  match c.phase with
  | .woken => true
  | _ => false

def Command.settled (c : Command) : Bool := c.exec.promise.isSome

def Command.holding (c : Command) : Bool := c.granted && !c.settled

/-- A command on which nothing has happened yet. -/
def Command.fresh (c : Command) : Bool := !c.settled && !c.exec.released && c.exec.timer

def Command.sound (c : Command) : Bool :=
  match c.phase with
  | .refused => c.settled
  | .running => c.settled == c.exec.released && (c.settled || c.exec.timer)
  | .lost => false
  | _ => c.fresh

theorem ExecState.promise_settle (s : ExecState) (outcome : Settled) :
    (s.settle outcome).promise.isSome := by
  cases h : s.promise <;> simp [settle, h]

@[simp] theorem ExecState.released_settle (s : ExecState) (outcome : Settled) :
    (s.settle outcome).released = s.released := rfl

theorem Command.sound_handle {c : Command} (hPhase : c.phase = .running) (hSound : c.sound)
    (event : StreamEvent) :
    ({ c with exec := c.exec.handle event } : Command).sound = true ∧
      (c.settled = true → (c.exec.handle event).promise.isSome = true) ∧
      (c.settled = false → ((c.exec.handle event).promise.isSome = true ↔
        (!c.exec.released && (c.exec.handle event).released) = true)) := by
  obtain ⟨phase, exec⟩ := c
  obtain rfl : phase = .running := hPhase
  simp only [Command.sound, Command.settled, Bool.and_eq_true, beq_iff_eq, Bool.or_eq_true]
    at hSound ⊢
  obtain ⟨hSame, hTimer⟩ := hSound
  cases event with
  | data text => simp_all [ExecState.handle]
  | errData text => simp_all [ExecState.handle]
  | exit status => simp_all [ExecState.handle]
  | close code =>
    have hSettled := ExecState.promise_settle { exec with timer := false }.release
      (.resolved ⟨exec.stdout, exec.stderr, code.getD 0⟩)
    simp_all [ExecState.handle, ExecState.resolve, ExecState.release]
  | error message =>
    have hSettled := ExecState.promise_settle { exec with timer := false }.release
      (.rejected ⟨message, exec.cmd, exec.stdout, exec.stderr⟩)
    simp_all [ExecState.handle, ExecState.reject, ExecState.release]
  | timeout =>
    have hSettled := ExecState.promise_settle
      { exec with timer := false, destroyed := true }.release
      (.rejected ⟨timeoutMessage exec.timeoutMs exec.cmd, exec.cmd, exec.stdout, exec.stderr⟩)
    cases hSet : exec.timer with
    | true => simp_all [ExecState.handle, ExecState.reject, ExecState.release]
    | false => simp_all [ExecState.handle]

section

def held (commands : List Command) : Nat := commands.countP (·.holding)

/-- How many waiters were woken up and will take a slot. -/
def woken (commands : List Command) : Nat := commands.countP (·.waking)

def phaseOf (commands : List Command) (id : Nat) : Option Phase := (commands[id]?).map (·.phase)

structure Lists (commands : List Command) (ids : List Nat) (phase : Phase) : Prop where
  nodup : ids.Nodup
  mem_iff : ∀ id, id ∈ ids ↔ phaseOf commands id = some phase

variable {commands : List Command} {id : Nat} {c : Command} {f : Command → Command}

theorem exists_of_phaseOf {phase : Phase} (h : phaseOf commands id = some phase) :
    ∃ c, commands[id]? = some c ∧ c.phase = phase :=
  Option.map_eq_some_iff.mp h

section

variable (hc : commands[id]? = some c)

include hc

theorem phaseOf_modify (j : Nat) :
    phaseOf (commands.modify id f) j = if j = id then some (f c).phase else phaseOf commands j := by
  unfold phaseOf
  rw [List.getElem?_modify]
  by_cases hSame : j = id
  · subst hSame
    simp [hc]
  · simp [hSame, Ne.symm hSame]

theorem held_modify :
    held (commands.modify id f) + c.holding.toNat = held commands + (f c).holding.toNat :=
  countP_modify hc

theorem woken_modify :
    woken (commands.modify id f) + c.waking.toNat = woken commands + (f c).waking.toNat :=
  countP_modify hc

variable {ids : List Nat} {phase : Phase} (h : Lists commands ids phase)

include h

theorem Lists.modify (hBefore : c.phase ≠ phase) (hAfter : (f c).phase ≠ phase) :
    Lists (commands.modify id f) ids phase := by
  refine ⟨h.nodup, fun j => ?_⟩
  rw [phaseOf_modify hc, h.mem_iff]
  by_cases hSame : j = id
  · subst hSame
    simp [phaseOf, hc, hBefore, hAfter]
  · rw [if_neg hSame]

theorem Lists.leave (hAfter : (f c).phase ≠ phase) :
    Lists (commands.modify id f) (ids.erase id) phase := by
  refine ⟨h.nodup.erase id, fun j => ?_⟩
  rw [phaseOf_modify hc, h.nodup.mem_erase_iff, h.mem_iff]
  by_cases hSame : j = id
  · simp [hSame, hAfter]
  · simp [hSame]

theorem Lists.enter (hBefore : c.phase ≠ phase) (hAfter : (f c).phase = phase) :
    Lists (commands.modify id f) (ids ++ [id]) phase := by
  have hNew : id ∉ ids := by
    rw [h.mem_iff]
    simp [phaseOf, hc, hBefore]
  refine ⟨?_, fun j => ?_⟩
  · rw [List.nodup_append]
    refine ⟨h.nodup, List.nodup_singleton id, ?_⟩
    rintro a ha b hb rfl
    rw [List.mem_singleton.mp hb] at ha
    exact hNew ha
  · rw [phaseOf_modify hc, List.mem_append, h.mem_iff, List.mem_singleton]
    by_cases hSame : j = id
    · simp [hSame, hAfter]
    · simp [hSame]

end

theorem phaseOf_append (command : Command) :
    phaseOf (commands ++ [command]) id =
      if id = commands.length then some command.phase else phaseOf commands id := by
  unfold phaseOf
  by_cases hSame : id = commands.length
  · simp [hSame]
  · rw [if_neg hSame]
    rcases Nat.lt_or_gt_of_ne hSame with hLt | hGt
    · rw [List.getElem?_append_left hLt]
    · rw [List.getElem?_eq_none (by simp; omega), List.getElem?_eq_none (by omega)]

theorem phaseOf_length : phaseOf commands commands.length = none := by simp [phaseOf]

end

/-- What the channels and the lists of a manager say about its commands, while `k` slots are
still to be released and `queue` is what is left of the queue. -/
structure Accounts (k : Nat) (active : Int) (waiters queue : List Nat) (commands : List Command) :
    Prop where
  balance : active = held commands + k
  room : active + woken commands ≤ maxChannels
  full : waiters ≠ [] → active + woken commands = maxChannels
  waiting : Lists commands waiters .waiting
  queued : Lists commands queue .queued
  sound : ∀ c ∈ commands, c.sound = true

/-- Slots for some commands that do not wait, besides those that the woken waiters will take. -/
def Room (active : Int) (commands : List Command) (count : Nat) : Prop :=
  woken commands = 0 ∨ maxChannels ≤ active ∨ active + woken commands + count ≤ maxChannels

variable {k : Nat} {active : Int} {waiters queue : List Nat} {commands : List Command} {id : Nat}
  {c : Command} {f : Command → Command} (h : Accounts k active waiters queue commands)

include h

theorem Accounts.sound_at (hc : commands[id]? = some c) : c.sound :=
  h.sound c (List.mem_of_getElem? hc)

theorem Accounts.sound_modify (hc : commands[id]? = some c) (hSound : (f c).sound) :
    ∀ c ∈ commands.modify id f, c.sound = true :=
  forall_mem_modify_at h.sound fun _ ha => Option.some.inj (hc.symm.trans ha) ▸ hSound

/-- A command moves on to another phase, without joining or leaving a list. -/
theorem Accounts.modify (hc : commands[id]? = some c)
    (hBefore : c.phase ≠ .waiting ∧ c.phase ≠ .queued)
    (hAfter : (f c).phase ≠ .waiting ∧ (f c).phase ≠ .queued)
    (hSound : (f c).sound) {active' : Int} {j : Nat}
    (hHeld : active + j + (f c).holding.toNat = active' + k + c.holding.toNat)
    (hWoken : active + c.waking.toNat = active' + (f c).waking.toNat) :
    Accounts j active' waiters queue (commands.modify id f) := by
  have hHolding := held_modify hc (f := f)
  have hWaking := woken_modify hc (f := f)
  have hBalance := h.balance
  have hRoom := h.room
  refine ⟨by omega, by omega, fun hSome => ?_, h.waiting.modify hc hBefore.1 hAfter.1,
    h.queued.modify hc hBefore.2 hAfter.2, h.sound_modify hc hSound⟩
  have hFull := h.full hSome
  omega

theorem Accounts.wake {next : Nat} {rest : List Nat} (hWaiters : waiters = next :: rest)
    (hOne : k = 1) : Accounts 0 (active - 1) rest queue
      (commands.modify next fun c => { c with phase := .woken }) := by
  subst hWaiters hOne
  obtain ⟨c, hc, hPhase⟩ := exists_of_phaseOf ((h.waiting.mem_iff next).mp List.mem_cons_self)
  have hBalance := h.balance
  have hFull := h.full (List.cons_ne_nil _ _)
  have hHolding := held_modify hc (f := fun c => { c with phase := .woken })
  have hWaking := woken_modify hc (f := fun c => { c with phase := .woken })
  have hSound := h.sound_at hc
  have hListed := h.waiting.leave hc (f := fun c => { c with phase := .woken }) (by simp)
  rw [List.erase_cons_head] at hListed
  simp only [Command.holding, Command.granted, Command.waking, hPhase, Bool.false_and,
    Bool.toNat_false, Bool.toNat_true] at hHolding hWaking
  refine ⟨by omega, by omega, fun _ => by omega, hListed,
    h.queued.modify hc (by simp [hPhase]) (by simp), h.sound_modify hc ?_⟩
  simpa [Command.sound, hPhase, Command.fresh, Command.settled] using hSound

theorem Accounts.release (hWaiters : waiters = []) (hOne : k = 1) :
    Accounts 0 (active - 1) [] queue commands := by
  subst hWaiters hOne
  have hBalance := h.balance
  have hRoom := h.room
  exact ⟨by omega, by omega, fun hSome => absurd rfl hSome, h.waiting, h.queued, h.sound⟩

omit h in
theorem fresh_of_queued (hSound : c.sound) (hPhase : c.phase = .queued) :
    c.fresh := by
  simpa [Command.sound, hPhase] using hSound

omit h in
theorem counts_of_queued (hc : commands[id]? = some c) (hPhase : c.phase = .queued) (phase : Phase) :
    held (commands.modify id fun c => { c with phase }) =
        held commands + ({ c with phase } : Command).holding.toNat ∧
      woken (commands.modify id fun c => { c with phase }) =
        woken commands + ({ c with phase } : Command).waking.toNat := by
  have hHolding := held_modify hc (f := fun c => { c with phase })
  have hWaking := woken_modify hc (f := fun c => { c with phase })
  have hNot : c.holding = false ∧ c.waking = false := by
    simp [Command.holding, Command.granted, Command.waking, hPhase]
  rw [hNot.1, Bool.toNat_false] at hHolding
  rw [hNot.2, Bool.toNat_false] at hWaking
  exact ⟨hHolding, hWaking⟩

theorem Accounts.acquire (hZero : k = 0) (hQueued : phaseOf commands id = some .queued)
    {count : Nat} (hRoom : Room active commands (count + 1)) (hFree : active < maxChannels) :
    Accounts 0 (active + 1) waiters (queue.erase id)
        (commands.modify id fun c => { c with phase := .granted }) ∧
      Room (active + 1) (commands.modify id fun c => { c with phase := .granted }) count := by
  subst hZero
  obtain ⟨c, hc, hPhase⟩ := exists_of_phaseOf hQueued
  have hFresh := fresh_of_queued (h.sound_at hc) hPhase
  have hUnsettled : c.settled = false := by simpa using (by simpa [Command.fresh] using hFresh :
    (c.settled = false ∧ c.exec.released = false) ∧ c.exec.timer = true).1.1
  obtain ⟨hHeld, hWoken⟩ := counts_of_queued hc hPhase .granted
  have hHolding : ({ c with phase := .granted } : Command).holding = true := by
    simpa [Command.holding, Command.granted, Command.settled] using hUnsettled
  have hWaking : ({ c with phase := .granted } : Command).waking = false := rfl
  rw [hHolding, Bool.toNat_true] at hHeld
  rw [hWaking, Bool.toNat_false] at hWoken
  have hBalance := h.balance
  have hSpace := h.room
  unfold Room at hRoom ⊢
  refine ⟨⟨by omega, by omega, fun hSome => ?_, h.waiting.modify hc (by simp [hPhase]) (by simp),
    h.queued.leave hc (by simp), h.sound_modify hc hFresh⟩, by omega⟩
  have hFull := h.full hSome
  omega

theorem Accounts.wait (hZero : k = 0) (hQueued : phaseOf commands id = some .queued)
    (hTaken : maxChannels ≤ active) (count : Nat) :
    Accounts 0 active (waiters ++ [id]) (queue.erase id)
        (commands.modify id fun c => { c with phase := .waiting }) ∧
      Room active (commands.modify id fun c => { c with phase := .waiting }) count := by
  subst hZero
  obtain ⟨c, hc, hPhase⟩ := exists_of_phaseOf hQueued
  have hFresh := fresh_of_queued (h.sound_at hc) hPhase
  obtain ⟨hHeld, hWoken⟩ := counts_of_queued hc hPhase .waiting
  have hHolding : ({ c with phase := .waiting } : Command).holding = false := rfl
  have hWaking : ({ c with phase := .waiting } : Command).waking = false := rfl
  rw [hHolding, Bool.toNat_false] at hHeld
  rw [hWaking, Bool.toNat_false] at hWoken
  have hBalance := h.balance
  have hSpace := h.room
  refine ⟨⟨by omega, by omega, fun _ => by omega, h.waiting.enter hc (by simp [hPhase]) rfl,
    h.queued.leave hc (by simp), h.sound_modify hc hFresh⟩, Or.inr (Or.inl hTaken)⟩

theorem Accounts.reject (hQueued : phaseOf commands id = some .queued) (message : String) :
    Accounts k active waiters (queue.erase id)
        (commands.modify id fun c => { phase := .refused, exec := c.exec.reject message }) ∧
      woken (commands.modify id fun c => { phase := .refused, exec := c.exec.reject message }) =
        woken commands := by
  obtain ⟨c, hc, hPhase⟩ := exists_of_phaseOf hQueued
  have hHeld := held_modify hc (f := fun c => { phase := .refused, exec := c.exec.reject message })
  have hWoken := woken_modify hc
    (f := fun c => { phase := .refused, exec := c.exec.reject message })
  have hNot : c.holding = false ∧ c.waking = false := by
    simp [Command.holding, Command.granted, Command.waking, hPhase]
  have hHolding : ({ phase := .refused, exec := c.exec.reject message } : Command).holding = false :=
    rfl
  have hWaking : ({ phase := .refused, exec := c.exec.reject message } : Command).waking = false :=
    rfl
  rw [hNot.1, hHolding, Bool.toNat_false] at hHeld
  rw [hNot.2, hWaking, Bool.toNat_false] at hWoken
  have hBalance := h.balance
  have hSpace := h.room
  have hFull := h.full
  refine ⟨⟨by omega, by omega, fun hSome => ?_,
    h.waiting.modify hc (by simp [hPhase]) (by simp), h.queued.leave hc (by simp),
    h.sound_modify hc (ExecState.promise_settle c.exec _)⟩, by omega⟩
  have hFull := hFull hSome
  omega

theorem Accounts.call (command : Command) (hPhase : command.phase = .queued)
    (hFresh : command.fresh) :
    Accounts k active waiters (queue ++ [commands.length]) (commands ++ [command]) ∧
      woken (commands ++ [command]) = woken commands := by
  have hHeld : held (commands ++ [command]) = held commands := by
    simp [held, Command.holding, Command.granted, hPhase]
  have hWoken : woken (commands ++ [command]) = woken commands := by
    simp [woken, Command.waking, hPhase]
  have hNew : ∀ {ids : List Nat} {phase : Phase}, Lists commands ids phase →
      commands.length ∉ ids := fun hList hMem => by
    have hNone := (hList.mem_iff _).mp hMem
    rw [phaseOf_length] at hNone
    cases hNone
  refine ⟨⟨hHeld ▸ h.balance, hWoken ▸ h.room, hWoken ▸ h.full, ⟨h.waiting.nodup, fun j => ?_⟩,
    ⟨?_, fun j => ?_⟩, ?_⟩, hWoken⟩
  · rw [phaseOf_append, h.waiting.mem_iff]
    by_cases hSame : j = commands.length
    · simp [hSame, hPhase, phaseOf_length]
    · rw [if_neg hSame]
  · rw [List.nodup_append]
    refine ⟨h.queued.nodup, List.nodup_singleton _, ?_⟩
    rintro a ha b hb rfl
    rw [List.mem_singleton.mp hb] at ha
    exact hNew h.queued ha
  · rw [phaseOf_append, List.mem_append, h.queued.mem_iff, List.mem_singleton]
    by_cases hSame : j = commands.length
    · simp [hSame, hPhase]
    · simp [hSame]
  · intro c hc
    rcases List.mem_append.mp hc with hc | hc
    · exact h.sound c hc
    · obtain rfl := List.mem_singleton.mp hc
      simpa [Command.sound, hPhase] using hFresh

end EsosWebui.Ssh
