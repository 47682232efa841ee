import EsosWebui.Js.Arrays
import EsosWebui.Ssh.RunExec

/-! The connection that commands share, with the channels it gives to them. A step is what
runs in one turn of the event loop: a call, a callback, a timer, or the continuation of a
function that has awaited something. Uploads are left out. -/
namespace EsosWebui.Ssh

inductive SSHStatus where
  | connecting
  | connected
  | reconnecting
  | error
  deriving DecidableEq

/-- How far the call of a command is. -/
inductive Phase where
  /-- Settled without a stream. -/
  | refused
  /-- In the queue, until there is a connection. -/
  | queued
  /-- Waiting for a slot. -/
  | waiting
  /-- Woken up; the continuation of `acquireSlot` is due. -/
  | woken
  /-- Granted a slot; the continuation of `runExec` is due. -/
  | granted
  /-- Its channel is being opened. -/
  | opening
  /-- It has a stream. -/
  | running
  /-- `runExec` itself threw, with the slot and the promise. -/
  | lost
  deriving DecidableEq

structure Command where
  phase : Phase
  exec : ExecState

/-- The state of a manager; `client` says whether it has one. -/
structure Manager where
  client : Bool := false
  status : SSHStatus := .connecting
  retryCount : Nat := 0
  queue : List Nat := []
  destroyed : Bool := false
  activeChannels : Int := 0
  waiters : List Nat := []
  commands : List Command := []

def maxRetries : Nat := 10

def maxChannels : Nat := 10

/-- What may happen next. Commands are known by their number. Calls of the client may throw. -/
inductive Event where
  | start (threw : Bool)
  /-- The timer of a reconnection. -/
  | connect (threw : Bool)
  | ready
  | closed
  | destroy
  /-- The rest of a reload, after `destroy` and once the configuration is there. -/
  | reloaded (threw : Bool)
  | exec (cmd : String) (timeoutMs : Nat)
  /-- The continuation of `acquireSlot`. -/
  | slot (id : Nat)
  /-- The continuation of `runExec`. -/
  | resume (id : Nat) (threw : Bool)
  | openFailed (id : Nat) (message : String)
  | opened (id : Nat)
  | stream (id : Nat) (event : StreamEvent)

namespace Manager

def update (m : Manager) (id : Nat) (f : Command → Command) : Manager :=
  { m with commands := m.commands.modify id f }

def setPhase (m : Manager) (id : Nat) (phase : Phase) : Manager :=
  m.update id fun c => { c with phase }

def phase? (m : Manager) (id : Nat) : Option Phase := (m.commands[id]?).map (·.phase)

def rejectCommand (message : String) (m : Manager) (id : Nat) : Manager :=
  m.update id fun c => { phase := .refused, exec := c.exec.reject message }

def acquireSlot (m : Manager) (id : Nat) : Manager :=
  if m.activeChannels < maxChannels then
    { m with activeChannels := m.activeChannels + 1 }.setPhase id .granted
  else { m with waiters := m.waiters ++ [id] }.setPhase id .waiting

def releaseSlot (m : Manager) : Manager :=
  let released := { m with activeChannels := m.activeChannels - 1 }
  match m.waiters with
  | [] => released
  | next :: waiters => { released with waiters }.setPhase next .woken

def runExec (m : Manager) (id : Nat) : Manager :=
  if !m.client then m.rejectCommand "SSH: no client" id
  else m.acquireSlot id

def exec (m : Manager) (cmd : String) (timeoutMs : Nat) : Manager :=
  let id := m.commands.length
  let command : Command := { phase := .queued, exec := { cmd, timeoutMs } }
  let called := { m with commands := m.commands ++ [command] }
  if m.destroyed || m.status == .error then
    called.rejectCommand "SSH: connection in error state" id
  else if m.status == .connected && m.client then called.runExec id
  else { called with queue := m.queue ++ [id] }

/-- The rest of `acquireSlot` for a waiter that was woken up. -/
def slot (m : Manager) (id : Nat) : Manager :=
  if m.phase? id = some .woken then
    { m with activeChannels := m.activeChannels + 1 }.setPhase id .granted
  else m

/-- The rest of `runExec` after `acquireSlot`: opening a channel throws without a client. -/
def resume (m : Manager) (id : Nat) (threw : Bool) : Manager :=
  if m.phase? id = some .granted then
    m.setPhase id (if !m.client || threw then .lost else .opening)
  else m

def openFailed (m : Manager) (id : Nat) (message : String) : Manager :=
  if m.phase? id = some .opening then
    (m.update id fun c => { phase := .refused, exec := c.exec.release.reject message }).releaseSlot
  else m

def opened (m : Manager) (id : Nat) : Manager :=
  if m.phase? id = some .opening then m.setPhase id .running else m

/-- A handler of a stream releases the slot if none did before. -/
def stream (m : Manager) (id : Nat) (event : StreamEvent) : Manager :=
  match m.commands[id]? with
  | some c =>
    if c.phase = .running then
      let handled := m.update id fun c => { c with exec := c.exec.handle event }
      if !c.exec.released && (c.exec.handle event).released then handled.releaseSlot
      else handled
    else m
  | none => m

def flushQueue (m : Manager) : Manager := m.queue.foldl runExec { m with queue := [] }

def drainQueue (m : Manager) (message : String) : Manager :=
  m.queue.foldl (rejectCommand message) { m with queue := [] }

def scheduleReconnect (m : Manager) : Manager :=
  if m.destroyed then m
  else if m.retryCount ≥ maxRetries then
    { m with client := false, status := .error }.drainQueue
      s!"SSH: max reconnect attempts reached ({maxRetries})"
  else { m with client := false, retryCount := m.retryCount + 1 }

def connect (m : Manager) (threw : Bool) : Manager :=
  if m.destroyed then m
  else
    let connecting := { m with
      status := if m.retryCount > 0 then .reconnecting else .connecting
      client := true }
    if threw then connecting.scheduleReconnect else connecting

def ready (m : Manager) : Manager :=
  { m with retryCount := 0, status := .connected }.flushQueue

def destroy (m : Manager) : Manager :=
  let drained := { m with destroyed := true, client := false, status := .error }.drainQueue
    "SSHSessionManager destroyed"
  m.waiters.foldl (fun m id => m.setPhase id .woken) { drained with waiters := [] }

def step (m : Manager) (event : Event) : Manager :=
  match event with
  | .start threw => { m with destroyed := false }.connect threw
  | .connect threw => m.connect threw
  | .ready => m.ready
  | .closed => m.scheduleReconnect
  | .destroy => m.destroy
  | .reloaded threw => { m with destroyed := false, retryCount := 0 }.connect threw
  | .exec cmd timeoutMs => m.exec cmd timeoutMs
  | .slot id => m.slot id
  | .resume id threw => m.resume id threw
  | .openFailed id message => m.openFailed id message
  | .opened id => m.opened id
  | .stream id event => m.stream id event

def run (events : List Event) : Manager := events.foldl step {}

end Manager

end EsosWebui.Ssh
