import EsosWebui.Js.Utf8
import EsosWebui.Scst.Parser
import EsosWebui.SystemConfig.ConfigReads

/-! The output of a command as it arrives, in chunks: when it is decoded as its whole, and what is
made of it when it is read, edited and written back. -/
namespace EsosWebui.Ssh

open Js
open Scst (ScstConfig parseScstConfSafe serializeScstConfig)
open SystemConfig (readConfigFiles)

/-- What happens on the stream of a command, with the bytes that arrive. -/
inductive ChannelEvent where
  | data (d : Bytes)
  | errData (d : Bytes)
  | exit (status : Option Nat)
  | close (code : Option Nat)
  | error (message : String)
  | timeout
  deriving DecidableEq

namespace ChannelEvent

/-- Each event has its bytes decoded: `d.toString('utf-8')`. -/
def decoded : ChannelEvent → StreamEvent
  | data d => .data (String.ofList (Utf8.decode d))
  | errData d => .errData (String.ofList (Utf8.decode d))
  | exit status => .exit status
  | close code => .close code
  | error message => .error message
  | timeout => .timeout

def out? : ChannelEvent → Option Bytes
  | data d => some d
  | _ => none

def err? : ChannelEvent → Option Bytes
  | errData d => some d
  | _ => none

end ChannelEvent

/-- What `exec` settles with, if it does. -/
def exec (cmd : String) (timeoutMs : Nat) (events : List ChannelEvent) :
    Option (Except Text Answer) :=
  (runExec cmd timeoutMs (.ok (events.map ChannelEvent.decoded))).map Settled.answer

def untilSettled (events : List ChannelEvent) : List ChannelEvent :=
  events.takeWhile fun event => !event.decoded.settles

def chunks (part : ChannelEvent → Option Bytes) (events : List ChannelEvent) : List Bytes :=
  (untilSettled events).filterMap part

/-- The command is settled by the closing of its stream. -/
def Closes (events : List ChannelEvent) : Prop :=
  ∃ code, (events.map ChannelEvent.decoded).find? (·.settles) = some (.close code)

/-- What is written back when the configuration has been read from an output and edited. -/
def editScstConfig (edit : ScstConfig → ScstConfig) (stdout : Text) : Text :=
  serializeScstConfig (edit (parseScstConfSafe stdout))

def editConfigFiles (sanId : Text) (paths : List Text) (edit : List (Text × Text) → Text)
    (stdout : Text) : Except Text Text :=
  (readConfigFiles sanId (some fun _ => .ok stdout) paths).map edit

/-- What is written back is what is made of the text that was printed. -/
structure KeepsText (stdout printed : Text) : Prop where
  scstConfig : ∀ (edit : ScstConfig → ScstConfig) (write : FileWrite) (faults : WriteFaults)
    (closing : Closing) (file : RemoteFile),
    writeRemoteFileAtomic { write with content := editScstConfig edit stdout } faults closing file =
      writeRemoteFileAtomic { write with content := editScstConfig edit printed } faults closing
        file
  configFiles : ∀ (sanId : Text) (paths : List Text) (edit : List (Text × Text) → Text),
    editConfigFiles sanId paths edit stdout = editConfigFiles sanId paths edit printed

/-- Once a command is answered, both outputs are the decoding of all their bytes. -/
structure OutputIndependent (cmd : String) (timeoutMs : Nat) (events : List ChannelEvent) :
    Prop where
  output : ∀ answer, exec cmd timeoutMs events = some (.ok answer) →
    answer.stdout = Utf8.decode (chunks ChannelEvent.out? events).flatten ∧
      answer.stderr = Utf8.decode (chunks ChannelEvent.err? events).flatten
  keepsText : ∀ answer printed, exec cmd timeoutMs events = some (.ok answer) →
    (chunks ChannelEvent.out? events).flatten = utf8 printed → KeepsText answer.stdout printed

theorem foldl_handle_output {events : List ChannelEvent}
    (hEvents : ∀ event ∈ events, event.decoded.settles = false) (s : ExecState) :
    let after := (events.map ChannelEvent.decoded).foldl ExecState.handle s
    after.stdout.toList =
        s.stdout.toList ++ (events.filterMap ChannelEvent.out?).flatMap Utf8.decode ∧
      after.stderr.toList =
        s.stderr.toList ++ (events.filterMap ChannelEvent.err?).flatMap Utf8.decode := by
  induction events generalizing s with
  | nil => simp
  | cons event events ih =>
    obtain ⟨hEvent, hRest⟩ := List.forall_mem_cons.mp hEvents
    obtain ⟨hOut, hErr⟩ := ih hRest (s.handle event.decoded)
    dsimp only at hOut hErr ⊢
    rw [List.map_cons, List.foldl_cons, hOut, hErr, List.filterMap_cons, List.filterMap_cons]
    cases event with
    | data d => simp [ExecState.handle, ChannelEvent.decoded, ChannelEvent.out?, ChannelEvent.err?]
    | errData d =>
      simp [ExecState.handle, ChannelEvent.decoded, ChannelEvent.out?, ChannelEvent.err?]
    | exit status => exact ⟨rfl, rfl⟩
    | close code => cases hEvent
    | error message => cases hEvent
    | timeout => cases hEvent

theorem exec_of_closes (cmd : String) (timeoutMs : Nat) {events : List ChannelEvent}
    (h : Closes events) : ∃ code, exec cmd timeoutMs events = some (.ok
      { code
        stdout := (chunks ChannelEvent.out? events).flatMap Utf8.decode
        stderr := (chunks ChannelEvent.err? events).flatMap Utf8.decode }) := by
  obtain ⟨code, hFirst⟩ := h
  obtain ⟨hSettles, _, _, hEvents, hBefore⟩ := List.find?_eq_some_iff_append.mp hFirst
  obtain ⟨before, rest, rfl, rfl, hRest⟩ := List.map_eq_append_iff.mp hEvents
  obtain ⟨event, after, rfl, hEvent, rfl⟩ := List.map_eq_cons_iff.mp hRest
  have hBefore : ∀ event ∈ before, event.decoded.settles = false := by simpa using hBefore
  have hUntil : untilSettled (before ++ event :: after) = before := by
    rw [untilSettled, List.takeWhile_append_of_pos (by simpa using hBefore),
      List.takeWhile_cons_of_neg (by simp [hEvent, hSettles]), List.append_nil]
  have hPending : ({ cmd, timeoutMs } : ExecState).Pending := ⟨rfl, rfl⟩
  have hCollected := foldl_handle_output hBefore { cmd, timeoutMs }
  have hDecoded : ∀ event ∈ before.map ChannelEvent.decoded, event.settles = false := by
    simpa using hBefore
  have hClosed := (hPending.foldl hDecoded).promise_close code (after.map ChannelEvent.decoded)
  refine ⟨code.getD 0, ?_⟩
  rw [exec, runExec, List.map_append, List.map_cons, hEvent]
  rw [List.foldl_append, List.foldl_cons, hClosed, chunks, chunks, hUntil]
  simp only [Option.map_some, Settled.answer, hCollected.1, hCollected.2]
  rfl

theorem closes_of_exec {cmd : String} {timeoutMs : Nat} {events : List ChannelEvent}
    {answer : Answer} (h : exec cmd timeoutMs events = some (.ok answer)) : Closes events := by
  have hPending : ({ cmd, timeoutMs } : ExecState).Pending := ⟨rfl, rfl⟩
  obtain ⟨settled, hSettled, hAnswer⟩ := Option.map_eq_some_iff.mp h
  rw [runExec] at hSettled
  cases hFirst : (events.map ChannelEvent.decoded).find? (·.settles) with
  | none =>
    have hNone := (hPending.foldl fun event hEvent => by
      simpa using List.find?_eq_none.mp hFirst event hEvent).1
    rw [hSettled] at hNone
    cases hNone
  | some event =>
    rcases hPending.promise_foldl hFirst with ⟨_, -, code, rfl, -⟩ | ⟨⟨error, hError⟩, -⟩
    · exact ⟨code, hFirst⟩
    · rw [hSettled] at hError
      cases hError
      cases hAnswer

/-- The outputs are those of the whole exactly when no chunk of a command that is answered ends
within a character. -/
theorem output_independent_iff (cmd : String) (timeoutMs : Nat) (events : List ChannelEvent) :
    OutputIndependent cmd timeoutMs events ↔
      (Closes events → Utf8.Whole (chunks ChannelEvent.out? events) ∧
        Utf8.Whole (chunks ChannelEvent.err? events)) := by
  simp only [← Utf8.flatMap_decode_eq_iff]
  constructor
  · intro h hCloses
    obtain ⟨code, hAnswer⟩ := exec_of_closes cmd timeoutMs hCloses
    exact h.output _ hAnswer
  · intro hWhole
    have hOutput : ∀ answer, exec cmd timeoutMs events = some (.ok answer) →
        answer.stdout = Utf8.decode (chunks ChannelEvent.out? events).flatten ∧
          answer.stderr = Utf8.decode (chunks ChannelEvent.err? events).flatten := by
      intro answer hAnswer
      have hCloses := closes_of_exec hAnswer
      obtain ⟨code, hSame⟩ := exec_of_closes cmd timeoutMs hCloses
      rw [hAnswer] at hSame
      cases hSame
      exact hWhole hCloses
    refine ⟨hOutput, fun answer printed hAnswer hPrinted => ?_⟩
    have hText : answer.stdout = printed := by
      rw [(hOutput answer hAnswer).1, hPrinted, Utf8.decode_utf8]
    rw [hText]
    exact ⟨fun _ _ _ _ _ => rfl, fun _ _ _ => rfl⟩

/-- A name with an accent that is cut between its two bytes. -/
def cutEvents : List ChannelEvent :=
  [.data [0x43, 0xC3], .data [0xA9], .exit (some 0), .close (some 0)]

/-- The accent is lost. -/
theorem cutCharacter_replaced :
    (chunks ChannelEvent.out? cutEvents).flatten = utf8 "Cé".toList ∧
      (exec "cat '/etc/scst.conf' 2>/dev/null || true" 15000 cutEvents).map
        (·.toOption.map (·.stdout)) = some (some "C\uFFFD\uFFFD".toList) ∧
      ¬ OutputIndependent "cat '/etc/scst.conf' 2>/dev/null || true" 15000 cutEvents := by
  refine ⟨by decide +kernel, by decide +kernel, fun h => ?_⟩
  have hCloses : Closes cutEvents := ⟨some 0, by decide +kernel⟩
  obtain ⟨code, hAnswer⟩ := exec_of_closes "cat '/etc/scst.conf' 2>/dev/null || true" 15000 hCloses
  have hSame : (chunks ChannelEvent.out? cutEvents).flatMap Utf8.decode =
      Utf8.decode (chunks ChannelEvent.out? cutEvents).flatten := (h.output _ hAnswer).1
  exact absurd hSame (by decide +kernel)

end EsosWebui.Ssh
