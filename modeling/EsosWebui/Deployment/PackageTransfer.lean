import EsosWebui.Fs.CreateFs
import EsosWebui.Js.Base64
import EsosWebui.Ssh.RunExec

/-! A file that is sent over the shell, in chunks, when its upload has failed: the events of its
stream and the ends of its commands, in any order. -/
namespace EsosWebui.Deployment

open Js
open Fs (orElseText shellSingleQuoteForRemote)
open Ssh (ExecResult)

def chunkRawBytes : Nat := 48 * 1024

def heredocDelimiter (digits : Text) : Text := "ESOS_UPG_".toList ++ digits

def buildBase64ChunkScript (digits remotePath b64Chunk : Text) (append : Bool) :
    Except Text Text :=
  let delim := heredocDelimiter digits
  if contains b64Chunk delim then .error "Chunk collides with heredoc delimiter".toList
  else
    let qPath := shellSingleQuoteForRemote remotePath
    let op := if append then ">> ".toList ++ qPath else "> ".toList ++ qPath
    .ok ("base64 -d ".toList ++ op ++ " <<'".toList ++ delim ++ "'\n".toList ++ b64Chunk ++
      '\n' :: delim)

structure ChunkCommand where
  data : Bytes
  append : Bool
  script : Text

/-- The file after the command has ended with status 0. -/
def ChunkCommand.written (c : ChunkCommand) (remote : Option Bytes) : Bytes :=
  (if c.append then remote.getD [] else []) ++ Base64.decode (Base64.encode c.data ++ ['\n'])

/-- The variables of a transfer, and the remote file. -/
structure Transfer where
  unread : Bytes
  remote : Option Bytes
  paused : Bool := false
  chunks : List Bytes := []
  append : Bool := false
  transferred : Nat := 0
  command : Option ChunkCommand := none
  ended : List (ChunkCommand × Bool) := []
  promise : Option (Except Text Unit) := none

def Transfer.settle (t : Transfer) (result : Except Text Unit) : Transfer :=
  { t with promise := some (t.promise.getD result) }

inductive TransferEvent where
  /-- the stream emits as many bytes -/
  | data (count : Nat)
  /-- the command of a chunk ends; one that fails leaves any file behind -/
  | exited (result : ExecResult) (left : Option Bytes) (progress : Except Text Unit)
  /-- the command of a chunk is given up -/
  | rejected (message : Text) (left : Option Bytes)
  | ended
  | failed (message : Text)

section

variable (digits : Nat → Text) (remotePath : Text)

/-- The loop of `process`, up to where it waits. -/
def Transfer.process (t : Transfer) : Transfer :=
  if t.chunks = [] then t
  else
    let data := t.chunks.flatten
    let t := { t with chunks := [] }
    if data = [] then { t with paused := false }
    else
      match buildBase64ChunkScript (digits t.ended.length) remotePath (Base64.encode data)
          t.append with
      | .error message => t.settle (.error message)
      | .ok script => { t with command := some ⟨data, t.append, script⟩, append := true }

def transferError (result : ExecResult) : Text :=
  orElseText (trim result.stderr.toList) (orElseText (trim result.stdout.toList)
    ("transfer exit ".toList ++ (toString result.code).toList))

def Transfer.step (t : Transfer) : TransferEvent → Option Transfer
  | .data count =>
    if t.paused = false ∧ count ≤ chunkRawBytes ∧ count ≤ t.unread.length then
      some (Transfer.process digits remotePath
        { t with
          paused := true
          unread := t.unread.drop count
          chunks := t.chunks ++ [t.unread.take count] })
    else none
  | .exited result left progress => t.command.map fun c =>
    if result.code ≠ 0 then
      Transfer.settle
        { t with command := none, ended := t.ended ++ [(c, false)], remote := left }
        (.error (transferError result))
    else
      let t :=
        { t with
          command := none
          ended := t.ended ++ [(c, true)]
          remote := some (c.written t.remote)
          transferred := t.transferred + c.data.length }
      match progress with
      | .error message => t.settle (.error message)
      | .ok () => Transfer.process digits remotePath { t with paused := false }
  | .rejected message left => t.command.map fun c =>
    Transfer.settle
      { t with command := none, ended := t.ended ++ [(c, false)], remote := left }
      (.error message)
  | .ended => if t.unread = [] then some (t.settle (.ok ())) else none
  | .failed message => some (t.settle (.error message))

def Transfer.run (t : Transfer) (events : List TransferEvent) : Option Transfer :=
  events.foldlM (Transfer.step digits remotePath) t

end

def startTransfer (file : Bytes) (remote : Option Bytes) : Transfer := { unread := file, remote }

/-- What the fall-back owes for a file. -/
structure Delivers (file : Bytes) (t : Transfer) : Prop where
  whole : t.promise = some (.ok ()) → t.remote = some file
  idle : t.promise = some (.ok ()) → t.command = none
  inOrder : t.promise = some (.ok ()) → (t.ended.map fun e => e.1.data).flatten = file
  succeeded : t.promise = some (.ok ()) → ∀ e ∈ t.ended, e.2 = true
  refused : ∀ e ∈ t.ended, e.2 = false → ∃ message, t.promise = some (.error message)

theorem exists_buildBase64ChunkScript (digits path : Text) (data : Bytes) (append : Bool) :
    ∃ script, buildBase64ChunkScript digits path (Base64.encode data) append = .ok script := by
  have hFree : contains (Base64.encode data) (heredocDelimiter digits) = false := by
    rw [contains_eq_false_iff]
    intro hIn
    have hMem : '_' ∈ Base64.encode data :=
      hIn.subset (List.mem_append_left digits (by decide : '_' ∈ "ESOS_UPG_".toList))
    exact absurd (Base64.mem_of_mem_encode hMem) (by decide)
  dsimp only [buildBase64ChunkScript]
  rw [if_neg (by simp [hFree])]
  exact ⟨_, rfl⟩

section

variable {digits : Nat → Text} {remotePath : Text} {t t' : Transfer}

@[simp] theorem settle_promise (result : Except Text Unit) :
    (t.settle result).promise = some (t.promise.getD result) := rfl

theorem process_of_chunks_nil (h : t.chunks = []) : t.process digits remotePath = t := if_pos h

theorem process_of_chunks_singleton {chunk : Bytes} (h : t.chunks = [chunk]) :
    (chunk = [] ∧ t.process digits remotePath = { t with chunks := [], paused := false }) ∨
      (chunk ≠ [] ∧ ∃ script, t.process digits remotePath =
        { t with chunks := [], command := some ⟨chunk, t.append, script⟩, append := true }) := by
  have hNe : t.chunks ≠ [] := by simp [h]
  have hData : t.chunks.flatten = chunk := by simp [h]
  dsimp only [Transfer.process]
  rw [if_neg hNe, hData]
  by_cases hEmpty : chunk = []
  · rw [if_pos hEmpty]
    exact Or.inl ⟨hEmpty, rfl⟩
  · obtain ⟨script, hScript⟩ :=
      exists_buildBase64ChunkScript (digits t.ended.length) remotePath chunk t.append
    rw [if_neg hEmpty, hScript]
    exact Or.inr ⟨hEmpty, script, rfl⟩

/-- What the events of a stream do: it emits nothing, or a chunk whose command is started. -/
theorem step_data {count : Nat} (hChunks : t.chunks = [])
    (h : t.step digits remotePath (.data count) = some t') :
    t.paused = false ∧
      (t' = t ∨ (t.unread.take count ≠ [] ∧ ∃ script, t' =
        { t with
          paused := true
          unread := t.unread.drop count
          command := some ⟨t.unread.take count, t.append, script⟩
          append := true })) := by
  dsimp only [Transfer.step] at h
  split_ifs at h with hPossible
  obtain rfl := Option.some.inj h
  refine ⟨hPossible.1, ?_⟩
  have hOne : t.chunks ++ [t.unread.take count] = [t.unread.take count] := by rw [hChunks]; rfl
  rcases @process_of_chunks_singleton digits remotePath
    { t with
      paused := true
      unread := t.unread.drop count
      chunks := t.chunks ++ [t.unread.take count] } _ hOne with
    ⟨hEmpty, hSame⟩ | ⟨hNe, script, hStarted⟩
  · left
    rw [hSame]
    have hDrop : t.unread.drop count = t.unread := by
      rcases List.take_eq_nil_iff.mp hEmpty with hZero | hNil
      · rw [hZero, List.drop_zero]
      · rw [hNil, List.drop_nil]
    cases t
    simp_all
  · right
    refine ⟨hNe, script, ?_⟩
    rw [hStarted]
    cases t
    simp_all

theorem step_exited {result : ExecResult} {left : Option Bytes} {progress : Except Text Unit}
    (hChunks : t.chunks = [])
    (h : t.step digits remotePath (.exited result left progress) = some t') :
    ∃ c, t.command = some c ∧
      ((∃ message, t' = Transfer.settle
          { t with command := none, ended := t.ended ++ [(c, false)], remote := left }
          (.error message)) ∨
        (∃ message, t' = Transfer.settle
          { t with
            command := none
            ended := t.ended ++ [(c, true)]
            remote := some (c.written t.remote)
            transferred := t.transferred + c.data.length }
          (.error message)) ∨
        t' =
          { t with
            command := none
            ended := t.ended ++ [(c, true)]
            remote := some (c.written t.remote)
            transferred := t.transferred + c.data.length
            paused := false }) := by
  obtain ⟨c, hCommand, h⟩ := Option.map_eq_some_iff.mp h
  refine ⟨c, hCommand, ?_⟩
  by_cases hCode : result.code ≠ 0
  · rw [if_pos hCode] at h
    exact Or.inl ⟨_, h.symm⟩
  · rw [if_neg hCode] at h
    cases progress with
    | error message => exact Or.inr (Or.inl ⟨message, h.symm⟩)
    | ok done =>
      refine Or.inr (Or.inr (h.symm.trans ?_))
      exact process_of_chunks_nil hChunks

theorem written_eq (c : ChunkCommand) (remote : Option Bytes) :
    c.written remote = (if c.append then remote.getD [] else []) ++ c.data := by
  rw [ChunkCommand.written, Base64.decode_encode_line]

def Transfer.sent (t : Transfer) : Bytes :=
  (t.ended.map fun e => e.1.data).flatten ++ (t.command.map ChunkCommand.data).getD []

/-- What holds in every order of the events, of a file and of what was there before. -/
structure Sound (file : Bytes) (before : Option Bytes) (t : Transfer) : Prop where
  chunks : t.chunks = []
  waits : t.command ≠ none → t.paused = true
  split : t.sent ++ t.unread = file
  nonempty : ∀ e ∈ t.ended, e.1.data ≠ []
  commandNonempty : ∀ c ∈ t.command, c.data ≠ []
  append : t.command = none → (t.append = true ↔ t.ended ≠ [])
  commandAppend : ∀ c ∈ t.command, c.append = true ↔ t.ended ≠ []
  appends : t.command ≠ none → t.append = true
  remote : (∀ e ∈ t.ended, e.2 = true) → t.remote =
    if t.ended = [] then before else some (t.ended.map fun e => e.1.data).flatten
  stopped : (∃ e ∈ t.ended, e.2 = false) → t.promise ≠ none

variable {file : Bytes} {before : Option Bytes}

theorem sound_start : Sound file before (startTransfer file before) where
  chunks := rfl
  waits h := absurd rfl h
  split := rfl
  nonempty e he := absurd he List.not_mem_nil
  commandNonempty c hc := by cases hc
  append _ := by simp [startTransfer]
  commandAppend c hc := by cases hc
  appends h := absurd rfl h
  remote _ := rfl
  stopped h := by simp [startTransfer] at h

theorem Sound.settle (h : Sound file before t) (result : Except Text Unit) :
    Sound file before (t.settle result) :=
  { h with stopped := fun _ => Option.some_ne_none _ }

theorem Sound.start (h : Sound file before t) {count : Nat} {script : Text}
    (hFlows : t.paused = false) (hNe : t.unread.take count ≠ []) :
    Sound file before
      { t with
        paused := true
        unread := t.unread.drop count
        command := some ⟨t.unread.take count, t.append, script⟩
        append := true } := by
  have hIdle : t.command = none := by
    by_contra hCommand
    exact absurd (h.waits hCommand) (by simp [hFlows])
  have hSplit := h.split
  rw [Transfer.sent, hIdle] at hSplit
  exact
    { h with
      waits := fun _ => rfl
      split := by
        rw [← hSplit]
        simp [Transfer.sent]
      commandNonempty := by
        intro c hc
        obtain rfl := Option.some.inj hc
        exact hNe
      append := by
        intro hNone
        cases hNone
      commandAppend := by
        intro c hc
        obtain rfl := Option.some.inj hc
        exact h.append hIdle
      appends := fun _ => rfl }

theorem Sound.finish (h : Sound file before t) {c : ChunkCommand} (hCommand : t.command = some c)
    {ok : Bool} {left : Option Bytes} {paused : Bool} {transferred : Nat}
    {promise : Option (Except Text Unit)} (hWritten : ok = true → left = some (c.written t.remote))
    (hStopped : ok = false ∨ t.promise ≠ none → promise ≠ none) :
    Sound file before
      { t with
        command := none
        ended := t.ended ++ [(c, ok)]
        remote := left
        paused
        transferred
        promise } := by
  have hData : c.data ≠ [] := h.commandNonempty c hCommand
  have hSplit := h.split
  rw [Transfer.sent, hCommand] at hSplit
  exact
    { h with
      waits := fun hNone => absurd rfl hNone
      split := by
        rw [← hSplit]
        simp [Transfer.sent]
      nonempty := by
        intro e he
        rcases List.mem_append.mp he with he | he
        · exact h.nonempty e he
        · obtain rfl := List.mem_singleton.mp he
          exact hData
      commandNonempty := by
        intro d hd
        cases hd
      append := fun _ => by simp [h.appends (by simp [hCommand])]
      commandAppend := by
        intro d hd
        cases hd
      appends := fun hNone => absurd rfl hNone
      remote := by
        intro hAll
        have hOk : ok = true := hAll (c, ok) (by simp)
        have hBefore := h.remote fun e he => hAll e (List.mem_append_left _ he)
        have hAppend := h.commandAppend c hCommand
        show left = if t.ended ++ [(c, ok)] = [] then before else some _
        rw [if_neg (by simp), hWritten hOk, written_eq]
        by_cases hFirst : t.ended = []
        · rw [if_neg (fun hMore => hAppend.mp hMore hFirst), hFirst]
          simp
        · rw [if_pos (hAppend.mpr hFirst), hBefore, if_neg hFirst]
          simp
      stopped := by
        rintro ⟨e, he, hFailed⟩
        apply hStopped
        rcases List.mem_append.mp he with he | he
        · exact Or.inr (h.stopped ⟨e, he, hFailed⟩)
        · obtain rfl := List.mem_singleton.mp he
          exact Or.inl hFailed }

theorem Sound.step (h : Sound file before t) {e : TransferEvent}
    (hStep : t.step digits remotePath e = some t') : Sound file before t' := by
  cases e with
  | data count =>
    obtain ⟨hFlows, rfl | ⟨hNe, script, rfl⟩⟩ := step_data h.chunks hStep
    · exact h
    · exact h.start hFlows hNe
  | exited result left progress =>
    obtain ⟨c, hCommand, ⟨message, rfl⟩ | ⟨message, rfl⟩ | rfl⟩ := step_exited h.chunks hStep
    · exact h.finish hCommand (by simp) (by simp)
    · exact h.finish hCommand (fun _ => rfl) (by simp)
    · exact h.finish hCommand (fun _ => rfl) (by simp)
  | rejected message left =>
    obtain ⟨c, hCommand, rfl⟩ := Option.map_eq_some_iff.mp hStep
    exact h.finish hCommand (by simp) (by simp)
  | ended =>
    dsimp only [Transfer.step] at hStep
    split_ifs at hStep
    obtain rfl := Option.some.inj hStep
    exact h.settle _
  | failed message =>
    obtain rfl := Option.some.inj hStep
    exact h.settle _

structure Returned (file : Bytes) (t : Transfer) : Prop where
  read : t.unread = []
  idle : t.command = none
  succeeded : ∀ e ∈ t.ended, e.2 = true
  whole : t.remote = some file

theorem Returned.step (h : Returned file t) (hChunks : t.chunks = []) {e : TransferEvent}
    (hStep : t.step digits remotePath e = some t') :
    Returned file t' ∧ (t.promise = some (.ok ()) → t'.promise = some (.ok ())) := by
  cases e with
  | data count =>
    obtain ⟨-, rfl | ⟨hNe, script, rfl⟩⟩ := step_data hChunks hStep
    · exact ⟨h, id⟩
    · exact absurd (by rw [h.read, List.take_nil]) hNe
  | exited result left progress =>
    obtain ⟨c, hCommand, -⟩ := step_exited hChunks hStep
    exact absurd hCommand (by simp [h.idle])
  | rejected message left =>
    obtain ⟨c, hCommand, -⟩ := Option.map_eq_some_iff.mp hStep
    exact absurd hCommand (by simp [h.idle])
  | ended =>
    dsimp only [Transfer.step] at hStep
    split_ifs at hStep
    obtain rfl := Option.some.inj hStep
    exact ⟨⟨h.read, h.idle, h.succeeded, h.whole⟩, fun hOk => by simp [hOk]⟩
  | failed message =>
    obtain rfl := Option.some.inj hStep
    exact ⟨⟨h.read, h.idle, h.succeeded, h.whole⟩, fun hOk => by simp [hOk]⟩

/-- The state in which the stream ends, when that settles the promise, is one to return from. -/
def ReadyToEnd (file : Bytes) (before : Option Bytes) (t : Transfer) : Prop :=
  t.promise = none → t.unread = [] → t.command = none ∧ (file = [] → before = some [])

theorem Sound.returned (h : Sound file before t) (hReady : ReadyToEnd file before t)
    (hOpen : t.promise = none) (hRead : t.unread = []) : Returned file t := by
  obtain ⟨hIdle, hEmpty⟩ := hReady hOpen hRead
  have hAll : ∀ e ∈ t.ended, e.2 = true := by
    intro e he
    by_contra hFailed
    exact h.stopped ⟨e, he, by simpa using hFailed⟩ hOpen
  have hSplit := h.split
  rw [Transfer.sent, hIdle, hRead, List.append_nil] at hSplit
  refine ⟨hRead, hIdle, hAll, ?_⟩
  rw [h.remote hAll]
  by_cases hNone : t.ended = []
  · rw [if_pos hNone]
    have hFile : file = [] := by
      rw [← hSplit, hNone]
      rfl
    rw [hEmpty hFile, hFile]
  · rw [if_neg hNone, ← hSplit]
    simp

theorem promise_step (hChunks : t.chunks = []) {e : TransferEvent}
    (hStep : t.step digits remotePath e = some t') :
    t'.promise = t.promise ∨ ∃ result, t'.promise = some (t.promise.getD result) ∧
      (result = .ok () → e = .ended) := by
  cases e with
  | data count =>
    obtain ⟨-, rfl | ⟨hNe, script, rfl⟩⟩ := step_data hChunks hStep
    · exact Or.inl rfl
    · exact Or.inl rfl
  | exited result left progress =>
    obtain ⟨c, hCommand, ⟨message, rfl⟩ | ⟨message, rfl⟩ | rfl⟩ := step_exited hChunks hStep
    · exact Or.inr ⟨.error message, rfl, by simp⟩
    · exact Or.inr ⟨.error message, rfl, by simp⟩
    · exact Or.inl rfl
  | rejected message left =>
    obtain ⟨c, hCommand, rfl⟩ := Option.map_eq_some_iff.mp hStep
    exact Or.inr ⟨.error message, rfl, by simp⟩
  | ended =>
    dsimp only [Transfer.step] at hStep
    split_ifs at hStep
    obtain rfl := Option.some.inj hStep
    exact Or.inr ⟨.ok (), rfl, fun _ => rfl⟩
  | failed message =>
    obtain rfl := Option.some.inj hStep
    exact Or.inr ⟨.error message, rfl, by simp⟩

theorem step_ended (hRead : t.unread = []) :
    t.step digits remotePath .ended = some (t.settle (.ok ())) := if_pos hRead

theorem Sound.returned_step (h : Sound file before t)
    (hReturned : t.promise = some (.ok ()) → Returned file t) {e : TransferEvent}
    (hReady : e = .ended → ReadyToEnd file before t)
    (hStep : t.step digits remotePath e = some t') (hOk : t'.promise = some (.ok ())) :
    Returned file t' := by
  cases hPromise : t.promise with
  | some result =>
    have hKept : t'.promise = some result := by
      rcases promise_step h.chunks hStep with hSame | ⟨other, hSame, -⟩
      · rw [hSame, hPromise]
      · rw [hSame, hPromise]
        rfl
    obtain rfl : result = .ok () := Option.some.inj (hKept.symm.trans hOk)
    exact ((hReturned hPromise).step h.chunks hStep).1
  | none =>
    rcases promise_step h.chunks hStep with hSame | ⟨result, hSettled, hEnded⟩
    · rw [hSame, hPromise] at hOk
      cases hOk
    · rw [hPromise] at hSettled
      obtain rfl : result = .ok () := Option.some.inj (hSettled.symm.trans hOk)
      obtain rfl := hEnded rfl
      have hRead : t.unread = [] := by
        by_contra hMore
        rw [Transfer.step, if_neg hMore] at hStep
        cases hStep
      exact ((h.returned (hReady rfl) hPromise hRead).step h.chunks hStep).1

theorem Sound.delivers (h : Sound file before t)
    (hReturned : t.promise = some (.ok ()) → Returned file t) : Delivers file t where
  whole hOk := (hReturned hOk).whole
  idle hOk := (hReturned hOk).idle
  inOrder hOk := by
    have hSplit := h.split
    rw [Transfer.sent, (hReturned hOk).idle, (hReturned hOk).read] at hSplit
    simpa using hSplit
  succeeded hOk := (hReturned hOk).succeeded
  refused e he hFailed := by
    cases hPromise : t.promise with
    | none => exact absurd hPromise (h.stopped ⟨e, he, hFailed⟩)
    | some result =>
      cases result with
      | error message => exact ⟨message, rfl⟩
      | ok done => exact absurd ((hReturned hPromise).succeeded e he) (by simp [hFailed])

/-- A return that delivers was a return from a state that was ready for it. -/
theorem Sound.readyToEnd (h : Sound file before t)
    (hDelivers : t.unread = [] → Delivers file (t.settle (.ok ()))) : ReadyToEnd file before t := by
  intro hOpen hRead
  have hOk : (t.settle (.ok ())).promise = some (.ok ()) := by simp [hOpen]
  have hDone := hDelivers hRead
  have hIdle : t.command = none := hDone.idle hOk
  refine ⟨hIdle, fun hFile => ?_⟩
  have hOrder : (t.ended.map fun e => e.1.data).flatten = [] := hFile ▸ hDone.inOrder hOk
  have hNone : t.ended = [] := by
    refine List.eq_nil_iff_forall_not_mem.mpr fun e he => h.nonempty e he ?_
    exact List.flatten_eq_nil_iff.mp hOrder _ (List.mem_map_of_mem he)
  have hRemote := h.remote (hDone.succeeded hOk)
  rw [if_pos hNone] at hRemote
  rw [← hRemote, ← hFile]
  exact hDone.whole hOk

theorem run_concat {start : Transfer} {pre : List TransferEvent} {e : TransferEvent} :
    start.run digits remotePath (pre ++ [e]) =
      (start.run digits remotePath pre).bind fun t => t.step digits remotePath e := by
  rw [Transfer.run, List.foldlM_append]
  show (start.run digits remotePath pre).bind _ = _
  cases start.run digits remotePath pre with
  | none => rfl
  | some t =>
    show (t.step digits remotePath e).bind _ = t.step digits remotePath e
    cases t.step digits remotePath e with
    | none => rfl
    | some t' => rfl

end

section

variable (digits : Nat → Text) (remotePath : Text) (file : Bytes) (before : Option Bytes)
  (events : List TransferEvent)

/-- What the fall-back owes is so in every state of a run. -/
def DeliversAlong : Prop :=
  ∀ pre t, pre <+: events → (startTransfer file before).run digits remotePath pre = some t →
    Delivers file t

/-- Whenever the stream ends, the transfer is ready to return. -/
def EndsReady : Prop :=
  ∀ pre t, pre ++ [.ended] <+: events →
    (startTransfer file before).run digits remotePath pre = some t → ReadyToEnd file before t

/-- The stream does not end while it is paused. -/
def EndsFlowing : Prop :=
  ∀ pre t, pre ++ [.ended] <+: events →
    (startTransfer file before).run digits remotePath pre = some t → t.paused = false

variable {digits remotePath file before events}

theorem sound_run {pre : List TransferEvent} {t : Transfer}
    (h : (startTransfer file before).run digits remotePath pre = some t) : Sound file before t := by
  induction pre using List.reverseRecOn generalizing t with
  | nil =>
    obtain rfl := Option.some.inj h
    exact sound_start
  | append_singleton pre e ih =>
    rw [run_concat] at h
    obtain ⟨s, hs, hStep⟩ := Option.bind_eq_some_iff.mp h
    exact (ih hs).step hStep

theorem EndsReady.returned (hEnds : EndsReady digits remotePath file before events)
    {pre : List TransferEvent} {t : Transfer} (hPrefix : pre <+: events)
    (h : (startTransfer file before).run digits remotePath pre = some t)
    (hOk : t.promise = some (.ok ())) : Returned file t := by
  induction pre using List.reverseRecOn generalizing t with
  | nil =>
    obtain rfl := Option.some.inj h
    cases hOk
  | append_singleton pre e ih =>
    rw [run_concat] at h
    obtain ⟨s, hs, hStep⟩ := Option.bind_eq_some_iff.mp h
    have hBefore : pre <+: events := (List.prefix_append pre [e]).trans hPrefix
    refine (sound_run hs).returned_step (ih hBefore hs) ?_ hStep hOk
    rintro rfl
    exact hEnds pre s hPrefix hs

theorem deliversAlong_iff : DeliversAlong digits remotePath file before events ↔
    EndsReady digits remotePath file before events := by
  constructor
  · intro hLaw pre t hPrefix hRun
    refine (sound_run hRun).readyToEnd fun hRead => hLaw (pre ++ [.ended]) _ hPrefix ?_
    rw [run_concat, hRun, Option.bind_some, step_ended hRead]
  · intro hEnds pre t hPrefix hRun
    exact (sound_run hRun).delivers (hEnds.returned hPrefix hRun)

end

/-- In a run of the fall-back, the whole file is delivered whenever it returns, and it fails with
every chunk that fails, exactly when the stream ends while no command is running and a file without
bytes was there, empty, before. For streams that do not end while they are paused: exactly when the
file has bytes or an empty one was there. -/
theorem fallback_delivers_iff (digits : Nat → Text) (remotePath : Text) (file : Bytes)
    (before : Option Bytes) :
    (∀ events, DeliversAlong digits remotePath file before events ↔
        EndsReady digits remotePath file before events) ∧
      ((∀ events, EndsFlowing digits remotePath file before events →
          DeliversAlong digits remotePath file before events) ↔
        file ≠ [] ∨ before = some []) := by
  refine ⟨fun events => deliversAlong_iff, ?_, ?_⟩
  · intro hLaw
    by_contra hEmpty
    obtain ⟨hFile, hBefore⟩ := not_or.mp hEmpty
    have hNil : file = [] := not_not.mp hFile
    have hFlows : EndsFlowing digits remotePath file before [.ended] := by
      intro pre t hPrefix hRun
      obtain rfl : pre = [] := by
        have hLength := hPrefix.length_le
        exact List.eq_nil_of_length_eq_zero (by simpa using hLength)
      obtain rfl := Option.some.inj hRun
      rfl
    have hReady := deliversAlong_iff.mp (hLaw [.ended] hFlows) [] _ List.prefix_rfl rfl rfl hNil
    exact hBefore (hReady.2 hNil)
  · intro hEither events hFlows
    refine deliversAlong_iff.mpr fun pre t hPrefix hRun hOpen hRead => ⟨?_, fun hNil => ?_⟩
    · by_contra hCommand
      have hPaused := (sound_run hRun).waits hCommand
      exact absurd hPaused (by simp [hFlows pre t hPrefix hRun])
    · exact hEither.resolve_left (not_not_intro hNil)

/-- An empty file is not there after the fall-back. -/
theorem emptyFile_not_delivered :
    ¬ DeliversAlong (fun _ => "0123456789abcdef".toList) "/tmp/package.zip".toList [] none
      [.ended] := fun hLaw => by
  have hDone := (hLaw [.ended] _ List.prefix_rfl rfl).whole rfl
  cases hDone

end EsosWebui.Deployment
