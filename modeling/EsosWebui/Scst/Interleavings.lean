import EsosWebui.Js.Run
import EsosWebui.Scst.Entries
import Mathlib.Data.List.Permutation

/-! What reading the remote file comes back with, and which of its entries are left in the file
that a request writes then. -/
namespace EsosWebui.Scst

open Js

/-- How the command that prints the file ends. Its exit status is dropped and its errors are not
printed, so that only a rejected execution is told from a file with less in it. -/
inductive ReadOutcome where
  | complete
  | missing
  | unreadable
  | cut (bytes : Nat)
  | rejected (message : Text)

def firstBytes : Nat → Text → Text
  | _, [] => []
  | n, c :: rest =>
    if c.utf8Size ≤ n then c :: firstBytes (n - c.utf8Size) rest
    else if n = 0 then []
    else ['\uFFFD']

def ReadOutcome.stdout (content : Text) : ReadOutcome → Except Text Text
  | complete => .ok content
  | missing | unreadable => .ok []
  | cut bytes => .ok (firstBytes bytes content)
  | rejected message => .error message

def readScstConfig (content : Text) (outcome : ReadOutcome) : Except Text ScstConfig := do
  let stdout ← outcome.stdout content
  return parseScstConfSafe stdout

structure Mutation where
  read : ScstConfig
  written : ScstConfig

section

variable (toLowerCase : Text → Text)

def Request.mutate (r : Request) (outcome : ReadOutcome) (content : Text) :
    Except Text Mutation := do
  let read ← readScstConfig content outcome
  let written ← r.edit toLowerCase read
  return { read, written }

def Request.fileAfter (r : Request) (outcome : ReadOutcome) (content : Text) : Text :=
  match r.mutate toLowerCase outcome content with
  | .ok mutation => serializeScstConfig mutation.written
  | .error _ => content

/-- A request that writes keeps the entries of the file that it was not asked to remove, and one
that fails leaves the file as it is. -/
def Request.KeepsEntries (r : Request) (outcome : ReadOutcome) (content : Text) : Prop :=
  match r.mutate toLowerCase outcome content with
  | .ok mutation => ∀ e ∈ (parseScstConfSafe content).entries,
      r.Removes toLowerCase mutation.read e ∨ e ∈ mutation.written.entries
  | .error _ => r.fileAfter toLowerCase outcome content = content

/-- What is not read of a file is what the request removes, or adds itself. -/
def Request.ReadsEnough (r : Request) (content : Text) (read : ScstConfig) : Prop :=
  ∀ e ∈ (parseScstConfSafe content).entries,
    r.Removes toLowerCase read e ∨ e ∈ read.entries ∨ e ∈ r.added toLowerCase read

def Request.Accepts (r : Request) (read : ScstConfig) : Prop :=
  ∃ written, r.edit toLowerCase read = .ok written

variable {toLowerCase} {r : Request} {outcome : ReadOutcome} {content : Text}

theorem mutate_eq_ok {mutation : Mutation} :
    r.mutate toLowerCase outcome content = .ok mutation ↔
      readScstConfig content outcome = .ok mutation.read ∧
        r.edit toLowerCase mutation.read = .ok mutation.written := by
  unfold Request.mutate
  simp only [bind_eq_ok, pure_eq_ok]
  constructor
  · rintro ⟨read, hRead, written, hEdit, rfl⟩
    exact ⟨hRead, hEdit⟩
  · rintro ⟨hRead, hEdit⟩
    exact ⟨mutation.read, hRead, mutation.written, hEdit, rfl⟩

theorem readScstConfig_eq_ok {read : ScstConfig} :
    readScstConfig content outcome = .ok read ↔
      ∃ stdout, outcome.stdout content = .ok stdout ∧ parseScstConfSafe stdout = read := by
  simp only [readScstConfig, bind_eq_ok, pure_eq_ok]

theorem fileAfter_of_error {message : Text}
    (h : r.mutate toLowerCase outcome content = .error message) :
    r.fileAfter toLowerCase outcome content = content := by
  rw [Request.fileAfter, h]

/-- A request keeps the entries of the file exactly if what it has not read of them, when it is
accepted on what it has read, is what it removes or adds itself. -/
theorem keepsEntries_iff :
    r.KeepsEntries toLowerCase outcome content ↔
      ∀ stdout, outcome.stdout content = .ok stdout →
        r.Accepts toLowerCase (parseScstConfSafe stdout) →
          r.ReadsEnough toLowerCase content (parseScstConfSafe stdout) := by
  unfold Request.KeepsEntries
  cases hMutate : r.mutate toLowerCase outcome content with
  | error message =>
    refine iff_of_true (fileAfter_of_error hMutate) ?_
    rintro stdout hStdout ⟨written, hEdit⟩
    have hOk := mutate_eq_ok.mpr
      (show _ ∧ r.edit toLowerCase (Mutation.mk (parseScstConfSafe stdout) written).read = _ from
        ⟨readScstConfig_eq_ok.mpr ⟨stdout, hStdout, rfl⟩, hEdit⟩)
    rw [hMutate] at hOk
    cases hOk
  | ok mutation =>
    obtain ⟨hRead, hEdit⟩ := mutate_eq_ok.mp hMutate
    obtain ⟨stdout, hStdout, hParsed⟩ := readScstConfig_eq_ok.mp hRead
    have hKept : (∀ e ∈ (parseScstConfSafe content).entries,
          r.Removes toLowerCase mutation.read e ∨ e ∈ mutation.written.entries) ↔
        r.ReadsEnough toLowerCase content mutation.read := by
      refine forall₂_congr fun e _ => or_congr_right' fun hNot => ?_
      exact mem_entries_edit hEdit hNot
    refine hKept.trans ?_
    rw [← hParsed]
    constructor
    · intro hEnough other hOther _
      obtain rfl := Except.ok.inj (hStdout.symm.trans hOther)
      exact hEnough
    · intro hAll
      exact hAll stdout hStdout ⟨mutation.written, hParsed ▸ hEdit⟩

end

def oneDeviceConf : Text :=
  "HANDLER vdisk_fileio \x7b\n\tDEVICE disk1 \x7b\n\t\tfilename /mnt/disk1\n\t\x7d\n\x7d\n".toList

def createIscsiTarget : Request :=
  .createTarget "iscsi".toList "iqn.2024-01.org.esos:t1".toList

/-- The device is lost when the file cannot be read and a target is created. -/
theorem oneDeviceConf_emptied :
    (createIscsiTarget.mutate id .unreadable oneDeviceConf).isOk = true ∧
      ¬ createIscsiTarget.KeepsEntries id .unreadable oneDeviceConf := by
  refine ⟨by decide +kernel, fun hKeeps => ?_⟩
  have hEnough := keepsEntries_iff.mp hKeeps [] rfl (exists_of_isOk (by decide +kernel))
    (.handler "vdisk_fileio".toList) (by decide +kernel)
  rcases hEnough with hRemoved | hRead | hAdded
  · exact hRemoved
  · exact absurd hRead (by decide +kernel)
  · exact absurd hAdded (by decide +kernel)

/-! Requests that run at the same time on one file: each of them reads it, checks and edits what it
has read, writes the whole file and has it reloaded, and others may run in between. -/

/-- How far a request has come. -/
inductive Phase where
  | called
  | edited (stdout content : Text)
  | reloading
  | acknowledged
  | failed (message : Text)
  deriving DecidableEq

structure Call where
  request : Request
  phase : Phase := .called
  written : Bool := false

/-- A SAN with the requests that were made to it. -/
structure San where
  file : Text
  calls : List Call := []

/-- How a command ends that replaces the file. It exits with 0 only after it has replaced it. -/
inductive WriteOutcome where
  | replaced
  | replacedUnanswered (message : Text)
  | failed (message : Text)

def WriteOutcome.replaces : WriteOutcome → Bool
  | failed _ => false
  | _ => true

/-- What happens next: a request is made, or a command of a request ends. -/
inductive Step where
  | call (request : Request)
  | read (i : Nat) (outcome : ReadOutcome)
  | write (i : Nat) (outcome : WriteOutcome)
  | reload (i : Nat) (error : Option Text)

section

variable (toLowerCase : Text → Text)

def Request.editedFile (r : Request) (outcome : ReadOutcome) (file : Text) : Except Text Phase := do
  let stdout ← outcome.stdout file
  let content ← r.run toLowerCase stdout
  return .edited stdout content

def orFailed : Except Text Phase → Phase
  | .ok phase => phase
  | .error message => .failed message

def Call.afterRead (outcome : ReadOutcome) (file : Text) (x : Call) : Call :=
  { x with phase := orFailed (x.request.editedFile toLowerCase outcome file) }

def Call.afterWrite (outcome : WriteOutcome) (x : Call) : Call :=
  { x with
    written := outcome.replaces
    phase := match outcome with
      | .replaced => .reloading
      | .replacedUnanswered message | .failed message => .failed message }

def Call.afterReload (error : Option Text) (x : Call) : Call :=
  { x with phase := (error.map .failed).getD .acknowledged }

def San.modifyCall (i : Nat) (f : Call → Call) (s : San) : San :=
  { s with calls := s.calls.modify i f }

def San.phase? (s : San) (i : Nat) : Option Phase := s.calls[i]?.map (·.phase)

def San.step : Step → San → Except Unit San
  | .call request, s => .ok { s with calls := s.calls ++ [{ request }] }
  | .read i outcome, s =>
    match s.phase? i with
    | some .called => .ok (s.modifyCall i (Call.afterRead toLowerCase outcome s.file))
    | _ => .error ()
  | .write i outcome, s =>
    match s.phase? i with
    | some (.edited _ content) =>
      let file := if outcome.replaces then content else s.file
      .ok { s.modifyCall i (Call.afterWrite outcome) with file }
    | _ => .error ()
  | .reload i error, s =>
    match s.phase? i with
    | some .reloading => .ok (s.modifyCall i (Call.afterReload error))
    | _ => .error ()

/-- Requests that run one after the other, each accepted on the file that it finds. -/
def Serial (file : Text) (order : List Request) (file' : Text) : Prop :=
  Run (Request.run toLowerCase) (fun _ _ => True) file order file'

end

def San.writtenRequests (s : San) : List Request :=
  s.calls.flatMap fun x => if x.written then [x.request] else []

/-- A file is replaced only while it is the one that was read. -/
def Undisturbed (step : Step) (s : San) : Prop :=
  ∀ i outcome, step = .write i outcome → outcome.replaces = true →
    ∀ stdout content, s.phase? i = some (.edited stdout content) → stdout = s.file

/-- No update is lost: the file is the one that the requests written make of the first file when
they run one after the other in some order, and what is acknowledged is among them. -/
structure San.NoLostUpdate (toLowerCase : Text → Text) (file₀ : Text) (s : San) : Prop where
  serial : ∃ order, order.Perm s.writtenRequests ∧ Serial toLowerCase file₀ order s.file
  acknowledged : ∀ x ∈ s.calls, x.phase = .acknowledged → x.written = true

section

variable {toLowerCase : Text → Text} {file₀ : Text} {s s' : San}

/-- What is known of a request by how far it has come. -/
structure Call.Sound (toLowerCase : Text → Text) (x : Call) : Prop where
  called : x.phase = .called → x.written = false
  edited : ∀ stdout content, x.phase = .edited stdout content →
    x.request.run toLowerCase stdout = .ok content ∧ x.written = false
  reloading : x.phase = .reloading → x.written = true
  acknowledged : x.phase = .acknowledged → x.written = true

theorem writtenRequests_modifyCall {i : Nat} {f : Call → Call} {x : Call}
    (hAt : s.calls[i]? = some x) (hWritten : (f x).written = x.written)
    (hSame : (f x).request = x.request) :
    (s.modifyCall i f).writtenRequests.Perm s.writtenRequests := by
  have hNew := flatMap_modify_perm (f := f)
    (g := fun x : Call => if x.written then [x.request] else []) hAt
  have hOld := flatMap_perm (g := fun x : Call => if x.written then [x.request] else []) hAt
  simp only [hWritten, hSame] at hNew
  exact hNew.trans hOld.symm

theorem writtenRequests_write {i : Nat} {f : Call → Call} {x : Call} (hAt : s.calls[i]? = some x)
    (hBefore : x.written = false) (hAfter : (f x).written)
    (hSame : (f x).request = x.request) :
    (s.modifyCall i f).writtenRequests.Perm (x.request :: s.writtenRequests) := by
  have hNew := flatMap_modify_perm (f := f)
    (g := fun x : Call => if x.written then [x.request] else []) hAt
  have hOld := flatMap_perm (g := fun x : Call => if x.written then [x.request] else []) hAt
  simp only [hBefore, hAfter, hSame, if_true, Bool.false_eq_true, if_false, List.nil_append,
    List.singleton_append] at hNew hOld
  exact hNew.trans (hOld.symm.cons _)

theorem phase?_eq_some {i : Nat} {phase : Phase} :
    s.phase? i = some phase ↔ ∃ x, s.calls[i]? = some x ∧ x.phase = phase :=
  Option.map_eq_some_iff

variable (toLowerCase) in
theorem editedFile_cases (r : Request) (outcome : ReadOutcome) (file : Text) :
    (∃ stdout content, r.run toLowerCase stdout = .ok content ∧
      orFailed (r.editedFile toLowerCase outcome file) = .edited stdout content) ∨
    ∃ message, orFailed (r.editedFile toLowerCase outcome file) = .failed message := by
  unfold Request.editedFile
  cases outcome.stdout file with
  | error message => exact Or.inr ⟨message, rfl⟩
  | ok stdout =>
    cases hRun : r.run toLowerCase stdout with
    | error message => exact Or.inr ⟨message, by simp [hRun, orFailed, bind, Except.bind]⟩
    | ok content =>
      exact Or.inl ⟨stdout, content, hRun, by
        simp [hRun, orFailed, bind, Except.bind, pure, Except.pure]⟩

theorem sound_call (r : Request) : Call.Sound toLowerCase { request := r } where
  called := fun _ => rfl
  edited := nofun
  reloading := nofun
  acknowledged := nofun

theorem sound_afterRead {x : Call} (hWritten : x.written = false) (outcome : ReadOutcome)
    (file : Text) : (x.afterRead toLowerCase outcome file).Sound toLowerCase := by
  unfold Call.afterRead
  rcases editedFile_cases toLowerCase x.request outcome file with
    ⟨stdout, content, hRun, hEdited⟩ | ⟨message, hFailed⟩
  · rw [hEdited]
    refine ⟨nofun, ?_, nofun, nofun⟩
    rintro _ _ ⟨⟩
    exact ⟨hRun, hWritten⟩
  · rw [hFailed]
    exact ⟨nofun, nofun, nofun, nofun⟩

theorem sound_afterWrite (x : Call) (outcome : WriteOutcome) :
    (x.afterWrite outcome).Sound toLowerCase := by
  cases outcome with
  | replaced => exact ⟨nofun, nofun, fun _ => rfl, nofun⟩
  | replacedUnanswered message => exact ⟨nofun, nofun, nofun, nofun⟩
  | failed message => exact ⟨nofun, nofun, nofun, nofun⟩

theorem sound_afterReload {x : Call} (hWritten : x.written) (error : Option Text) :
    (x.afterReload error).Sound toLowerCase := by
  cases error with
  | none => exact ⟨nofun, nofun, nofun, fun _ => hWritten⟩
  | some message => exact ⟨nofun, nofun, nofun, nofun⟩

/-- What holds of a SAN in an undisturbed run. -/
structure San.Sound (toLowerCase : Text → Text) (file₀ : Text) (s : San) : Prop where
  calls : ∀ x ∈ s.calls, x.Sound toLowerCase
  serial : ∃ order, order.Perm s.writtenRequests ∧ Serial toLowerCase file₀ order s.file

theorem San.Sound.modifyCall (h : s.Sound toLowerCase file₀) {i : Nat} {f : Call → Call} {x : Call}
    (hAt : s.calls[i]? = some x) (hSound : (f x).Sound toLowerCase)
    (hWritten : (f x).written = x.written) (hSame : (f x).request = x.request) :
    (s.modifyCall i f).Sound toLowerCase file₀ where
  calls := forall_mem_modify_at h.calls fun y hy => by
    obtain rfl := Option.some.inj (hAt.symm.trans hy)
    exact hSound
  serial := by
    obtain ⟨order, hOrder, hSerial⟩ := h.serial
    exact ⟨order, hOrder.trans (writtenRequests_modifyCall hAt hWritten hSame).symm, hSerial⟩

/-- A request that replaces the file it has read comes last in the order. -/
theorem San.Sound.replace (h : s.Sound toLowerCase file₀) {i : Nat} {outcome : WriteOutcome}
    {x : Call} {content : Text} (hAt : s.calls[i]? = some x)
    (hPhase : x.phase = .edited s.file content) (hReplaces : outcome.replaces) :
    ({ s.modifyCall i (Call.afterWrite outcome) with file := content } : San).Sound
      toLowerCase file₀ where
  calls := forall_mem_modify_at h.calls fun y _ => sound_afterWrite y outcome
  serial := by
    obtain ⟨order, hOrder, hSerial⟩ := h.serial
    obtain ⟨hRun, hBefore⟩ := (h.calls x (List.mem_of_getElem? hAt)).edited _ _ hPhase
    refine ⟨order ++ [x.request], ?_, Run.snoc hSerial trivial hRun⟩
    have hWrite := writtenRequests_write (f := Call.afterWrite outcome) hAt hBefore hReplaces rfl
    exact (List.perm_append_singleton _ _).trans ((hOrder.cons _).trans hWrite.symm)

theorem San.Sound.step (h : s.Sound toLowerCase file₀) {step : Step}
    (hUndisturbed : Undisturbed step s) (hStep : San.step toLowerCase step s = .ok s') :
    s'.Sound toLowerCase file₀ := by
  cases step with
  | call request =>
    obtain rfl := Except.ok.inj hStep
    refine ⟨?_, ?_⟩
    · exact List.forall_mem_append.mpr
        ⟨h.calls, List.forall_mem_singleton.mpr (sound_call request)⟩
    · obtain ⟨order, hOrder, hSerial⟩ := h.serial
      exact ⟨order, by simpa [San.writtenRequests] using hOrder, hSerial⟩
  | read i outcome =>
    simp only [San.step] at hStep
    split at hStep
    · rename_i hPhase
      obtain ⟨x, hAt, hCalled⟩ := phase?_eq_some.mp hPhase
      obtain rfl := Except.ok.inj hStep
      have hWritten := (h.calls x (List.mem_of_getElem? hAt)).called hCalled
      exact h.modifyCall hAt (sound_afterRead hWritten outcome s.file) rfl rfl
    · cases hStep
  | write i outcome =>
    simp only [San.step] at hStep
    split at hStep
    · rename_i stdout content hPhase
      obtain ⟨x, hAt, hEdited⟩ := phase?_eq_some.mp hPhase
      obtain rfl := Except.ok.inj hStep
      cases hReplaces : outcome.replaces with
      | true =>
        obtain rfl := hUndisturbed i outcome rfl hReplaces stdout content hPhase
        exact h.replace hAt hEdited hReplaces
      | false =>
        have hWritten := ((h.calls x (List.mem_of_getElem? hAt)).edited _ _ hEdited).2
        exact h.modifyCall hAt (sound_afterWrite x outcome) (hReplaces.trans hWritten.symm) rfl
    · cases hStep
  | reload i error =>
    simp only [San.step] at hStep
    split at hStep
    · rename_i hPhase
      obtain ⟨x, hAt, hReloading⟩ := phase?_eq_some.mp hPhase
      obtain rfl := Except.ok.inj hStep
      have hWritten := (h.calls x (List.mem_of_getElem? hAt)).reloading hReloading
      exact h.modifyCall hAt (sound_afterReload hWritten error) rfl rfl
    · cases hStep

theorem sound_start (file : Text) : San.Sound toLowerCase file { file } where
  calls := nofun
  serial := ⟨[], .refl _, .nil file⟩

/-- In a run whose requests replace the file only while it is the one they have read, no update is
lost in any state. -/
theorem noLostUpdate_of_undisturbed {steps : List Step}
    (h : Run (San.step toLowerCase) Undisturbed { file := file₀ } steps s) :
    s.NoLostUpdate toLowerCase file₀ := by
  have hSound := h.invariant (I := San.Sound toLowerCase file₀)
    (fun _ _ _ hUndisturbed hStep hSound => hSound.step hUndisturbed hStep) (sound_start file₀)
  exact ⟨hSound.serial, fun x hx => (hSound.calls x hx).acknowledged⟩

end

instance (step : Step) (s : San) : Decidable (Undisturbed step s) :=
  match step with
  | .write i outcome =>
    match hPhase : s.phase? i with
    | some (.edited stdout content) =>
      decidable_of_iff (outcome.replaces = true → stdout = s.file) <| by
        constructor
        · rintro h _ _ ⟨⟩ hReplaces _ _ hEdited
          obtain ⟨rfl, rfl⟩ := Phase.edited.inj (Option.some.inj (hPhase.symm.trans hEdited))
          exact h hReplaces
        · exact fun h hReplaces => h i outcome rfl hReplaces stdout content hPhase
    | none | some .called | some .reloading | some .acknowledged | some (.failed _) =>
      .isTrue (by rintro _ _ ⟨⟩ _ _ _ hEdited; rw [hPhase] at hEdited; cases hEdited)
  | .call _ | .read _ _ | .reload _ _ => .isTrue nofun

def oneTargetConf : Text :=
  "TARGET_DRIVER iscsi \x7b\n\tTARGET iqn.t \x7b\n\t\x7d\n\x7d\n".toList

/-- Two requests for one target. -/
def createGroups : List Step :=
  [.call (.createGroup "iqn.t".toList "a".toList), .call (.createGroup "iqn.t".toList "b".toList)]

def inTurn : List Step :=
  createGroups ++ [.read 0 .complete, .write 0 .replaced, .reload 0 none,
    .read 1 .complete, .write 1 .replaced, .reload 1 none]

def overlapping : List Step :=
  createGroups ++ [.read 0 .complete, .read 1 .complete, .write 0 .replaced, .write 1 .replaced,
    .reload 0 none, .reload 1 none]

/-- No update is lost when the second request is read after the first one was written. -/
theorem noLostUpdate_inTurn :
    ∃ s, Run (San.step id) Undisturbed { file := oneTargetConf } inTurn s ∧
      s.NoLostUpdate id oneTargetConf := by
  obtain ⟨s, hFold⟩ := exists_of_isOk
    (x := inTurn.foldlM (fun s step => if Undisturbed step s then San.step id step s else .error ())
      { file := oneTargetConf }) (by decide +kernel)
  have hRun := Run.of_foldlM _ hFold
  exact ⟨s, hRun, noLostUpdate_of_undisturbed hRun⟩

def San.isSerial (file₀ : Text) (s : San) : Bool :=
  s.writtenRequests.permutations'.any fun order =>
    (order.foldlM (fun file r => Request.run id r file) file₀).toOption = some s.file

/-- Both requests are acknowledged, and one of the groups is in the file no more. -/
theorem overlapping_loses_update :
    ∃ s, Run (San.step id) (fun _ _ => True) { file := oneTargetConf } overlapping s ∧
      (∀ x ∈ s.calls, x.phase = .acknowledged) ∧ ¬ s.NoLostUpdate id oneTargetConf := by
  obtain ⟨s, hFold⟩ := exists_of_isOk
    (x := overlapping.foldlM (fun s step => if True then San.step id step s else .error ())
      { file := oneTargetConf }) (by decide +kernel)
  have hChecked : (overlapping.foldlM
      (fun s step => if True then San.step id step s else .error ())
      ({ file := oneTargetConf } : San)).toOption.all (fun s =>
        s.calls.all (·.phase = .acknowledged) && !s.isSerial oneTargetConf) = true := by
    decide +kernel
  rw [hFold] at hChecked
  obtain ⟨hAll, hNot⟩ := Bool.and_eq_true_iff.mp hChecked
  refine ⟨s, Run.of_foldlM (fun _ _ => True) hFold, by simpa using hAll, ?_⟩
  rintro ⟨⟨order, hOrder, hSerial⟩, -⟩
  have hSome : s.isSerial oneTargetConf = true := by
    refine List.any_eq_true.mpr ⟨order, List.mem_permutations'.mpr hOrder, ?_⟩
    rw [hSerial.foldlM_eq]
    simp [Except.toOption]
  simp [hSome] at hNot

end EsosWebui.Scst
