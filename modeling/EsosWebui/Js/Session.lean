import EsosWebui.Js.Strings
import EsosWebui.Js.Throw

/-! Scripts that send commands to a shell one after the other. A script that fails has sent what
it sent up to there, so a plan of its commands is followed up to some point. -/
namespace Js

/-- What a command prints, and its exit code. -/
structure Answer where
  code : Int
  stdout : Text := []
  stderr : Text := []

/-- The answer to a command after those that were sent before, unless the sending fails. -/
abbrev Shell := List Text → Text → Except Text Answer

/-- From the commands sent so far to a result, or a failure, and all commands sent then. -/
def Session (α : Type) := List Text → Except Text α × List Text

instance : Monad Session where
  pure a := fun sent => (.ok a, sent)
  bind m f := fun sent =>
    match m sent with
    | (.ok a, sent) => f a sent
    | (.error e, sent) => (.error e, sent)

namespace Session

variable {α β : Type}

def send (shell : Shell) (command : Text) : Session Answer :=
  fun sent => (shell sent command, sent ++ [command])

/-- A computation that sends nothing. -/
def ofExcept (x : Except Text α) : Session α := fun sent => (x, sent)

/-- The commands that a script sends from the start. -/
def sentBy (m : Session α) : List Text := (m []).2

def succeeds (m : Session α) : Bool := (m []).1.isOk

/-- Among the commands that a script sends, those of a kind are the planned ones up to the point
where it fails, and all of them when it does not. -/
def Sends (kind : Text → Bool) (m : Session α) (planned : List Text) : Prop :=
  ∀ sent, ∃ new, (m sent).2 = sent ++ new ∧ new.filter kind <+: planned ∧
    ((m sent).1.isOk = true → new.filter kind = planned)

/-- The command is the first that a script sends. -/
def Opens (m : Session α) (command : Text) : Prop := ∀ sent, sent ++ [command] <+: (m sent).2

variable {kind : Text → Bool} {m : Session α} {f : α → Session β} {p q : List Text}

theorem bind_of_ok {sent sent' : List Text} {a : α} (h : m sent = (.ok a, sent')) :
    (m >>= f) sent = f a sent' := by
  show (match m sent with | (.ok a, sent) => f a sent | (.error e, sent) => (.error e, sent)) = _
  rw [h]

theorem bind_of_error {sent sent' : List Text} {e : Text} (h : m sent = (.error e, sent')) :
    (m >>= f) sent = (.error e, sent') := by
  show (match m sent with | (.ok a, sent) => f a sent | (.error e, sent) => (.error e, sent)) = _
  rw [h]

theorem send_of_ok {shell : Shell} {command : Text} {sent : List Text} {f : Answer → Session β}
    {a : Answer} (h : shell sent command = .ok a) :
    (send shell command >>= f) sent = f a (sent ++ [command]) := bind_of_ok (Prod.ext h rfl)

theorem send_of_error {shell : Shell} {command e : Text} {sent : List Text} {f : Answer → Session β}
    (h : shell sent command = .error e) :
    (send shell command >>= f) sent = (.error e, sent ++ [command]) :=
  bind_of_error (Prod.ext h rfl)

theorem sends_pure (a : α) : Sends kind (pure a) [] := by
  intro sent
  exact ⟨[], (List.append_nil sent).symm, List.nil_prefix, fun _ => rfl⟩

theorem sends_ofExcept (x : Except Text α) : Sends kind (ofExcept x) [] := by
  intro sent
  exact ⟨[], (List.append_nil sent).symm, List.nil_prefix, fun _ => rfl⟩

theorem sends_send (shell : Shell) (command : Text) :
    Sends kind (send shell command) ([command].filter kind) := by
  intro sent
  exact ⟨[command], rfl, List.prefix_rfl, fun _ => rfl⟩

theorem sends_bind (hm : Sends kind m p) (hf : ∀ a, Sends kind (f a) q) :
    Sends kind (m >>= f) (p ++ q) := by
  intro sent
  obtain ⟨new, hSent, hPrefix, hAll⟩ := hm sent
  cases hRun : m sent with
  | mk result sent' =>
    rw [hRun] at hSent hAll
    obtain rfl : sent' = sent ++ new := hSent
    cases result with
    | error e =>
      rw [bind_of_error hRun]
      exact ⟨new, rfl, hPrefix.trans (List.prefix_append p q), fun h => nomatch h⟩
    | ok a =>
      have hPlanned : new.filter kind = p := hAll rfl
      obtain ⟨more, hMore, hMorePrefix, hMoreAll⟩ := hf a (sent ++ new)
      rw [bind_of_ok hRun]
      refine ⟨new ++ more, by rw [hMore, List.append_assoc], ?_, fun hOk => ?_⟩
      · rw [List.filter_append, hPlanned]
        exact (List.prefix_append_right_inj p).mpr hMorePrefix
      · rw [List.filter_append, hPlanned, hMoreAll hOk]

theorem sends_ofExcept_bind {x : Except Text α} (hf : ∀ a, x = .ok a → Sends kind (f a) q) :
    Sends kind (ofExcept x >>= f) q := by
  cases x with
  | error e =>
    intro sent
    rw [bind_of_error (show ofExcept (.error e) sent = (.error e, sent) from rfl)]
    exact ⟨[], (List.append_nil sent).symm, List.nil_prefix, fun h => nomatch h⟩
  | ok a =>
    intro sent
    rw [bind_of_ok (show ofExcept (.ok a) sent = (.ok a, sent) from rfl)]
    exact hf a rfl sent

theorem opens_send (shell : Shell) (command : Text) : Opens (send shell command) command :=
  fun _ => List.prefix_rfl

theorem opens_bind {command : Text} (hm : Opens m command) (hf : ∀ a, Sends kind (f a) q) :
    Opens (m >>= f) command := by
  intro sent
  cases hRun : m sent with
  | mk result sent' =>
    have hFirst : sent ++ [command] <+: sent' := by simpa [hRun] using hm sent
    cases result with
    | error e => rwa [bind_of_error hRun]
    | ok a =>
      obtain ⟨more, hMore, -⟩ := hf a sent'
      rw [bind_of_ok hRun, hMore]
      exact hFirst.trans (List.prefix_append _ _)

theorem sentBy_prefix (h : Sends kind m p) : (sentBy m).filter kind <+: p := by
  obtain ⟨new, hSent, hPrefix, -⟩ := h []
  rw [sentBy, hSent]
  exact hPrefix

theorem sentBy_eq (h : Sends kind m p) (hOk : succeeds m) : (sentBy m).filter kind = p := by
  obtain ⟨new, hSent, -, hAll⟩ := h []
  rw [sentBy, hSent]
  exact hAll hOk

theorem head?_sentBy {command : Text} (h : Opens m command) (hKind : kind command) :
    ((sentBy m).filter kind).head? = some command := by
  obtain ⟨rest, hRest⟩ := h []
  rw [sentBy, ← hRest, List.nil_append, List.singleton_append, List.filter_cons_of_pos hKind]
  rfl

end Session

structure Traced (ω ε α : Type) where
  log : List ω
  result : Except ε α

namespace Traced

variable {ω ε α β : Type}

def bind (p : Traced ω ε α) (f : α → Traced ω ε β) : Traced ω ε β :=
  match p.result with
  | .ok a => { log := p.log ++ (f a).log, result := (f a).result }
  | .error e => { log := p.log, result := .error e }

instance : Monad (Traced ω ε) where
  pure a := { log := [], result := .ok a }
  bind := bind

/-- Code that sends nothing. -/
def quiet (x : Except ε α) : Traced ω ε α := { log := [], result := x }

def send (sent : List ω) : Traced ω ε Unit := { log := sent, result := .ok () }

/-- The same code, with other names for what it sends. -/
def mapLog {ω' : Type} (f : ω → ω') (p : Traced ω ε α) : Traced ω' ε α :=
  { log := p.log.map f, result := p.result }

/-- The same code, with what it throws changed. -/
def mapError {ε' : Type} (f : ε → ε') (p : Traced ω ε α) : Traced ω ε' α :=
  { log := p.log, result := p.result.mapError f }

variable {p : Traced ω ε α} {f : α → Traced ω ε β} {x : Except ε α} {o : ω}

theorem mem_log_bind :
    o ∈ (p >>= f).log ↔ o ∈ p.log ∨ ∃ a, p.result = .ok a ∧ o ∈ (f a).log := by
  show o ∈ (bind p f).log ↔ _
  unfold bind
  cases hResult : p.result with
  | ok a => simp
  | error e => simp

@[simp] theorem result_bind : (p >>= f).result = p.result >>= fun a => (f a).result := by
  show (bind p f).result = _
  unfold bind
  cases p.result with
  | ok a => rfl
  | error e => rfl

@[simp] theorem log_quiet : (quiet x : Traced ω ε α).log = [] := rfl

@[simp] theorem result_quiet : (quiet x : Traced ω ε α).result = x := rfl

@[simp] theorem log_send {sent : List ω} : (send sent : Traced ω ε Unit).log = sent := rfl

@[simp] theorem log_pure {a : α} : (pure a : Traced ω ε α).log = [] := rfl

@[simp] theorem result_pure {a : α} : (pure a : Traced ω ε α).result = .ok a := rfl

@[simp] theorem log_mapLog {ω' : Type} {g : ω → ω'} : (p.mapLog g).log = p.log.map g := rfl

@[simp] theorem result_mapLog {ω' : Type} {g : ω → ω'} : (p.mapLog g).result = p.result := rfl

@[simp] theorem log_mapError {ε' : Type} {g : ε → ε'} : (p.mapError g).log = p.log := rfl

@[simp] theorem quiet_ok_bind {a : α} : (quiet (.ok a) >>= f) = f a := by
  show bind _ f = _
  simp [bind, quiet]

@[simp] theorem quiet_error_bind {e : ε} : (quiet (.error e) >>= f) = quiet (.error e) := rfl

@[simp] theorem log_send_bind {sent : List ω} {f : Unit → Traced ω ε β} :
    (send sent >>= f).log = sent ++ (f ()).log := rfl

@[simp] theorem result_send_bind {sent : List ω} {f : Unit → Traced ω ε β} :
    (send sent >>= f).result = (f ()).result := rfl

/-- What follows a check is sent only if the check passes. -/
@[simp] theorem mem_log_quiet_bind :
    o ∈ (quiet x >>= f).log ↔ ∃ a, x = .ok a ∧ o ∈ (f a).log := by
  rw [mem_log_bind, log_quiet, result_quiet]
  simp

theorem log_bind_pure {g : α → β} : (p >>= fun a => pure (g a)).log = p.log := by
  show (bind p _).log = p.log
  unfold bind
  cases p.result with
  | ok a => simp
  | error e => rfl

theorem exists_of_mem_log_forM {l : List α} {f : α → Traced ω ε PUnit}
    (h : o ∈ (forM l f).log) : ∃ a ∈ l, o ∈ (f a).log := by
  induction l with
  | nil => cases h
  | cons a l ih =>
    rw [List.forM_cons, mem_log_bind] at h
    rcases h with hHead | ⟨_, -, hRest⟩
    · exact ⟨a, List.mem_cons_self, hHead⟩
    · obtain ⟨b, hMem, hSent⟩ := ih hRest
      exact ⟨b, List.mem_cons_of_mem _ hMem, hSent⟩

theorem bind_pure_self (p : Traced ω ε α) : bind p pure = p := by
  obtain ⟨log, result⟩ := p
  cases result with
  | ok a => simp [bind, pure]
  | error e => rfl

theorem pure_bind_apply (a : α) (f : α → Traced ω ε β) : bind (pure a) f = f a := by
  simp [bind, pure]

theorem bind_bind {γ : Type} (p : Traced ω ε α) (f : α → Traced ω ε β)
    (g : β → Traced ω ε γ) : bind (bind p f) g = bind p fun a => bind (f a) g := by
  obtain ⟨log, result⟩ := p
  cases result with
  | error e => rfl
  | ok a =>
    simp only [bind]
    cases (f a).result with
    | ok b => simp
    | error e => simp

instance : LawfulMonad (Traced ω ε) :=
  LawfulMonad.mk' _ bind_pure_self pure_bind_apply bind_bind

theorem exists_of_mem_log_mapM {l : List α} {f : α → Traced ω ε β}
    (h : o ∈ (l.mapM f).log) : ∃ a ∈ l, o ∈ (f a).log := by
  induction l with
  | nil => cases h
  | cons a l ih =>
    rw [List.mapM_cons, mem_log_bind] at h
    rcases h with hHead | ⟨_, -, hRest⟩
    · exact ⟨a, List.mem_cons_self, hHead⟩
    · rw [log_bind_pure] at hRest
      obtain ⟨b, hMem, hSent⟩ := ih hRest
      exact ⟨b, List.mem_cons_of_mem _ hMem, hSent⟩

/-- A loop whose steps send more than those of another one, as told by what these send. -/
theorem log_forM_flatMap {ω' : Type} {l : List α} {f : α → Traced ω ε PUnit}
    {g : α → Traced ω' ε PUnit} {expand : ω' → List ω}
    (hLog : ∀ a, (f a).log = (g a).log.flatMap expand)
    (hResult : ∀ a, (f a).result = (g a).result) :
    (forM l f).log = (forM l g).log.flatMap expand := by
  induction l with
  | nil => rfl
  | cons a l ih =>
    rw [List.forM_cons, List.forM_cons]
    show (bind (f a) _).log = (bind (g a) _).log.flatMap expand
    unfold bind
    rw [hResult a]
    cases (g a).result with
    | ok u =>
      show (f a).log ++ _ = ((g a).log ++ _).flatMap expand
      rw [List.flatMap_append, hLog, ih]
    | error e => exact hLog a

/-- A loop sends something exactly if it does so for an element before which nothing throws. -/
theorem exists_log_forM_iff {l : List α} {f : α → Traced ω ε PUnit} :
    (∃ o, o ∈ (forM l f).log) ↔ ∃ before a after, l = before ++ a :: after ∧
      (∀ b ∈ before, ∃ u, (f b).result = .ok u) ∧ ∃ o, o ∈ (f a).log := by
  induction l with
  | nil =>
    constructor
    · rintro ⟨o, h⟩
      cases h
    · rintro ⟨before, a, after, hSplit, -⟩
      cases before <;> cases hSplit
  | cons a l ih =>
    simp only [List.forM_cons, mem_log_bind]
    constructor
    · rintro ⟨o, hHead | ⟨u, hOk, hRest⟩⟩
      · exact ⟨[], a, l, rfl, nofun, o, hHead⟩
      · obtain ⟨before, b, after, rfl, hBefore, hSent⟩ := ih.mp ⟨o, hRest⟩
        exact ⟨a :: before, b, after, rfl,
          List.forall_mem_cons.mpr ⟨⟨u, hOk⟩, hBefore⟩, hSent⟩
    · rintro ⟨before, b, after, hSplit, hBefore, o, hSent⟩
      cases before with
      | nil =>
        obtain ⟨rfl, rfl⟩ := List.cons.inj hSplit
        exact ⟨o, Or.inl hSent⟩
      | cons first before =>
        obtain ⟨rfl, rfl⟩ := List.cons.inj hSplit
        obtain ⟨⟨u, hOk⟩, hBefore⟩ := List.forall_mem_cons.mp hBefore
        obtain ⟨o, hRest⟩ := ih.mpr ⟨before, b, after, rfl, hBefore, o, hSent⟩
        exact ⟨o, Or.inr ⟨u, hOk, hRest⟩⟩

end Traced

end Js
