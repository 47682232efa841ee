import EsosWebui.Cache.RequestKeys
import EsosWebui.Cache.TtlCache

/-! Calls that share one request as long as it runs: what the callers receive in whatever order
calls, ends of requests and clearings come. -/
namespace EsosWebui.Cache

open Js

/-- From the call of a function on: it is called, then its promise is awaited, then it is settled,
and last the table is cleaned up and the callers are told. -/
inductive FlightPhase (α : Type) where
  | starting
  | pending
  | settled (outcome : Except Text α)
  | done (outcome : Except Text α)

structure Flight (α : Type) where
  key : Text
  phase : FlightPhase α := .starting

/-- The table, with the functions that were started, those of them that are still to return their
promise (the innermost call first), and the function that each call was answered by. -/
structure SingleFlight (α : Type) where
  inFlight : Text → Option Nat := fun _ => none
  flights : List (Flight α) := []
  starting : List Nat := []
  calls : List (Text × Nat) := []

inductive FlightStep (α : Type) where
  | call (key : Text)
  /-- The function that is being called returns its promise. -/
  | returned
  | threw (error : Text)
  | settled (flight : Nat) (outcome : Except Text α)
  /-- The `finally` of a settled promise. -/
  | cleaned (flight : Nat)
  | clear (key : Option Text)

variable {α : Type}

namespace SingleFlight

variable (s : SingleFlight α)

def setPhase (i : Nat) (phase : FlightPhase α) : List (Flight α) :=
  s.flights.modify i fun flight => { flight with phase }

/-- `singleFlight`, up to the call of the function. -/
def call (key : Text) : SingleFlight α :=
  match s.inFlight key with
  | some i => { s with calls := s.calls ++ [(key, i)] }
  | none =>
    { s with
      flights := s.flights ++ [{ key }]
      starting := s.flights.length :: s.starting
      calls := s.calls ++ [(key, s.flights.length)] }

def clearSingleFlight (key : Option Text) : SingleFlight α :=
  { s with inFlight := fun other => if hits key other then none else s.inFlight other }

def step (x : FlightStep α) (s : SingleFlight α) : Except Unit (SingleFlight α) :=
  match x with
  | .call key => .ok (s.call key)
  | .returned =>
    match s.starting with
    | i :: starting =>
      match s.flights[i]? with
      | some flight =>
        .ok { s with
          inFlight := Function.update s.inFlight flight.key (some i)
          flights := s.setPhase i .pending
          starting }
      | none => .error ()
    | [] => .error ()
  | .threw error =>
    match s.starting with
    | i :: starting => .ok { s with flights := s.setPhase i (.done (.error error)), starting }
    | [] => .error ()
  | .settled i outcome =>
    match s.flights[i]? with
    | some ⟨_, .pending⟩ => .ok { s with flights := s.setPhase i (.settled outcome) }
    | _ => .error ()
  | .cleaned i =>
    match s.flights[i]? with
    | some ⟨key, .settled outcome⟩ =>
      .ok { s with
        inFlight := Function.update s.inFlight key none
        flights := s.setPhase i (.done outcome) }
    | _ => .error ()
  | .clear key => .ok (s.clearSingleFlight key)

def OwnResults : Prop :=
  ∀ call ∈ s.calls, ∃ flight, s.flights[call.2]? = some flight ∧ flight.key = call.1

/-- The function of this number was started for the key and is in the phase. -/
def At (i : Nat) (key : Text) (phase : FlightPhase α) : Prop := s.flights[i]? = some ⟨key, phase⟩

def Running (i : Nat) (key : Text) : Prop := s.At i key .starting ∨ s.At i key .pending

def OnePerKey : Prop := ∀ i j key, s.Running i key → s.Running j key → i = j

/-- A function of the key is being called. -/
def Starting (key : Text) : Prop := ∃ i ∈ s.starting, s.At i key .starting

/-- Nothing is cleared, and no function calls `singleFlight` for its own key before it has returned
its promise. -/
def Undisturbed (x : FlightStep α) (s : SingleFlight α) : Prop :=
  (∀ key, x ≠ .clear key) ∧ ∀ key, x = .call key → ¬ s.Starting key

end SingleFlight

def FlightPhase.InUse : FlightPhase α → Prop
  | .pending => True
  | .settled _ => True
  | _ => False

namespace SingleFlight

inductive Moves : FlightStep α → SingleFlight α → SingleFlight α → Prop
  | joined {s : SingleFlight α} {key : Text} {i : Nat} (hEntry : s.inFlight key = some i) :
      Moves (.call key) s { s with calls := s.calls ++ [(key, i)] }
  | started {s : SingleFlight α} {key : Text} (hNone : s.inFlight key = none) :
      Moves (.call key) s
        { s with
          flights := s.flights ++ [{ key }]
          starting := s.flights.length :: s.starting
          calls := s.calls ++ [(key, s.flights.length)] }
  | returned {s : SingleFlight α} {i : Nat} {starting : List Nat} {flight : Flight α}
      (hTop : s.starting = i :: starting) (hAt : s.flights[i]? = some flight) :
      Moves .returned s
        { s with
          inFlight := Function.update s.inFlight flight.key (some i)
          flights := s.setPhase i .pending
          starting }
  | threw {s : SingleFlight α} {i : Nat} {starting : List Nat} {error : Text}
      (hTop : s.starting = i :: starting) :
      Moves (.threw error) s { s with flights := s.setPhase i (.done (.error error)), starting }
  | settled {s : SingleFlight α} {i : Nat} {key : Text} {outcome : Except Text α}
      (hAt : s.flights[i]? = some ⟨key, .pending⟩) :
      Moves (.settled i outcome) s { s with flights := s.setPhase i (.settled outcome) }
  | cleaned {s : SingleFlight α} {i : Nat} {key : Text} {outcome : Except Text α}
      (hAt : s.flights[i]? = some ⟨key, .settled outcome⟩) :
      Moves (.cleaned i) s
        { s with
          inFlight := Function.update s.inFlight key none
          flights := s.setPhase i (.done outcome) }
  | cleared {s : SingleFlight α} {key : Option Text} :
      Moves (.clear key) s (s.clearSingleFlight key)

variable {x : FlightStep α} {s s' : SingleFlight α}

theorem moves_of_step (h : step x s = .ok s') : Moves x s s' := by
  cases x with
  | call key =>
    obtain rfl := Except.ok.inj h
    unfold call
    split
    · rename_i i hEntry
      exact .joined hEntry
    · rename_i hNone
      exact .started hNone
  | returned =>
    dsimp only [step] at h
    split at h
    · rename_i i starting hTop
      split at h
      · rename_i flight hAt
        obtain rfl := Except.ok.inj h
        exact .returned hTop hAt
      · cases h
    · cases h
  | threw error =>
    dsimp only [step] at h
    split at h
    · rename_i i starting hTop
      obtain rfl := Except.ok.inj h
      exact .threw hTop
    · cases h
  | settled i outcome =>
    dsimp only [step] at h
    split at h
    · rename_i key hAt
      obtain rfl := Except.ok.inj h
      exact .settled hAt
    · cases h
  | cleaned i =>
    dsimp only [step] at h
    split at h
    · rename_i key outcome hAt
      obtain rfl := Except.ok.inj h
      exact .cleaned hAt
    · cases h
  | clear key =>
    obtain rfl := Except.ok.inj h
    exact .cleared

variable {phase : FlightPhase α}

theorem getElem?_setPhase {s : SingleFlight α} {i j : Nat} :
    (s.setPhase i phase)[j]? =
      (s.flights[j]?).map fun flight => if i = j then { flight with phase } else flight := by
  rw [setPhase, List.getElem?_modify]
  rfl

def StartedFor (s : SingleFlight α) (i : Nat) (key : Text) : Prop :=
  ∃ flight, s.flights[i]? = some flight ∧ flight.key = key

variable {key : Text}

theorem Moves.startedFor (h : Moves x s s') {i : Nat} (hFor : s.StartedFor i key) :
    s'.StartedFor i key := by
  obtain ⟨flight, hAt, hKey⟩ := hFor
  have hPhase (j : Nat) (phase : FlightPhase α) :
      ∃ flight, (s.setPhase j phase)[i]? = some flight ∧ flight.key = key := by
    rw [getElem?_setPhase, hAt]
    refine ⟨_, rfl, ?_⟩
    dsimp only
    split
    · exact hKey
    · exact hKey
  cases h with
  | joined _ => exact ⟨flight, hAt, hKey⟩
  | started _ => exact ⟨flight, getElem?_concat_eq_some.mpr (Or.inl hAt), hKey⟩
  | returned _ _ => exact hPhase _ _
  | threw _ => exact hPhase _ _
  | settled _ => exact hPhase _ _
  | cleaned _ => exact hPhase _ _
  | cleared => exact ⟨flight, hAt, hKey⟩

structure OwnKeys (s : SingleFlight α) : Prop where
  entries : ∀ key i, s.inFlight key = some i → s.StartedFor i key
  calls : s.OwnResults

theorem OwnKeys.step (h : Moves x s s') (hOwn : OwnKeys s) : OwnKeys s' := by
  have hKept {key : Text} {i : Nat} (hFor : s.StartedFor i key) : s'.StartedFor i key :=
    h.startedFor hFor
  have hCalls : ∀ call ∈ s.calls, s'.StartedFor call.2 call.1 :=
    fun call hCall => hKept (hOwn.calls call hCall)
  have hUpdate {table : Text → Option Nat} {key : Text} {entry : Option Nat}
      (hTable : ∀ key i, table key = some i → s'.StartedFor i key)
      (hEntry : ∀ i, entry = some i → s'.StartedFor i key) :
      ∀ other i, Function.update table key entry other = some i → s'.StartedFor i other := by
    intro other i hSome
    by_cases hSame : other = key
    · subst hSame
      rw [Function.update_self] at hSome
      exact hEntry i hSome
    · rw [Function.update_of_ne hSame] at hSome
      exact hTable other i hSome
  have hTable : ∀ key i, s.inFlight key = some i → s'.StartedFor i key :=
    fun key i hSome => hKept (hOwn.entries key i hSome)
  cases h with
  | joined hEntry =>
    refine ⟨hTable, fun call hCall => ?_⟩
    rcases List.mem_append.mp hCall with hCall | hCall
    · exact hCalls call hCall
    · rw [List.mem_singleton.mp hCall]
      exact hOwn.entries _ _ hEntry
  | @started _ key _ =>
    refine ⟨hTable, fun call hCall => ?_⟩
    rcases List.mem_append.mp hCall with hCall | hCall
    · exact hCalls call hCall
    · rw [List.mem_singleton.mp hCall]
      exact ⟨_, getElem?_concat_eq_some.mpr (Or.inr ⟨rfl, rfl⟩), rfl⟩
  | @returned _ i starting flight hTop hAt =>
    refine ⟨hUpdate hTable fun j hj => ?_, hCalls⟩
    obtain rfl := Option.some.inj hj
    exact hKept ⟨flight, hAt, rfl⟩
  | threw _ => exact ⟨hTable, hCalls⟩
  | settled _ => exact ⟨hTable, hCalls⟩
  | cleaned _ =>
    refine ⟨hUpdate hTable fun j hj => ?_, hCalls⟩
    cases hj
  | cleared =>
    refine ⟨fun other i hSome => ?_, hCalls⟩
    dsimp only [clearSingleFlight] at hSome
    split at hSome
    · cases hSome
    · exact hTable other i hSome

/-- The promise is there, and nothing was cleaned up yet. -/
def InUse (s : SingleFlight α) (i : Nat) (key : Text) : Prop :=
  ∃ phase, s.At i key phase ∧ phase.InUse

structure Tidy (s : SingleFlight α) : Prop where
  starting_iff : ∀ i, i ∈ s.starting ↔ ∃ key, s.At i key .starting
  nodup : s.starting.Nodup
  absent : ∀ i key, s.At i key .starting → s.inFlight key = none
  apart : ∀ i j key, s.At i key .starting → s.At j key .starting → i = j
  inFlight_iff : ∀ i key, s.inFlight key = some i ↔ s.InUse i key

theorem tidy_empty : Tidy ({} : SingleFlight α) where
  starting_iff := by simp [At]
  nodup := List.nodup_nil
  absent := by simp [At]
  apart := by simp [At]
  inFlight_iff := by simp [InUse, At]

variable {s s' : SingleFlight α}

theorem Tidy.onePerKey (h : Tidy s) : s.OnePerKey := by
  have hStored {i : Nat} {key : Text} (hPending : s.At i key .pending) :
      s.inFlight key = some i := (h.inFlight_iff i key).mpr ⟨_, hPending, trivial⟩
  rintro i j key (hi | hi) (hj | hj)
  · exact h.apart i j key hi hj
  · cases (h.absent i key hi).symm.trans (hStored hj)
  · cases (h.absent j key hj).symm.trans (hStored hi)
  · exact Option.some.inj ((hStored hi).symm.trans (hStored hj))

theorem Tidy.not_onePerKey_call (h : Tidy s) (hStarting : s.Starting key) :
    ¬ (s.call key).OnePerKey := by
  obtain ⟨i, -, hAt⟩ := hStarting
  have hCall : s.call key = { s with
      flights := s.flights ++ [{ key }]
      starting := s.flights.length :: s.starting
      calls := s.calls ++ [(key, s.flights.length)] } := by
    unfold call
    rw [h.absent i key hAt]
  rw [hCall]
  intro hOne
  have hSame := hOne i s.flights.length key
    (Or.inl (getElem?_concat_eq_some.mpr (Or.inl hAt)))
    (Or.inl (getElem?_concat_eq_some.mpr (Or.inr ⟨rfl, rfl⟩)))
  have hLt := (List.getElem?_eq_some_iff.mp hAt).1
  omega

theorem At.unique {i : Nat} {key key' : Text} {phase phase' : FlightPhase α}
    (h : s.At i key phase) (h' : s.At i key' phase') : key = key' ∧ phase = phase' := by
  have hSame := Option.some.inj (h.symm.trans h')
  exact ⟨congrArg Flight.key hSame, congrArg Flight.phase hSame⟩

theorem At.lt_length {i : Nat} (h : s.At i key phase) :
    i < s.flights.length := (List.getElem?_eq_some_iff.mp h).1

section

variable {i j : Nat} {key other : Text} {phase next : FlightPhase α}

theorem at_setPhase_iff (hFlights : s'.flights = s.setPhase i next) (hAt : s.At i key phase)
    {later : FlightPhase α} :
    s'.At j other later ↔ (j = i ∧ other = key ∧ later = next) ∨ (j ≠ i ∧ s.At j other later) := by
  unfold At at hAt ⊢
  rw [hFlights, getElem?_setPhase]
  by_cases hSame : i = j
  · subst hSame
    rw [hAt]
    simp [eq_comm]
  · simp [hSame, Ne.symm hSame]

theorem inUse_setPhase_iff (hFlights : s'.flights = s.setPhase i next) (hAt : s.At i key phase) :
    s'.InUse j other ↔ (j = i ∧ other = key ∧ next.InUse) ∨ (j ≠ i ∧ s.InUse j other) := by
  simp only [InUse, at_setPhase_iff hFlights hAt]
  constructor
  · rintro ⟨later, ⟨hSame, hKey, rfl⟩ | ⟨hOther, hLater⟩, hUse⟩
    · exact Or.inl ⟨hSame, hKey, hUse⟩
    · exact Or.inr ⟨hOther, later, hLater, hUse⟩
  · rintro (⟨hSame, hKey, hUse⟩ | ⟨hOther, later, hLater, hUse⟩)
    · exact ⟨next, Or.inl ⟨hSame, hKey, rfl⟩, hUse⟩
    · exact ⟨later, Or.inr ⟨hOther, hLater⟩, hUse⟩

theorem at_start_iff (hFlights : s'.flights = s.flights ++ [⟨key, .starting⟩]) :
    s'.At j other phase ↔
      s.At j other phase ∨ (j = s.flights.length ∧ other = key ∧ phase = .starting) := by
  unfold At
  rw [hFlights, getElem?_concat_eq_some]
  simp [eq_comm]

end

theorem Tidy.started (h : Tidy s) (hNone : s.inFlight key = none) (hNot : ¬ s.Starting key)
    (hFlights : s'.flights = s.flights ++ [⟨key, .starting⟩])
    (hStarting : s'.starting = s.flights.length :: s.starting) (hTable : s'.inFlight = s.inFlight) :
    Tidy s' := by
  have hAbsent {i : Nat} (hAt : s.At i key .starting) : False :=
    hNot ⟨i, (h.starting_iff i).mpr ⟨key, hAt⟩, hAt⟩
  constructor
  · intro i
    simp only [hStarting, List.mem_cons, h.starting_iff, at_start_iff hFlights]
    constructor
    · rintro (rfl | ⟨other, hAt⟩)
      · exact ⟨key, Or.inr ⟨rfl, rfl, trivial⟩⟩
      · exact ⟨other, Or.inl hAt⟩
    · rintro ⟨other, hAt | ⟨hLast, -, -⟩⟩
      · exact Or.inr ⟨other, hAt⟩
      · exact Or.inl hLast
  · rw [hStarting]
    refine List.nodup_cons.mpr ⟨fun hMem => ?_, h.nodup⟩
    obtain ⟨other, hAt⟩ := (h.starting_iff _).mp hMem
    exact Nat.lt_irrefl _ hAt.lt_length
  · intro i other hAt
    rw [hTable]
    rcases (at_start_iff hFlights).mp hAt with hAt | ⟨-, rfl, -⟩
    · exact h.absent i other hAt
    · exact hNone
  · intro i j other hi hj
    rcases (at_start_iff hFlights).mp hi with hi | ⟨hi, rfl, -⟩
    · rcases (at_start_iff hFlights).mp hj with hj | ⟨-, rfl, -⟩
      · exact h.apart i j other hi hj
      · exact (hAbsent hi).elim
    · rcases (at_start_iff hFlights).mp hj with hj | ⟨hj, -, -⟩
      · exact (hAbsent hj).elim
      · exact hi.trans hj.symm
  · intro i other
    rw [hTable, h.inFlight_iff]
    simp only [InUse, at_start_iff hFlights]
    constructor
    · rintro ⟨phase, hAt, hUse⟩
      exact ⟨phase, Or.inl hAt, hUse⟩
    · rintro ⟨phase, hAt | ⟨-, -, rfl⟩, hUse⟩
      · exact ⟨phase, hAt, hUse⟩
      · exact hUse.elim

theorem inFlight_of_at (h : Tidy s) {i : Nat} {key other : Text} (hAt : s.At i key phase) :
    s.inFlight other = some i ↔ other = key ∧ phase.InUse := by
  rw [h.inFlight_iff]
  constructor
  · rintro ⟨later, hLater, hUse⟩
    obtain ⟨rfl, rfl⟩ := hLater.unique hAt
    exact ⟨rfl, hUse⟩
  · rintro ⟨rfl, hUse⟩
    exact ⟨phase, hAt, hUse⟩

theorem Tidy.setPhase (h : Tidy s) {i : Nat} {phase next : FlightPhase α} (hAt : s.At i key phase)
    (hFlights : s'.flights = s.setPhase i next) (hNext : next ≠ .starting)
    (hFrom : next.InUse → phase = .starting ∨ phase.InUse)
    (hStarting : ∀ j, j ∈ s'.starting ↔ j ≠ i ∧ j ∈ s.starting) (hNodup : s'.starting.Nodup)
    (hTable : ∀ other j, s'.inFlight other = some j ↔ (j = i ∧ other = key ∧ next.InUse) ∨
      (j ≠ i ∧ s.inFlight other = some j)) :
    Tidy s' := by
  have hStart (j : Nat) (other : Text) :
      s'.At j other .starting ↔ j ≠ i ∧ s.At j other .starting := by
    rw [at_setPhase_iff hFlights hAt]
    exact or_iff_right fun hSame => hNext hSame.2.2.symm
  constructor
  · intro j
    simp only [hStarting, hStart, h.starting_iff, exists_and_left]
  · exact hNodup
  · intro j other hj
    obtain ⟨hOther, hj⟩ := (hStart j other).mp hj
    have hNone := h.absent j other hj
    refine Option.eq_none_iff_forall_ne_some.mpr fun l hSome => ?_
    rcases (hTable other l).mp hSome with ⟨-, rfl, hUse⟩ | ⟨-, hSome⟩
    · rcases hFrom hUse with rfl | hUse
      · exact hOther (h.apart j i other hj hAt)
      · cases hNone.symm.trans ((inFlight_of_at h hAt).mpr ⟨rfl, hUse⟩)
    · cases hNone.symm.trans hSome
  · intro j l other hj hl
    exact h.apart j l other ((hStart j other).mp hj).2 ((hStart l other).mp hl).2
  · intro j other
    rw [hTable, inUse_setPhase_iff hFlights hAt, h.inFlight_iff]

theorem Tidy.step (hMoves : Moves x s s') (h : Tidy s) (hUndisturbed : Undisturbed x s) :
    Tidy s' := by
  have hTail {i : Nat} {starting : List Nat} (hTop : s.starting = i :: starting) :
      (∀ j, j ∈ starting ↔ j ≠ i ∧ j ∈ s.starting) ∧ starting.Nodup ∧
        ∃ key, s.At i key .starting := by
    have hNodup := h.nodup
    rw [hTop, List.nodup_cons] at hNodup
    refine ⟨fun j => ?_, hNodup.2, (h.starting_iff i).mp (hTop ▸ List.mem_cons_self)⟩
    rw [hTop, List.mem_cons]
    constructor
    · exact fun hMem => ⟨fun hSame => hNodup.1 (hSame ▸ hMem), Or.inr hMem⟩
    · exact fun hMem => hMem.2.resolve_left hMem.1
  have hOthers {i : Nat} {key : Text} {phase : FlightPhase α} (hAt : s.At i key phase)
      (hPhase : phase ≠ .starting) (j : Nat) : j ∈ s.starting ↔ j ≠ i ∧ j ∈ s.starting := by
    refine (and_iff_right_of_imp fun hMem hSame => ?_).symm
    obtain ⟨other, hStarts⟩ := (h.starting_iff j).mp hMem
    exact hPhase (hAt.unique (hSame ▸ hStarts)).2
  cases hMoves with
  | joined hEntry => exact ⟨h.starting_iff, h.nodup, h.absent, h.apart, h.inFlight_iff⟩
  | started hNone => exact h.started hNone (hUndisturbed.2 _ rfl) rfl rfl rfl
  | @returned _ i starting flight hTop hFound =>
    obtain ⟨hStarting, hNodup, key, hAt⟩ := hTail hTop
    obtain rfl : flight = ⟨key, .starting⟩ := Option.some.inj (hFound.symm.trans hAt)
    refine h.setPhase hAt rfl (by simp) (fun _ => Or.inl rfl) hStarting hNodup fun other j => ?_
    show Function.update s.inFlight key (some i) other = some j ↔ _
    by_cases hSame : other = key
    · subst hSame
      rw [Function.update_self, h.absent i other hAt]
      simp [FlightPhase.InUse, eq_comm]
    · have hNot : s.inFlight other ≠ some i :=
        fun hSome => hSame ((inFlight_of_at h hAt).mp hSome).1
      rw [Function.update_of_ne hSame]
      constructor
      · exact fun hSome => Or.inr ⟨fun hj => hNot (hj ▸ hSome), hSome⟩
      · rintro (⟨-, hKey, -⟩ | ⟨-, hSome⟩)
        · exact absurd hKey hSame
        · exact hSome
  | @threw _ i starting error hTop =>
    obtain ⟨hStarting, hNodup, key, hAt⟩ := hTail hTop
    refine h.setPhase hAt rfl (by simp) (fun _ => Or.inl rfl) hStarting hNodup fun other j => ?_
    have hNot : s.inFlight other ≠ some i :=
      fun hSome => ((inFlight_of_at h hAt).mp hSome).2
    constructor
    · exact fun hSome => Or.inr ⟨fun hj => hNot (hj ▸ hSome), hSome⟩
    · rintro (⟨-, -, hUse⟩ | ⟨-, hSome⟩)
      · exact hUse.elim
      · exact hSome
  | @settled _ i key outcome hAt =>
    refine h.setPhase hAt rfl (by simp) (fun _ => Or.inr trivial) (hOthers hAt (by simp)) h.nodup
      fun other j => ?_
    show s.inFlight other = some j ↔ _
    by_cases hj : j = i
    · rw [hj, inFlight_of_at h hAt]
      simp [FlightPhase.InUse]
    · simp [hj]
  | @cleaned _ i key outcome hAt =>
    refine h.setPhase hAt rfl (by simp) (fun hUse => hUse.elim) (hOthers hAt (by simp)) h.nodup
      fun other j => ?_
    show Function.update s.inFlight key none other = some j ↔ _
    have hEntry : s.inFlight key = some i := (inFlight_of_at h hAt).mpr ⟨rfl, trivial⟩
    by_cases hSame : other = key
    · subst hSame
      rw [Function.update_self, hEntry]
      simp [FlightPhase.InUse, eq_comm]
    · have hNot : s.inFlight other ≠ some i :=
        fun hSome => hSame ((inFlight_of_at h hAt).mp hSome).1
      rw [Function.update_of_ne hSame]
      constructor
      · exact fun hSome => Or.inr ⟨fun hj => hNot (hj ▸ hSome), hSome⟩
      · rintro (⟨-, hKey, -⟩ | ⟨-, hSome⟩)
        · exact absurd hKey hSame
        · exact hSome
  | @cleared _ key => exact absurd rfl (hUndisturbed.1 key)

end SingleFlight

open SingleFlight in
/-- Requests are kept apart by their keys exactly if no object is nested in their queries; callers
receive what was started for their key, and without clearings one function per key runs, unless a
function calls `singleFlight` for its own key while it is being called. -/
theorem requests_kept_apart (α : Type) (localeCompare : Text → Text → Ordering) :
    (∀ url query, KeyIsOwn localeCompare url query ↔ ∀ q, query = some q → q.Flat) ∧
    (∀ steps (s : SingleFlight α), Run step (fun _ _ => True) {} steps s → s.OwnResults) ∧
    ∀ steps (s : SingleFlight α), Run step Undisturbed {} steps s →
      s.OnePerKey ∧ ∀ key, s.Starting key → ¬ (s.call key).OnePerKey := by
  refine ⟨keyIsOwn_iff localeCompare, fun steps s hRun => ?_, fun steps s hRun => ?_⟩
  · have hEmpty : OwnKeys ({} : SingleFlight α) := ⟨by simp, by simp [OwnResults]⟩
    exact (hRun.invariant (fun _ _ _ _ hStep => OwnKeys.step (moves_of_step hStep)) hEmpty).calls
  · have hTidy : Tidy s := hRun.invariant
      (fun _ _ _ hAllowed hStep h => Tidy.step (moves_of_step hStep) h hAllowed) tidy_empty
    exact ⟨hTidy.onePerKey, fun key => hTidy.not_onePerKey_call⟩

open SingleFlight in
theorem requests_kept_apart_twoCalls :
    ∃ s : SingleFlight Nat,
      Run step Undisturbed {} [.call siteKey, .returned, .call siteKey] s ∧ s.OnePerKey := by
  have hFirst : Undisturbed (.call siteKey) ({} : SingleFlight Nat) :=
    ⟨by simp, fun key _ => by simp [Starting]⟩
  have hRun : Run step Undisturbed ({} : SingleFlight Nat)
      [.call siteKey, .returned, .call siteKey] _ :=
    .cons hFirst rfl (.cons ⟨by simp, by simp⟩ rfl (.cons ⟨by simp, fun key _ => by
      simp [Starting]⟩ rfl (.nil _)))
  exact ⟨_, hRun, ((requests_kept_apart Nat fun _ _ => .eq).2.2 _ _ hRun).1⟩

/-- The sites are not in the key. -/
theorem nested_queries_share_key :
    ¬ ∀ localeCompare url query, KeyIsOwn localeCompare url query := by
  intro h
  have hKey : singleFlightKey (fun _ _ => .eq) "/api/backups".toList (some (filterQuery ['a'])) =
      singleFlightKey (fun _ _ => .eq) "/api/backups".toList (some (filterQuery ['b'])) := by
    refine Query.singleFlightKey_eq_iff.mpr ⟨rfl, congrArg some ?_⟩
    rw [printed_filterQuery, printed_filterQuery]
  obtain ⟨-, hSame⟩ := h _ _ _ _ _ hKey
  cases hSame with
  | some hSame =>
    have hSites := sameJson_of_singleton (sameJson_of_singleton hSame)
    cases hSites

end EsosWebui.Cache
