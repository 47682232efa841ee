import EsosWebui.Js.Run

/-! Code that awaits, over a state that it shares with others: what runs between two awaits is one
turn, and other requests may have their turns in between. -/
namespace Js

/-- What is left to run: a turn writes the state and goes on with what it read there. -/
inductive Async (σ ε α : Type) where
  | done (a : α)
  | failed (e : ε)
  | turn (write : σ → σ) (next : σ → Async σ ε α)

namespace Async

variable {σ ε α β : Type}

def bind (p : Async σ ε α) (f : α → Async σ ε β) : Async σ ε β :=
  match p with
  | done a => f a
  | failed e => failed e
  | turn write next => turn write fun s => bind (next s) f

instance : Monad (Async σ ε) where
  pure := done
  bind := bind

/-- `try { p } catch (e) { handler(e) }` -/
def catching (p : Async σ ε α) (handler : ε → Async σ ε α) : Async σ ε α :=
  match p with
  | done a => done a
  | failed e => handler e
  | turn write next => turn write fun s => catching (next s) handler

/-- One turn, which may throw after what it has written. -/
def atomic (f : σ → σ × Except ε α) : Async σ ε α :=
  turn (fun s => (f s).1) fun s =>
    match (f s).2 with
    | .ok a => done a
    | .error e => failed e

/-- `await read()` -/
def read (f : σ → α) : Async σ ε α := turn id fun s => done (f s)

/-- `await write()` -/
def modify (f : σ → σ) : Async σ ε Unit := turn f fun _ => done ()

/-- Run to its end, with nothing in between. -/
def run (p : Async σ ε α) (s : σ) : σ × Except ε α :=
  match p with
  | done a => (s, .ok a)
  | failed e => (s, .error e)
  | turn write next => run (next s) (write s)

section

variable {p : Async σ ε α} {s s' : σ}

theorem run_bind_eq_ok {f : α → Async σ ε β} {b : β} :
    (p >>= f).run s = (s', .ok b) ↔
      ∃ s₁ a, p.run s = (s₁, .ok a) ∧ (f a).run s₁ = (s', .ok b) := by
  induction p generalizing s with
  | done a =>
    show (f a).run s = (s', .ok b) ↔ ∃ s₁ a', (s, .ok a) = (s₁, Except.ok a') ∧ _
    simp
  | failed e =>
    show (s, Except.error e) = (s', .ok b) ↔ ∃ s₁ a', (s, .error e) = (s₁, Except.ok a') ∧ _
    simp
  | turn write next ih => exact ih s

@[simp] theorem run_pure {a : α} : (pure a : Async σ ε α).run s = (s, .ok a) := rfl

theorem run_read_bind {f : σ → α} {g : α → Async σ ε β} :
    (read f >>= g).run s = (g (f s)).run s := rfl

@[simp] theorem run_atomic {f : σ → σ × Except ε α} : (atomic f).run s = f s := by
  show (match (f s).2 with
    | .ok a => Async.done a
    | .error e => Async.failed e).run (f s).1 = f s
  obtain ⟨t, r⟩ := f s
  cases r <;> rfl

end

/-- Every turn relates the state it finds to the one it leaves. -/
inductive Always (R : σ → σ → Prop) : Async σ ε α → Prop
  | done (a : α) : Always R (done a)
  | failed (e : ε) : Always R (failed e)
  | turn {write : σ → σ} {next : σ → Async σ ε α} (hWrite : ∀ s, R s (write s))
      (hNext : ∀ s, Always R (next s)) : Always R (turn write next)

variable {R : σ → σ → Prop} {p : Async σ ε α}

theorem Always.bind {f : α → Async σ ε β} (h : Always R p) (hf : ∀ a, Always R (f a)) :
    Always R (p >>= f) := by
  induction h with
  | done a => exact hf a
  | failed e => exact .failed e
  | turn hWrite _ ih => exact .turn hWrite ih

theorem Always.mono {R' : σ → σ → Prop} (h : Always R p) (hSub : ∀ s s', R s s' → R' s s') :
    Always R' p := by
  induction h with
  | done a => exact .done a
  | failed e => exact .failed e
  | turn hWrite _ ih => exact .turn (fun s => hSub _ _ (hWrite s)) ih

theorem Always.catching {handler : ε → Async σ ε α} (h : Always R p)
    (hHandler : ∀ e, Always R (handler e)) : Always R (p.catching handler) := by
  induction h with
  | done a => exact .done a
  | failed e => exact hHandler e
  | turn hWrite _ ih => exact .turn hWrite ih

theorem always_atomic {f : σ → σ × Except ε α} (h : ∀ s, R s (f s).1) :
    Always R (atomic f) := by
  refine .turn h fun s => ?_
  split
  · exact .done _
  · exact .failed _

theorem always_read {f : σ → α} (hRefl : ∀ s, R s s) : Always R (read f : Async σ ε α) :=
  .turn hRefl fun _ => .done _

theorem always_modify {f : σ → σ} (h : ∀ s, R s (f s)) : Always R (modify f : Async σ ε Unit) :=
  .turn h fun _ => .done _

/-- Every turn keeps `I` as long as others change nothing of what is seen of the state. -/
inductive Keeps {κ : Type} (seen : σ → κ) (I : σ → Prop) : Async σ ε α → σ → Prop
  | done (a : α) (s : σ) : Keeps seen I (done a) s
  | failed (e : ε) (s : σ) : Keeps seen I (failed e) s
  | turn {write : σ → σ} {next : σ → Async σ ε α} {s : σ}
      (hWrite : ∀ s', seen s' = seen s → I s' → I (write s'))
      (hNext : ∀ s', seen s' = seen s → I s' → Keeps seen I (next s') (write s')) :
      Keeps seen I (turn write next) s

variable {κ : Type} {seen : σ → κ} {I : σ → Prop} {s s' : σ}

theorem Keeps.congr (h : Keeps seen I p s) (hSame : seen s' = seen s) : Keeps seen I p s' := by
  cases h with
  | done a => exact .done a s'
  | failed e => exact .failed e s'
  | turn hWrite hNext =>
    exact .turn (fun t ht => hWrite t (ht.trans hSame)) fun t ht => hNext t (ht.trans hSame)

theorem keeps_read {f : σ → β} {k : β → Async σ ε α}
    (h : ∀ s', seen s' = seen s → I s' → Keeps seen I (k (f s')) s') :
    Keeps seen I (read f >>= k) s :=
  .turn (fun _ _ hs => hs) h

theorem keeps_modify {f : σ → σ} {k : Unit → Async σ ε α}
    (hWrite : ∀ s', seen s' = seen s → I s' → I (f s'))
    (hNext : ∀ s', seen s' = seen s → I s' → Keeps seen I (k ()) (f s')) :
    Keeps seen I (modify f >>= k) s :=
  .turn hWrite hNext

end Async

/-- A request with what is left of it. It is overtaken once another request has changed what
it may have seen. -/
structure Process (ρ σ ε α : Type) where
  request : ρ
  rest : Async σ ε α
  overtaken : Bool := false

structure Processes (ρ σ ε α : Type) where
  state : σ
  running : List (Process ρ σ ε α)

/-- What happens next: a request comes in, or one of those that run has its turn. -/
inductive Event (ρ : Type) where
  | request (r : ρ)
  | turn (i : Nat)

namespace Processes

variable {ρ σ ε α κ : Type} [DecidableEq κ]

def takeTurn (seen : σ → κ) (i : Nat) (write : σ → σ) (rest : Async σ ε α)
    (c : Processes ρ σ ε α) : Processes ρ σ ε α :=
  let written := write c.state
  { state := written
    running := c.running.mapIdx fun j p =>
      if j = i then { p with rest }
      else if seen written = seen c.state then p
      else { p with overtaken := true } }

def next? (c : Processes ρ σ ε α) (i : Nat) : Option (Process ρ σ ε α × (σ → σ) × Async σ ε α) :=
  match c.running[i]? with
  | some p =>
    match p.rest with
    | .turn write next => some (p, write, next c.state)
    | _ => none
  | none => none

def step (program : ρ → Async σ ε α) (seen : σ → κ) (x : Event ρ) (c : Processes ρ σ ε α) :
    Except Unit (Processes ρ σ ε α) :=
  match x with
  | .request r => .ok { c with running := c.running ++ [{ request := r, rest := program r }] }
  | .turn i =>
    match c.next? i with
    | some (_, write, rest) => .ok (c.takeTurn seen i write rest)
    | none => .error ()

/-- A turn that nothing else speaks for does not lose `I`: one of a request that is neither safe
nor guarded, or of a guarded one that was overtaken. -/
def NotLost (I : σ → Prop) (safe guarded : ρ → Prop) (x : Event ρ) (c : Processes ρ σ ε α) : Prop :=
  ∀ i p write rest, x = .turn i → c.next? i = some (p, write, rest) → ¬ safe p.request →
    (guarded p.request → p.overtaken = true) → I c.state → I (write c.state)

section

variable {program : ρ → Async σ ε α} {seen : σ → κ} {I : σ → Prop} {safe guarded : ρ → Prop}
  {c c' : Processes ρ σ ε α}

/-- The state has `I`, and what is left of the requests keeps it. -/
structure Kept (seen : σ → κ) (I : σ → Prop) (safe guarded : ρ → Prop)
    (c : Processes ρ σ ε α) : Prop where
  state : I c.state
  safe : ∀ p ∈ c.running, safe p.request → p.rest.Always fun s s' => I s → I s'
  guarded : ∀ p ∈ c.running, guarded p.request → p.overtaken = false → p.rest.Keeps seen I c.state

omit [DecidableEq κ] in
theorem next?_eq_some {i : Nat} {p : Process ρ σ ε α} {write : σ → σ} {rest : Async σ ε α} :
    c.next? i = some (p, write, rest) ↔
      c.running[i]? = some p ∧ ∃ next, p.rest = .turn write next ∧ rest = next c.state := by
  unfold next?
  constructor
  · intro h
    split at h
    · rename_i q hAt
      split at h
      · rename_i w next hRest
        cases h
        exact ⟨hAt, next, hRest, rfl⟩
      · cases h
    · cases h
  · rintro ⟨hAt, next, hRest, rfl⟩
    rw [hAt]
    dsimp only
    rw [hRest]

theorem mem_takeTurn {i : Nat} {p q : Process ρ σ ε α} {write : σ → σ} {rest : Async σ ε α}
    (hAt : c.running[i]? = some p) (hq : q ∈ (c.takeTurn seen i write rest).running) :
    q = { p with rest } ∨ (q ∈ c.running ∧ seen (write c.state) = seen c.state) ∨
      ∃ q' ∈ c.running, q = { q' with overtaken := true } := by
  obtain ⟨j, hj, rfl⟩ := List.mem_mapIdx.mp hq
  have hGet : c.running[j]? = some c.running[j] := List.getElem?_eq_getElem hj
  by_cases hSame : j = i
  · left
    subst hSame
    rw [if_pos rfl, Option.some.inj (hGet.symm.trans hAt)]
  · rw [if_neg hSame]
    by_cases hSeen : seen (write c.state) = seen c.state
    · rw [if_pos hSeen]
      exact Or.inr (Or.inl ⟨List.getElem_mem hj, hSeen⟩)
    · rw [if_neg hSeen]
      exact Or.inr (Or.inr ⟨_, List.getElem_mem hj, rfl⟩)

omit [DecidableEq κ] in
theorem Kept.request (h : Kept seen I safe guarded c) (r : ρ)
    (hSafe : safe r → (program r).Always fun s s' => I s → I s')
    (hGuarded : guarded r → ∀ s, (program r).Keeps seen I s) :
    Kept seen I safe guarded { c with running := c.running ++ [⟨r, program r, false⟩] } where
  state := h.state
  safe := by
    intro p hp hRequest
    rcases List.mem_append.mp hp with hOld | hNew
    · exact h.safe p hOld hRequest
    · obtain rfl := List.mem_singleton.mp hNew
      exact hSafe hRequest
  guarded := by
    intro p hp hRequest hNot
    rcases List.mem_append.mp hp with hOld | hNew
    · exact h.guarded p hOld hRequest hNot
    · obtain rfl := List.mem_singleton.mp hNew
      exact hGuarded hRequest _

theorem Kept.takeTurn (h : Kept seen I safe guarded c) {i : Nat} {p : Process ρ σ ε α}
    {write : σ → σ} {rest : Async σ ε α} (hNext : c.next? i = some (p, write, rest))
    (hNotLost : NotLost I safe guarded (.turn i) c) :
    Kept seen I safe guarded (c.takeTurn seen i write rest) := by
  obtain ⟨hAt, next, hRest, rfl⟩ := next?_eq_some.mp hNext
  have hMem : p ∈ c.running := List.mem_of_getElem? hAt
  have hState : I (write c.state) := by
    by_cases hSafe : safe p.request
    · have hAlways := h.safe p hMem hSafe
      rw [hRest] at hAlways
      cases hAlways with
      | turn hWrite _ => exact hWrite c.state h.state
    · by_cases hGuarded : guarded p.request ∧ p.overtaken = false
      · have hKeeps := h.guarded p hMem hGuarded.1 hGuarded.2
        rw [hRest] at hKeeps
        cases hKeeps with
        | turn hWrite _ => exact hWrite c.state rfl h.state
      · refine hNotLost i p write _ rfl hNext hSafe (fun hRequest => ?_) h.state
        cases hOvertaken : p.overtaken with
        | true => rfl
        | false => exact absurd ⟨hRequest, hOvertaken⟩ hGuarded
  refine ⟨hState, ?_, ?_⟩
  · intro q hq hSafe
    rcases mem_takeTurn hAt hq with rfl | ⟨hOld, -⟩ | ⟨q', hOld, rfl⟩
    · have hAlways := h.safe p hMem hSafe
      rw [hRest] at hAlways
      cases hAlways with
      | turn _ hNext => exact hNext c.state
    · exact h.safe q hOld hSafe
    · exact h.safe q' hOld hSafe
  · intro q hq hGuarded hNot
    rcases mem_takeTurn hAt hq with rfl | ⟨hOld, hSeen⟩ | ⟨q', hOld, rfl⟩
    · have hKeeps := h.guarded p hMem hGuarded hNot
      rw [hRest] at hKeeps
      cases hKeeps with
      | turn _ hNext => exact hNext c.state rfl h.state
    · exact (h.guarded q hOld hGuarded hNot).congr hSeen
    · cases hNot

end

/-- Every state of a run has `I` that no unguarded turn loses it: safe requests keep it in every
turn, and guarded ones as long as they are not overtaken. -/
theorem keeps_run {program : ρ → Async σ ε α} {seen : σ → κ} {I : σ → Prop}
    {safe guarded : ρ → Prop} (hSafe : ∀ r, safe r → (program r).Always fun s s' => I s → I s')
    (hGuarded : ∀ r, guarded r → ∀ s, (program r).Keeps seen I s) {s : σ} (hs : I s)
    {events : List (Event ρ)} {c : Processes ρ σ ε α}
    (hRun : Run (step program seen) (NotLost I safe guarded) ⟨s, []⟩ events c) : I c.state := by
  have hKept : Kept seen I safe guarded c := by
    refine hRun.invariant (fun x c c' hNotLost hStep h => ?_) ⟨hs, by simp, by simp⟩
    cases x with
    | request r =>
      obtain rfl := Except.ok.inj hStep
      exact h.request r (hSafe r) (hGuarded r)
    | turn i =>
      simp only [step] at hStep
      split at hStep
      · rename_i p write rest hNext
        obtain rfl := Except.ok.inj hStep
        exact h.takeTurn hNext hNotLost
      · cases hStep
  exact hKept.state

end Processes

end Js
