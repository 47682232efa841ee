import EsosWebui.Js.Arrays
import Mathlib.Logic.Basic

/-! Runs of a system whose requests may fail: what every allowed and successful
request preserves holds after any sequence of them. -/
namespace Js

variable {ε Request State : Type} {step : Request → State → Except ε State}
  {allowed : Request → State → Prop}

/-- A sequence of successful requests from one state to another, each allowed where it is made. -/
inductive Run (step : Request → State → Except ε State) (allowed : Request → State → Prop) :
    State → List Request → State → Prop
  | nil (s : State) : Run step allowed s [] s
  | cons {s s' s'' : State} {r : Request} {rs : List Request} (hAllowed : allowed r s)
      (hStep : step r s = .ok s') (hRest : Run step allowed s' rs s'') :
      Run step allowed s (r :: rs) s''

namespace Run

variable {s s' s'' : State} {rs rs' : List Request}

/-- What each allowed request preserves is preserved by a run. -/
theorem invariant {I : State → Prop}
    (hStep : ∀ r s s', allowed r s → step r s = .ok s' → I s → I s')
    (hRun : Run step allowed s rs s') (hStart : I s) : I s' := by
  induction hRun with
  | nil => exact hStart
  | cons hAllowed hNext _ ih => exact ih (hStep _ _ _ hAllowed hNext hStart)

theorem snoc {r : Request} (hRun : Run step allowed s rs s') (hAllowed : allowed r s')
    (hStep : step r s' = .ok s'') : Run step allowed s (rs ++ [r]) s'' := by
  induction hRun with
  | nil => exact .cons hAllowed hStep (.nil s'')
  | cons hFirst hNext _ ih => exact .cons hFirst hNext (ih hAllowed hStep)

variable (allowed) in
theorem of_foldlM [∀ r s, Decidable (allowed r s)] {error : ε}
    (h : rs.foldlM (fun s r => if allowed r s then step r s else .error error) s = .ok s') :
    Run step allowed s rs s' := by
  induction rs generalizing s with
  | nil =>
    obtain rfl := Except.ok.inj h
    exact .nil s
  | cons r rs ih =>
    rw [List.foldlM_cons] at h
    by_cases hAllowed : allowed r s
    · rw [if_pos hAllowed] at h
      cases hStep : step r s with
      | error e => rw [hStep] at h; cases h
      | ok next => rw [hStep] at h; exact .cons hAllowed hStep (ih h)
    · rw [if_neg hAllowed] at h
      cases h

theorem foldlM_eq (hRun : Run step allowed s rs s') :
    rs.foldlM (fun s r => step r s) s = .ok s' := by
  induction hRun with
  | nil => rfl
  | cons _ hStep _ ih =>
    rw [List.foldlM_cons, hStep]
    exact ih

end Run

end Js

/-! Asynchronous work: what was started, what still runs and what has ended. Something that
happens meanwhile may overtake the running work it concerns. -/
namespace Js

/-- A piece of work, with its result once it has ended. -/
structure Job (ι ρ : Type) where
  input : ι
  result : Option ρ := none
  overtaken : Bool := false

namespace Job

variable {ι ρ : Type}

/-- The work of this number, as long as it runs. -/
def running? (tasks : List (Job ι ρ)) (i : Nat) : Option (Job ι ρ) :=
  (tasks[i]?).filter (·.result.isNone)

def finish (tasks : List (Job ι ρ)) (i : Nat) (result : ρ) : List (Job ι ρ) :=
  tasks.modify i fun t => { t with result := some result }

def overtake (tasks : List (Job ι ρ)) (hit : ι → Bool) : List (Job ι ρ) :=
  tasks.map fun t => if hit t.input && t.result.isNone then { t with overtaken := true } else t

/-- Running, and not overtaken. -/
def Current (tasks : List (Job ι ρ)) (i : Nat) (input : ι) : Prop :=
  tasks[i]? = some ⟨input, none, false⟩

def Ended (tasks : List (Job ι ρ)) (i : Nat) (input : ι) (result : ρ) : Prop :=
  ∃ overtaken, tasks[i]? = some ⟨input, some result, overtaken⟩

variable {tasks : List (Job ι ρ)} {i j : Nat} {input input' : ι} {result result' : ρ}

theorem running?_eq_some {t : Job ι ρ} :
    running? tasks i = some t ↔ tasks[i]? = some t ∧ t.result = none := by
  simp [running?, Option.filter_eq_some_iff]

theorem current_of_running {t : Job ι ρ} (h : running? tasks i = some t)
    (hNot : t.overtaken = false) : Current tasks i t.input := by
  obtain ⟨hGet, hResult⟩ := running?_eq_some.mp h
  rw [Current, hGet, ← hResult, ← hNot]

@[simp] theorem length_finish : (finish tasks i result).length = tasks.length :=
  List.length_modify ..

@[simp] theorem length_overtake {hit : ι → Bool} :
    (overtake tasks hit).length = tasks.length :=
  List.length_map ..

theorem map_input_finish : (finish tasks i result).map Job.input = tasks.map Job.input := by
  rw [finish, map_modify_same]
  exact fun _ => rfl

theorem map_input_overtake {hit : ι → Bool} :
    (overtake tasks hit).map Job.input = tasks.map Job.input := by
  rw [overtake, List.map_map]
  refine List.map_congr_left fun t _ => ?_
  dsimp only [Function.comp_apply]
  split <;> rfl

theorem current_start : Current (tasks ++ [⟨input', none, false⟩]) i input ↔
    Current tasks i input ∨ (i = tasks.length ∧ input = input') := by
  rw [Current, getElem?_concat_eq_some, Current]
  simp [eq_comm]

theorem ended_start : Ended (tasks ++ [⟨input', none, false⟩]) i input result ↔
    Ended tasks i input result := by
  simp [Ended, getElem?_concat_eq_some]

private theorem getElem?_finish : (finish tasks i result)[j]? =
    (tasks[j]?).map fun t => if i = j then { t with result := some result } else t := by
  rw [finish, List.getElem?_modify]
  rfl

theorem current_finish :
    Current (finish tasks i result) j input ↔ j ≠ i ∧ Current tasks j input := by
  rw [Current, getElem?_finish, Option.map_eq_some_iff, Current]
  by_cases hSame : i = j
  · simp [hSame]
  · simp [hSame, Ne.symm hSame]

theorem ended_finish {t : Job ι ρ} (hRunning : running? tasks i = some t) :
    Ended (finish tasks i result') j input result ↔
      Ended tasks j input result ∨ (j = i ∧ input = t.input ∧ result = result') := by
  obtain ⟨hGet, hNone⟩ := running?_eq_some.mp hRunning
  unfold Ended
  rw [getElem?_finish]
  by_cases hSame : i = j
  · subst hSame
    obtain ⟨tInput, tResult, tOvertaken⟩ := t
    obtain rfl : tResult = none := hNone
    rw [hGet]
    simp [eq_comm]
  · simp [hSame, Ne.symm hSame]

theorem exists_finish {t : Job ι ρ} (hGet : tasks[j]? = some t) (i : Nat) (result : ρ) :
    ∃ t', (finish tasks i result)[j]? = some t' ∧ t'.input = t.input := by
  rw [getElem?_finish, hGet]
  refine ⟨_, rfl, ?_⟩
  dsimp only
  split <;> rfl

variable {hit : ι → Bool}

private theorem getElem?_overtake : (overtake tasks hit)[i]? = (tasks[i]?).map fun t =>
    if hit t.input && t.result.isNone then { t with overtaken := true } else t := by
  rw [overtake, List.getElem?_map]

theorem current_overtake :
    Current (overtake tasks hit) i input ↔ Current tasks i input ∧ hit input = false := by
  rw [Current, getElem?_overtake, Option.map_eq_some_iff, Current]
  constructor
  · rintro ⟨t, hGet, hSame⟩
    split at hSame
    · cases congrArg Job.overtaken hSame
    · rename_i hNot
      subst hSame
      exact ⟨hGet, by simpa using hNot⟩
  · rintro ⟨hGet, hNot⟩
    exact ⟨_, hGet, by simp [hNot]⟩

theorem ended_overtake :
    Ended (overtake tasks hit) i input result ↔ Ended tasks i input result := by
  unfold Ended
  refine exists_congr fun overtaken => ?_
  rw [getElem?_overtake, Option.map_eq_some_iff]
  constructor
  · rintro ⟨t, hGet, hSame⟩
    split at hSame
    · rename_i hHit
      have hNone : t.result = none := by simpa using (Bool.and_eq_true_iff.mp hHit).2
      have hSome : t.result = some result := congrArg Job.result hSame
      rw [hNone] at hSome
      cases hSome
    · rwa [← hSame]
  · intro hGet
    exact ⟨_, hGet, by simp⟩

theorem exists_overtake {t : Job ι ρ} (hGet : tasks[i]? = some t) (hit : ι → Bool) :
    ∃ t', (overtake tasks hit)[i]? = some t' ∧ t'.input = t.input := by
  rw [getElem?_overtake, hGet]
  refine ⟨_, rfl, ?_⟩
  dsimp only
  split <;> rfl

end Job

end Js
