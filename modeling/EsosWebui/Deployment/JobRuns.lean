import EsosWebui.Js.Run
import EsosWebui.Js.Throw
import Mathlib.Logic.Function.Basic

/-! The runs of a deployment job: the first installation of its targets and the retries of those
that failed, each waiting in between for the SANs, and the status that they leave behind. -/
namespace EsosWebui.Deployment

open Js

inductive DeploymentTargetStatus where
  | pending
  | uploading
  | applying
  | success
  | failed
  deriving DecidableEq

inductive DeploymentJobStatus where
  | pending
  | running
  | success
  | partialSuccess
  | failed
  deriving DecidableEq

/-- What `runTarget` returns. -/
inductive Outcome where
  | success
  | failed
  deriving DecidableEq

/-- How far a run has come with one of its targets. -/
inductive Phase where
  | uploading
  | applying
  | done (outcome : Outcome)
  deriving DecidableEq

inductive RunKind where
  | runDeploymentJob
  | retryFailedTargets

structure JobRun where
  kind : RunKind
  own : String → Option Phase
  ended : Bool := false

/-- A job with the stored statuses of its targets and the runs that were started on it. A job is
created for one target at least. -/
structure DeploymentJob where
  targets : List String
  nonempty : targets ≠ []
  status : DeploymentJobStatus := .pending
  stored : String → DeploymentTargetStatus := fun _ => .pending
  started : Bool := false
  runs : List JobRun := []

/-- What happens next: a run is started, with its binary found or not, or goes on. -/
inductive Step where
  | runDeploymentJob (binary : Bool)
  | retryFailedTargets (binary : Bool)
  | apply (i : Nat) (target : String)
  | finish (i : Nat) (target : String) (outcome : Outcome)
  | settle (i : Nat)

def Phase.isBusy : Phase → Bool
  | .uploading | .applying => true
  | .done _ => false

def Outcome.stored : Outcome → DeploymentTargetStatus
  | .success => .success
  | .failed => .failed

def Phase.stored : Phase → DeploymentTargetStatus
  | .uploading => .uploading
  | .applying => .applying
  | .done outcome => outcome.stored

def JobRun.results (run : JobRun) (targets : List String) : List Outcome :=
  targets.filterMap fun t =>
    match run.own t with
    | some (.done outcome) => some outcome
    | _ => none

namespace DeploymentJob

variable (job : DeploymentJob)

/-- The targets of a run are set to pending and taken at once. -/
def start (kind : RunKind) (own : List String) : DeploymentJob :=
  { job with
    status := .running
    started := true
    stored := fun t => if t ∈ own then .uploading else job.stored t
    runs := job.runs ++ [{ kind, own := fun t => if t ∈ own then some .uploading else none }] }

def advance (i : Nat) (target : String) (phase : Phase) : DeploymentJob :=
  { job with
    stored := Function.update job.stored target phase.stored
    runs := job.runs.modify i fun run =>
      { run with own := Function.update run.own target (some phase) } }

/-- A first run judges by its own results, a retry by the table. -/
def finalStatus (run : JobRun) : DeploymentJobStatus :=
  let results := run.results job.targets
  match run.kind with
  | .runDeploymentJob =>
    let ok := results.count .success
    let failed := results.count .failed
    if failed = 0 then .success else if ok = 0 then .failed else .partialSuccess
  | .retryFailedTargets =>
    let anyFailed := job.targets.any (job.stored · = .failed)
    let anyOk := job.targets.any (job.stored · = .success)
    if !anyFailed then .success
    else if !anyOk && results.all (· = .failed) then .failed
    else .partialSuccess

def settle (i : Nat) (run : JobRun) : DeploymentJob :=
  { job with
    status := job.finalStatus run
    runs := job.runs.modify i fun run => { run with ended := true } }

def step : Step → DeploymentJob → Except Unit DeploymentJob
  | .runDeploymentJob binary, job =>
    if job.started then .error ()
    else if binary = false then .ok { job with status := .failed, started := true }
    else .ok (job.start .runDeploymentJob job.targets)
  | .retryFailedTargets binary, job =>
    let failed := job.targets.filter (job.stored · = .failed)
    if binary = false ∨ failed = [] then .ok job
    else .ok (job.start .retryFailedTargets failed)
  | .apply i target, job => do
      let run ← orThrow () job.runs[i]?
      throwIf (run.own target ≠ some .uploading) ()
      return job.advance i target .applying
  | .finish i target outcome, job => do
      let run ← orThrow () job.runs[i]?
      throwIf (run.own target ≠ some .applying ∧
        ¬ (run.own target = some .uploading ∧ outcome = .failed)) ()
      return job.advance i target (.done outcome)
  | .settle i, job => do
      let run ← orThrow () job.runs[i]?
      throwIf (run.ended = true ∨ ∃ t ∈ job.targets, (run.own t).any (·.isBusy) = true) ()
      return job.settle i run

def Installs (i : Nat) (target : String) : Prop :=
  ∃ run, job.runs[i]? = some run ∧ (run.own target).any (·.isBusy) = true

def IsIdle : Prop := job.started = true ∧ ∀ run ∈ job.runs, run.ended = true

structure StatusRight : Prop where
  success : job.status = .success ↔ ∀ t ∈ job.targets, job.stored t = .success
  failed : job.status = .failed ↔ ∀ t ∈ job.targets, job.stored t ≠ .success
  partialSuccess : job.status = .partialSuccess ↔
    (∃ t ∈ job.targets, job.stored t = .success) ∧ ∃ t ∈ job.targets, job.stored t ≠ .success

/-- The status of a job on which no run is active is that of its targets, and no target is
installed by two runs. -/
structure Consistent : Prop where
  status : job.IsIdle → job.StatusRight
  exclusive : ∀ i j t, job.Installs i t → job.Installs j t → i = j

/-- What the last run to end finds in the table, if that is the first one: targets of its own that
have failed are not all installed since. -/
def Undisturbed (step : Step) (job : DeploymentJob) : Prop :=
  ∀ i run, step = .settle i → job.runs[i]? = some run → run.kind = .runDeploymentJob →
    (∀ j other, job.runs[j]? = some other → j ≠ i → other.ended = true) →
      ((∀ t ∈ job.targets, run.own t = some (.done .failed)) →
        ∀ t ∈ job.targets, job.stored t ≠ .success) ∧
      ((∃ t ∈ job.targets, run.own t = some (.done .failed)) →
        (∃ t ∈ job.targets, run.own t = some (.done .success)) →
          ∃ t ∈ job.targets, job.stored t ≠ .success)

/-- What holds of the table and the runs whatever their order. -/
structure Invariant : Prop where
  fresh : job.started = false → job.runs = []
  allPending : job.runs = [] → ∀ t ∈ job.targets, job.stored t = .pending
  nonePending : job.runs ≠ [] → ∀ t ∈ job.targets, job.stored t ≠ .pending
  busy : ∀ t, job.stored t = .uploading ∨ job.stored t = .applying ↔ ∃ i, job.Installs i t
  exclusive : ∀ i j t, job.Installs i t → job.Installs j t → i = j
  success : ∀ run ∈ job.runs, ∀ t, run.own t = some (.done .success) → job.stored t = .success
  owned : ∀ run ∈ job.runs, ∀ t, (run.own t).isSome = true → t ∈ job.targets
  complete : ∀ run ∈ job.runs, run.kind = .runDeploymentJob →
    ∀ t ∈ job.targets, (run.own t).isSome = true
  ended : ∀ run ∈ job.runs, run.ended = true → ∀ t, (run.own t).any (·.isBusy) = false

variable {job : DeploymentJob} {i j : Nat} {t t' : String} {kind : RunKind} {own : List String}
  {phase : Phase} {run : JobRun}

theorem installs_start :
    (job.start kind own).Installs i t ↔ job.Installs i t ∨ (i = job.runs.length ∧ t ∈ own) := by
  unfold Installs start
  simp only [getElem?_concat_eq_some]
  constructor
  · rintro ⟨run, hRun | ⟨rfl, rfl⟩, hBusy⟩
    · exact Or.inl ⟨run, hRun, hBusy⟩
    · right
      by_cases hOwn : t ∈ own
      · exact ⟨rfl, hOwn⟩
      · simp [hOwn] at hBusy
  · rintro (⟨run, hRun, hBusy⟩ | ⟨rfl, hOwn⟩)
    · exact ⟨run, Or.inl hRun, hBusy⟩
    · exact ⟨_, Or.inr ⟨rfl, rfl⟩, by simp [hOwn, Phase.isBusy]⟩

theorem installs_advance (hRun : job.runs[i]? = some run) :
    (job.advance i t phase).Installs j t' ↔
      if j = i ∧ t' = t then phase.isBusy = true else job.Installs j t' := by
  unfold Installs advance
  simp only [List.getElem?_modify]
  by_cases hSame : j = i
  · subst hSame
    rw [hRun]
    by_cases hTarget : t' = t
    · subst hTarget
      simp
    · simp [hTarget]
  · simp [hSame, Ne.symm hSame]

theorem installs_settle : (job.settle i run).Installs j t ↔ job.Installs j t := by
  unfold Installs settle
  simp only [List.getElem?_modify]
  by_cases hSame : i = j <;> simp [hSame]

theorem not_busy_of_success (h : job.Invariant) (hSuccess : job.stored t = .success) :
    ¬ ∃ i, job.Installs i t := by
  rw [← h.busy, hSuccess]
  simp

theorem Invariant.start (h : job.Invariant)
    (hOwn : ∀ t ∈ own, job.stored t = .pending ∨ job.stored t = .failed)
    (hSub : ∀ t ∈ own, t ∈ job.targets)
    (hAll : kind = .runDeploymentJob → ∀ t ∈ job.targets, t ∈ own)
    (hRest : ∀ t ∈ job.targets, t ∉ own → job.stored t ≠ .pending) :
    (job.start kind own).Invariant := by
  have hFree : ∀ t ∈ own, ¬ ∃ i, job.Installs i t := by
    intro t ht hInstalls
    rcases hOwn t ht with hStored | hStored <;>
      simpa [hStored] using (h.busy t).mpr hInstalls
  constructor
  · intro hStarted
    cases hStarted
  · intro hNone
    simp [DeploymentJob.start] at hNone
  · intro _ t ht
    by_cases hMem : t ∈ own
    · simp [DeploymentJob.start, hMem]
    · simpa [DeploymentJob.start, hMem] using hRest t ht hMem
  · intro t
    simp only [installs_start]
    by_cases hMem : t ∈ own
    · simp [DeploymentJob.start, hMem]
    · simpa [DeploymentJob.start, hMem] using h.busy t
  · intro i j t hI hJ
    rw [installs_start] at hI hJ
    rcases hI with hI | ⟨rfl, hI⟩ <;> rcases hJ with hJ | ⟨rfl, hJ⟩
    · exact h.exclusive i j t hI hJ
    · exact absurd ⟨i, hI⟩ (hFree t hJ)
    · exact absurd ⟨j, hJ⟩ (hFree t hI)
    · rfl
  · intro run hRun t hDone
    rcases List.mem_append.mp hRun with hRun | hRun
    · have hStored := h.success run hRun t hDone
      have hNot : t ∉ own := fun hMem => by
        rcases hOwn t hMem with hOther | hOther <;> simp [hOther] at hStored
      simpa [DeploymentJob.start, hNot] using hStored
    · obtain rfl := List.mem_singleton.mp hRun
      by_cases hMem : t ∈ own <;> simp [hMem] at hDone
  · intro run hRun t hSome
    rcases List.mem_append.mp hRun with hRun | hRun
    · exact h.owned run hRun t hSome
    · obtain rfl := List.mem_singleton.mp hRun
      by_cases hMem : t ∈ own
      · exact hSub t hMem
      · simp [hMem] at hSome
  · intro run hRun hKind t ht
    rcases List.mem_append.mp hRun with hRun | hRun
    · exact h.complete run hRun hKind t ht
    · obtain rfl := List.mem_singleton.mp hRun
      simp [hAll hKind t ht]
  · intro run hRun hEnded t
    rcases List.mem_append.mp hRun with hRun | hRun
    · exact h.ended run hRun hEnded t
    · obtain rfl := List.mem_singleton.mp hRun
      cases hEnded

theorem Invariant.advance (h : job.Invariant) (hRun : job.runs[i]? = some run)
    (hBusy : (run.own t).any (·.isBusy)) (hPhase : phase ≠ .uploading) :
    (job.advance i t phase).Invariant := by
  have hInstalls : job.Installs i t := ⟨run, hRun, hBusy⟩
  have hMem := List.mem_of_getElem? hRun
  have hSome : job.runs ≠ [] := List.ne_nil_of_mem hMem
  constructor
  · intro hStarted
    exact absurd (h.fresh hStarted) hSome
  · intro hNone
    simp [DeploymentJob.advance, hSome] at hNone
  · intro _ t' ht'
    by_cases hTarget : t' = t
    · subst hTarget
      cases phase with
      | uploading => exact absurd rfl hPhase
      | applying => simp [DeploymentJob.advance, Phase.stored]
      | done outcome => cases outcome <;> simp [DeploymentJob.advance, Phase.stored, Outcome.stored]
    · simpa [DeploymentJob.advance, hTarget] using h.nonePending hSome t' ht'
  · intro t'
    simp only [installs_advance hRun]
    by_cases hTarget : t' = t
    · subst hTarget
      have hOnly : ∀ j, j ≠ i → ¬ job.Installs j t' := fun j hj hOther =>
        hj (h.exclusive j i t' hOther hInstalls)
      have hExists : (∃ j, if j = i ∧ t' = t' then phase.isBusy = true else job.Installs j t') ↔
          phase.isBusy = true := by
        constructor
        · rintro ⟨j, hj⟩
          by_cases hSame : j = i
          · simpa [hSame] using hj
          · exact absurd (by simpa [hSame] using hj) (hOnly j hSame)
        · intro hPhaseBusy
          exact ⟨i, by simpa using hPhaseBusy⟩
      rw [hExists]
      cases phase with
      | uploading => exact absurd rfl hPhase
      | applying => simp [DeploymentJob.advance, Phase.stored, Phase.isBusy]
      | done outcome =>
        cases outcome <;> simp [DeploymentJob.advance, Phase.stored, Outcome.stored, Phase.isBusy]
    · simpa [DeploymentJob.advance, hTarget] using h.busy t'
  · intro j k t' hJ hK
    have hBefore : ∀ j, (job.advance i t phase).Installs j t' → job.Installs j t' := by
      intro j hj
      rw [installs_advance hRun] at hj
      split at hj
      · rename_i hSame
        rw [hSame.1, hSame.2]
        exact hInstalls
      · exact hj
    exact h.exclusive j k t' (hBefore j hJ) (hBefore k hK)
  · refine forall_mem_modify_at (fun other hOther t' hDone => ?_) fun other hOther t' hDone => ?_
    · have hStored := h.success other hOther t' hDone
      have hNot : t' ≠ t := by
        rintro rfl
        exact not_busy_of_success h hStored ⟨i, hInstalls⟩
      simpa [DeploymentJob.advance, hNot] using hStored
    · by_cases hTarget : t' = t
      · subst hTarget
        obtain rfl : phase = .done .success := by simpa using hDone
        simp [DeploymentJob.advance, Phase.stored, Outcome.stored]
      · have hStored := h.success other (List.mem_of_getElem? hOther) t'
          (by simpa [hTarget] using hDone)
        simpa [DeploymentJob.advance, hTarget] using hStored
  · refine forall_mem_modify_at h.owned fun other hOther t' hSome => ?_
    by_cases hTarget : t' = t
    · subst hTarget
      exact h.owned run hMem t' (Option.isSome_of_any hBusy)
    · exact h.owned other (List.mem_of_getElem? hOther) t' (by simpa [hTarget] using hSome)
  · refine forall_mem_modify_at h.complete fun other hOther hKind t' ht' => ?_
    have hSome := h.complete other (List.mem_of_getElem? hOther) hKind t' ht'
    by_cases hTarget : t' = t
    · simp [hTarget]
    · simpa [hTarget] using hSome
  · refine forall_mem_modify_at h.ended fun other hOther hEnded t' => ?_
    obtain rfl := Option.some.inj (hRun.symm.trans hOther)
    rw [h.ended run hMem hEnded t] at hBusy
    cases hBusy

theorem notBusy_of_forall (h : job.Invariant) (hMem : run ∈ job.runs)
    (hDone : ∀ t ∈ job.targets, (run.own t).any (·.isBusy) = false) (t : String) :
    (run.own t).any (·.isBusy) = false := by
  cases hOwn : run.own t with
  | none => rfl
  | some phase =>
    rw [← hOwn]
    exact hDone t (h.owned run hMem t (by rw [hOwn]; rfl))

theorem Invariant.settle (h : job.Invariant)
    (hDone : ∀ t ∈ job.targets, (run.own t).any (·.isBusy) = false)
    (hRun : job.runs[i]? = some run) : (job.settle i run).Invariant := by
  have hMem := List.mem_of_getElem? hRun
  constructor
  · intro hStarted
    exact absurd (h.fresh hStarted) (List.ne_nil_of_mem hMem)
  · intro hNone
    simp [DeploymentJob.settle, List.ne_nil_of_mem hMem] at hNone
  · intro _
    exact h.nonePending (List.ne_nil_of_mem hMem)
  · intro t
    simp only [installs_settle]
    exact h.busy t
  · intro j k t hJ hK
    rw [installs_settle] at hJ hK
    exact h.exclusive j k t hJ hK
  · exact forall_mem_modify_at h.success fun other hOther =>
      h.success other (List.mem_of_getElem? hOther)
  · exact forall_mem_modify_at h.owned fun other hOther =>
      h.owned other (List.mem_of_getElem? hOther)
  · exact forall_mem_modify_at h.complete fun other hOther =>
      h.complete other (List.mem_of_getElem? hOther)
  · refine forall_mem_modify_at h.ended fun other hOther _ => ?_
    obtain rfl := Option.some.inj (hRun.symm.trans hOther)
    show ∀ t, (run.own t).any (·.isBusy) = false
    exact notBusy_of_forall h hMem hDone

variable {r : Step} {job' : DeploymentJob}

theorem step_cases (h : step r job = .ok job') :
    ((∀ j, r ≠ .settle j) ∧ job.started = false ∧
      (job' = { job with status := .failed, started := true } ∨
        job' = job.start .runDeploymentJob job.targets)) ∨
    ((∀ j, r ≠ .settle j) ∧ (job' = job ∨
      job.targets.filter (job.stored · = .failed) ≠ [] ∧
        job' = job.start .retryFailedTargets (job.targets.filter (job.stored · = .failed)))) ∨
    (∃ i t phase run, (∀ j, r ≠ .settle j) ∧ job.runs[i]? = some run ∧
      (run.own t).any (·.isBusy) = true ∧ phase ≠ .uploading ∧ job' = job.advance i t phase) ∨
    ∃ i run, r = .settle i ∧ job.runs[i]? = some run ∧ run.ended = false ∧
      (∀ t ∈ job.targets, (run.own t).any (·.isBusy) = false) ∧ job' = job.settle i run := by
  cases r with
  | runDeploymentJob binary =>
    left
    dsimp only [step] at h
    split_ifs at h with hStarted hBinary
    · exact ⟨by simp, by simpa using hStarted, Or.inl (Except.ok.inj h).symm⟩
    · exact ⟨by simp, by simpa using hStarted, Or.inr (Except.ok.inj h).symm⟩
  | retryFailedTargets binary =>
    right; left
    dsimp only [step] at h
    split_ifs at h with hNone
    · exact ⟨by simp, Or.inl (Except.ok.inj h).symm⟩
    · exact ⟨by simp, Or.inr ⟨fun hEmpty => hNone (Or.inr hEmpty), (Except.ok.inj h).symm⟩⟩
  | apply i target =>
    right; right; left
    simp only [step, bind_eq_ok, orThrow_eq_ok, throwIf_eq_ok, pure_eq_ok] at h
    obtain ⟨run, hRun, u, hOwn, rfl⟩ := h
    rw [not_not] at hOwn
    exact ⟨i, target, .applying, run, by simp, hRun, by rw [hOwn]; rfl, by simp, rfl⟩
  | finish i target outcome =>
    right; right; left
    simp only [step, bind_eq_ok, orThrow_eq_ok, throwIf_eq_ok, pure_eq_ok] at h
    obtain ⟨run, hRun, u, hOwn, rfl⟩ := h
    refine ⟨i, target, .done outcome, run, by simp, hRun, ?_, by simp, rfl⟩
    rw [not_and_or, not_not, not_not] at hOwn
    rcases hOwn with hOwn | ⟨hOwn, -⟩ <;> rw [hOwn] <;> rfl
  | settle i =>
    right; right; right
    simp only [step, bind_eq_ok, orThrow_eq_ok, throwIf_eq_ok, pure_eq_ok] at h
    obtain ⟨run, hRun, u, hOwn, rfl⟩ := h
    simp only [not_or, not_exists, not_and, Bool.not_eq_true] at hOwn
    exact ⟨i, run, rfl, hRun, hOwn.1, hOwn.2, rfl⟩

theorem Invariant.step (h : job.Invariant) (hStep : step r job = .ok job') : job'.Invariant := by
  rcases step_cases hStep with ⟨-, hStarted, rfl | rfl⟩ | ⟨-, rfl | ⟨hSome, rfl⟩⟩ |
    ⟨i, t, phase, run, -, hRun, hBusy, hPhase, rfl⟩ | ⟨i, run, -, hRun, -, hDone, rfl⟩
  · have hNone := h.fresh hStarted
    exact ⟨fun _ => hNone, h.allPending, h.nonePending, h.busy, h.exclusive, h.success, h.owned,
      h.complete, h.ended⟩
  · have hPending := h.allPending (h.fresh hStarted)
    exact h.start (fun t ht => Or.inl (hPending t ht)) (fun _ ht => ht) (fun _ _ ht => ht)
      fun t ht hNot => absurd ht hNot
  · exact h
  · obtain ⟨t, ht⟩ := List.exists_mem_of_ne_nil _ hSome
    rw [List.mem_filter, decide_eq_true_eq] at ht
    have hRuns : job.runs ≠ [] := fun hNone => by
      have hPending := h.allPending hNone t ht.1
      rw [ht.2] at hPending
      cases hPending
    exact h.start (fun t ht => Or.inr (by simpa using (List.mem_filter.mp ht).2))
      (fun t ht => List.mem_of_mem_filter ht) (fun hKind => by cases hKind)
      fun t ht _ => h.nonePending hRuns t ht
  · exact h.advance hRun hBusy hPhase
  · exact h.settle hDone hRun

end DeploymentJob

end EsosWebui.Deployment
