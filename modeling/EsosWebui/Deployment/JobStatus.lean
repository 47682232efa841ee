import EsosWebui.Deployment.JobRuns

/-! The status of a deployment job: when it is that of its targets, once no run is active. -/
namespace EsosWebui.Deployment

open Js

namespace DeploymentJob

variable {job job' : DeploymentJob} {i : Nat} {t : String} {kind : RunKind} {own : List String}
  {phase : Phase} {run : JobRun} {r : Step}

theorem mem_results {targets : List String} {outcome : Outcome} :
    outcome ∈ run.results targets ↔ ∃ t ∈ targets, run.own t = some (.done outcome) := by
  unfold JobRun.results
  rw [List.mem_filterMap]
  refine exists_congr fun t => and_congr_right fun _ => ?_
  cases run.own t with
  | none => simp
  | some phase => cases phase <;> simp

def aggregate (job : DeploymentJob) : DeploymentJobStatus :=
  if ∀ t ∈ job.targets, job.stored t = .success then .success
  else if ∀ t ∈ job.targets, job.stored t ≠ .success then .failed
  else .partialSuccess

theorem exists_mem_targets (job : DeploymentJob) : ∃ t, t ∈ job.targets :=
  List.exists_mem_of_ne_nil _ job.nonempty

theorem statusRight_iff : job.StatusRight ↔ job.status = job.aggregate := by
  obtain ⟨t, ht⟩ := job.exists_mem_targets
  unfold aggregate
  split_ifs with hAll hNone
  · constructor
    · exact fun h => h.success.mpr hAll
    · intro h
      have hNotNone : ¬ ∀ t ∈ job.targets, job.stored t ≠ .success := fun hNone =>
        hNone t ht (hAll t ht)
      have hNotSome : ¬ ∃ t ∈ job.targets, job.stored t ≠ .success := by simpa using hAll
      exact ⟨iff_of_true h hAll, iff_of_false (by simp [h]) hNotNone,
        iff_of_false (by simp [h]) fun hSomes => hNotSome hSomes.2⟩
  · constructor
    · exact fun h => h.failed.mpr hNone
    · intro h
      have hNotSome : ¬ ∃ t ∈ job.targets, job.stored t = .success := by simpa using hNone
      exact ⟨iff_of_false (by simp [h]) hAll, iff_of_true h hNone,
        iff_of_false (by simp [h]) fun hSomes => hNotSome hSomes.1⟩
  · have hSomes : (∃ t ∈ job.targets, job.stored t = .success) ∧
        ∃ t ∈ job.targets, job.stored t ≠ .success := by
      constructor
      · simpa using hNone
      · simpa using hAll
    constructor
    · exact fun h => h.partialSuccess.mpr hSomes
    · intro h
      exact ⟨iff_of_false (by simp [h]) hAll, iff_of_false (by simp [h]) hNone,
        iff_of_true h hSomes⟩

theorem terminal_of_ended (h : job.Invariant) (hSome : job.runs ≠ [])
    (hFree : ∀ i t, ¬ job.Installs i t) {t : String} (ht : t ∈ job.targets) :
    job.stored t = .success ∨ job.stored t = .failed := by
  have hPending := h.nonePending hSome t ht
  have hBusy : ¬ (job.stored t = .uploading ∨ job.stored t = .applying) := by
    rw [h.busy t]
    rintro ⟨i, hInstalls⟩
    exact hFree i t hInstalls
  cases hStored : job.stored t <;> simp_all

theorem finalStatus_retry (h : job.Invariant) (hMem : run ∈ job.runs)
    (hKind : run.kind = .retryFailedTargets)
    (hTerminal : ∀ t ∈ job.targets, job.stored t = .success ∨ job.stored t = .failed) :
    job.finalStatus run = job.aggregate := by
  have hFailed : job.targets.any (job.stored · = .failed) = false ↔
      ∀ t ∈ job.targets, job.stored t = .success := by
    simp only [List.any_eq_false, decide_eq_true_eq]
    refine forall₂_congr fun t ht => ?_
    rcases hTerminal t ht with hStored | hStored <;> simp [hStored]
  have hOk : job.targets.any (job.stored · = .success) = false ↔
      ∀ t ∈ job.targets, job.stored t ≠ .success := by
    simp
  have hResults : (∀ t ∈ job.targets, job.stored t ≠ .success) →
      (run.results job.targets).all (· = .failed) = true := by
    intro hNone
    rw [List.all_eq_true]
    intro outcome hOutcome
    obtain ⟨t, ht, hDone⟩ := mem_results.mp hOutcome
    cases outcome with
    | success => exact absurd (h.success run hMem t hDone) (hNone t ht)
    | failed => rfl
  unfold finalStatus aggregate
  rw [hKind]
  dsimp only
  by_cases hAll : ∀ t ∈ job.targets, job.stored t = .success
  · rw [if_pos hAll, hFailed.mpr hAll]
    rfl
  · rw [if_neg hAll, Bool.eq_true_of_not_eq_false (mt hFailed.mp hAll)]
    by_cases hNone : ∀ t ∈ job.targets, job.stored t ≠ .success
    · rw [if_pos hNone, hOk.mpr hNone, hResults hNone]
      rfl
    · rw [if_neg hNone, Bool.eq_true_of_not_eq_false (mt hOk.mp hNone)]
      rfl

theorem finalStatus_first (h : job.Invariant) (hMem : run ∈ job.runs)
    (hKind : run.kind = .runDeploymentJob)
    (hDone : ∀ t ∈ job.targets, (run.own t).any (·.isBusy) = false) :
    job.finalStatus run = job.aggregate ↔
      ((∀ t ∈ job.targets, run.own t = some (.done .failed)) →
        ∀ t ∈ job.targets, job.stored t ≠ .success) ∧
      ((∃ t ∈ job.targets, run.own t = some (.done .failed)) →
        (∃ t ∈ job.targets, run.own t = some (.done .success)) →
          ∃ t ∈ job.targets, job.stored t ≠ .success) := by
  have hOwn : ∀ t ∈ job.targets, run.own t = some (.done .success) ∨
      run.own t = some (.done .failed) := by
    intro t ht
    obtain ⟨phase, hPhase⟩ := Option.isSome_iff_exists.mp (h.complete run hMem hKind t ht)
    have hNot := hDone t ht
    rw [hPhase] at hNot ⊢
    cases phase with
    | uploading => cases hNot
    | applying => cases hNot
    | done outcome => cases outcome <;> simp
  have hFailed : (run.results job.targets).count .failed = 0 ↔
      ¬ ∃ t ∈ job.targets, run.own t = some (.done .failed) := by
    rw [List.count_eq_zero, mem_results]
  have hOk : (run.results job.targets).count .success = 0 ↔
      ¬ ∃ t ∈ job.targets, run.own t = some (.done .success) := by
    rw [List.count_eq_zero, mem_results]
  have hStored := h.success run hMem
  obtain ⟨t₀, ht₀⟩ := job.exists_mem_targets
  unfold finalStatus
  rw [hKind]
  dsimp only
  by_cases hSomeFailed : ∃ t ∈ job.targets, run.own t = some (.done .failed)
  · rw [if_neg (mt hFailed.mp (not_not.mpr hSomeFailed))]
    by_cases hSomeOk : ∃ t ∈ job.targets, run.own t = some (.done .success)
    · obtain ⟨t, ht, hDoneOk⟩ := hSomeOk
      have hNotAll : ¬ ∀ t ∈ job.targets, run.own t = some (.done .failed) := fun hAllFailed => by
        have hBoth := hAllFailed t ht
        rw [hDoneOk] at hBoth
        cases hBoth
      have hNotNone : ¬ ∀ t ∈ job.targets, job.stored t ≠ .success := fun hNone =>
        hNone t ht (hStored t hDoneOk)
      rw [if_neg (mt hOk.mp (not_not.mpr ⟨t, ht, hDoneOk⟩)), aggregate, if_neg hNotNone]
      constructor
      · intro hSame
        refine ⟨fun hAllFailed => absurd hAllFailed hNotAll, fun _ _ => ?_⟩
        by_contra hNot
        rw [if_pos (by simpa using hNot)] at hSame
        cases hSame
      · rintro ⟨-, hLeft⟩
        obtain ⟨t', ht', hOther⟩ := hLeft hSomeFailed ⟨t, ht, hDoneOk⟩
        rw [if_neg fun hAll => hOther (hAll t' ht')]
    · have hAllFailed : ∀ t ∈ job.targets, run.own t = some (.done .failed) := fun t ht =>
        (hOwn t ht).resolve_left fun hDoneOk => hSomeOk ⟨t, ht, hDoneOk⟩
      rw [if_pos (hOk.mpr hSomeOk), aggregate]
      constructor
      · intro hSame
        refine ⟨fun _ => ?_, fun _ hOther => absurd hOther hSomeOk⟩
        split_ifs at hSame with hAll hNone
        exact hNone
      · rintro ⟨hNone, -⟩
        rw [if_neg fun hAll => hNone hAllFailed t₀ ht₀ (hAll t₀ ht₀), if_pos (hNone hAllFailed)]
  · have hAllOk : ∀ t ∈ job.targets, run.own t = some (.done .success) := fun t ht =>
      (hOwn t ht).resolve_right fun hDoneFailed => hSomeFailed ⟨t, ht, hDoneFailed⟩
    rw [if_pos (hFailed.mpr hSomeFailed), aggregate, if_pos fun t ht => hStored t (hAllOk t ht)]
    refine iff_of_true rfl ⟨fun hAllFailed => ?_, fun hOther => absurd hOther hSomeFailed⟩
    exact absurd ⟨t₀, ht₀, hAllFailed t₀ ht₀⟩ hSomeFailed

theorem not_isIdle_start : ¬ (job.start kind own).IsIdle := by
  rintro ⟨-, hEnded⟩
  cases hEnded _ (List.mem_append_right _ (List.mem_singleton_self _))

theorem not_isIdle_advance (h : job.Invariant) (hRun : job.runs[i]? = some run)
    (hBusy : (run.own t).any (·.isBusy)) : ¬ (job.advance i t phase).IsIdle := by
  rintro ⟨-, hEnded⟩
  have hAt : (job.advance i t phase).runs[i]? =
      some { run with own := Function.update run.own t (some phase) } := by
    simp [advance, hRun]
  have hAdvanced := hEnded _ (List.mem_of_getElem? hAt)
  have hRunEnded : run.ended = true := hAdvanced
  rw [h.ended run (List.mem_of_getElem? hRun) hRunEnded t] at hBusy
  cases hBusy

theorem isIdle_settle (hStarted : job.started) (hRun : job.runs[i]? = some run) :
    (job.settle i run).IsIdle ↔
      ∀ j other, job.runs[j]? = some other → j ≠ i → other.ended = true := by
  constructor
  · rintro ⟨-, hEnded⟩ j other hOther hNe
    refine hEnded other (List.mem_of_getElem? (i := j) ?_)
    simp [settle, hOther, Ne.symm hNe]
  · intro hOthers
    refine ⟨hStarted, fun other hOther => ?_⟩
    obtain ⟨j, hj⟩ := List.mem_iff_getElem?.mp hOther
    simp only [settle, List.getElem?_modify] at hj
    by_cases hSame : i = j
    · subst hSame
      rw [hRun] at hj
      obtain rfl : _ = other := by simpa using hj
      rfl
    · exact hOthers j other (by simpa [hSame] using hj) (Ne.symm hSame)

theorem statusRight_unknown_binary (h : job.Invariant) (hNone : job.runs = []) :
    StatusRight { job with status := .failed, started := true } := by
  have hPending := h.allPending hNone
  obtain ⟨t, ht⟩ := job.exists_mem_targets
  rw [statusRight_iff]
  have hNotAll : ¬ ∀ t ∈ job.targets, job.stored t = .success := fun hAll => by
    cases (hPending t ht).symm.trans (hAll t ht)
  have hNoneDone : ∀ t ∈ job.targets, job.stored t ≠ .success := fun t ht => by
    rw [hPending t ht]
    simp
  simp only [aggregate]
  rw [if_neg hNotAll, if_pos hNoneDone]

/-- One step keeps a job consistent exactly if it is not the first run that ends last on a table
in which its failures were made good. -/
theorem consistent_step (h : job.Invariant) (hOld : job.Consistent)
    (hStep : step r job = .ok job') : job'.Consistent ↔ Undisturbed r job := by
  have hNew := h.step hStep
  have hConsistent : job'.Consistent ↔ (job'.IsIdle → job'.StatusRight) :=
    ⟨fun hOk => hOk.status, fun hStatus => ⟨hStatus, hNew.exclusive⟩⟩
  rw [hConsistent]
  rcases step_cases hStep with ⟨hOther, hStarted, rfl | rfl⟩ | ⟨hOther, rfl | ⟨hSome, rfl⟩⟩ |
    ⟨i, t, phase, run, hOther, hRun, hBusy, hPhase, rfl⟩ | ⟨i, run, rfl, hRun, hActive, hDone, rfl⟩
  · exact iff_of_true (fun _ => statusRight_unknown_binary h (h.fresh hStarted))
      fun i _ hSettle => absurd hSettle (hOther i)
  · exact iff_of_true (fun hIdle => absurd hIdle not_isIdle_start)
      fun i _ hSettle => absurd hSettle (hOther i)
  · exact iff_of_true hOld.status fun i _ hSettle => absurd hSettle (hOther i)
  · exact iff_of_true (fun hIdle => absurd hIdle not_isIdle_start)
      fun i _ hSettle => absurd hSettle (hOther i)
  · exact iff_of_true (fun hIdle => absurd hIdle (not_isIdle_advance h hRun hBusy))
      fun j _ hSettle => absurd hSettle (hOther j)
  · have hMem := List.mem_of_getElem? hRun
    have hSome : job.runs ≠ [] := List.ne_nil_of_mem hMem
    have hStarted : job.started = true := by
      by_contra hNot
      exact hSome (h.fresh (by simpa using hNot))
    rw [isIdle_settle hStarted hRun]
    by_cases hOthers : ∀ j other, job.runs[j]? = some other → j ≠ i → other.ended = true
    · have hFree : ∀ j t, ¬ job.Installs j t := by
        rintro j t ⟨other, hOther, hBusy⟩
        by_cases hSame : j = i
        · subst hSame
          obtain rfl := Option.some.inj (hRun.symm.trans hOther)
          rw [notBusy_of_forall h hMem hDone t] at hBusy
          cases hBusy
        · rw [h.ended other (List.mem_of_getElem? hOther) (hOthers j other hOther hSame) t] at hBusy
          cases hBusy
      have hTerminal : ∀ t ∈ job.targets, job.stored t = .success ∨ job.stored t = .failed :=
        fun t ht => terminal_of_ended h hSome hFree ht
      have hRight : (job.settle i run).StatusRight ↔ job.finalStatus run = job.aggregate :=
        statusRight_iff
      rw [forall_prop_of_true hOthers, hRight]
      cases hKind : run.kind with
      | runDeploymentJob =>
        rw [finalStatus_first h hMem hKind hDone]
        constructor
        · rintro hMade j other hSettle hOther - -
          obtain rfl := Step.settle.inj hSettle
          obtain rfl := Option.some.inj (hRun.symm.trans hOther)
          exact hMade
        · intro hUndisturbed
          exact hUndisturbed i run rfl hRun hKind hOthers
      | retryFailedTargets =>
        refine iff_of_true (finalStatus_retry h hMem hKind hTerminal) ?_
        intro j other hSettle hOther hFirst
        obtain rfl := Step.settle.inj hSettle
        obtain rfl := Option.some.inj (hRun.symm.trans hOther)
        rw [hKind] at hFirst
        cases hFirst
    · refine iff_of_true (fun hIdle => absurd hIdle hOthers) ?_
      intro j other hSettle _ _ hEnded
      obtain rfl := Step.settle.inj hSettle
      exact absurd hEnded hOthers

theorem consistent_after_steps {steps : List Step}
    (hRun : Run step (fun _ job => job.Consistent) job steps job') (hLast : job'.Consistent) :
    job.Consistent := by
  cases hRun with
  | nil => exact hLast
  | cons hConsistent _ _ => exact hConsistent

theorem run_undisturbed_iff {steps : List Step} (h : job.Invariant) (hOk : job.Consistent) :
    Run step Undisturbed job steps job' ↔
      Run step (fun _ job => job.Consistent) job steps job' ∧ job'.Consistent := by
  constructor
  · intro hRun
    induction hRun with
    | nil job => exact ⟨.nil job, hOk⟩
    | cons hUndisturbed hStep _ ih =>
      have hNext := (consistent_step h hOk hStep).mpr hUndisturbed
      obtain ⟨hRest, hLast⟩ := ih (h.step hStep) hNext
      exact ⟨.cons hOk hStep hRest, hLast⟩
  · rintro ⟨hRun, hLast⟩
    induction hRun with
    | nil job => exact .nil job
    | cons hConsistent hStep hRest ih =>
      have hNext := consistent_after_steps hRest hLast
      exact .cons ((consistent_step h hConsistent hStep).mp hNext) hStep
        (ih (h.step hStep) hNext hLast)

end DeploymentJob

open DeploymentJob

def createDeploymentJob (first : String) (rest : List String) : DeploymentJob where
  targets := first :: rest
  nonempty := List.cons_ne_nil first rest

theorem invariant_createDeploymentJob (first : String) (rest : List String) :
    (createDeploymentJob first rest).Invariant where
  fresh _ := rfl
  allPending _ _ _ := rfl
  nonePending hSome := absurd rfl hSome
  busy t := by simp [createDeploymentJob, Installs]
  exclusive i j t hI := by simp [createDeploymentJob, Installs] at hI
  success run hRun := by simp [createDeploymentJob] at hRun
  owned run hRun := by simp [createDeploymentJob] at hRun
  complete run hRun := by simp [createDeploymentJob] at hRun
  ended run hRun := by simp [createDeploymentJob] at hRun

theorem consistent_createDeploymentJob (first : String) (rest : List String) :
    (createDeploymentJob first rest).Consistent where
  status hIdle := by cases hIdle.1
  exclusive := (invariant_createDeploymentJob first rest).exclusive

theorem job_consistent_iff (first : String) (rest : List String) (steps : List Step)
    (job : DeploymentJob) :
    Run step Undisturbed (createDeploymentJob first rest) steps job ↔
      Run step (fun _ job => job.Consistent) (createDeploymentJob first rest) steps job ∧
        job.Consistent :=
  run_undisturbed_iff (invariant_createDeploymentJob first rest)
    (consistent_createDeploymentJob first rest)

def retriedMeanwhile : List Step :=
  [.runDeploymentJob true, .finish 0 "a" .failed, .retryFailedTargets true, .apply 1 "a",
    .finish 1 "a" .success, .settle 1, .apply 0 "b", .finish 0 "b" .success, .settle 0]

/-- All targets are installed, and the status says that some are not. -/
theorem retried_job_partialSuccess :
    ∃ job, Run step (fun _ _ => True) (createDeploymentJob "a" ["b"]) retriedMeanwhile job ∧
      job.status = .partialSuccess ∧ ¬ job.Consistent := by
  refine ⟨_, .cons trivial rfl (.cons trivial rfl (.cons trivial rfl (.cons trivial rfl
    (.cons trivial rfl (.cons trivial rfl (.cons trivial rfl (.cons trivial rfl
    (.cons trivial rfl (.nil _))))))))), rfl, fun hConsistent => ?_⟩
  have hStatus := statusRight_iff.mp (hConsistent.status ⟨rfl, by decide⟩)
  revert hStatus
  decide

end EsosWebui.Deployment
