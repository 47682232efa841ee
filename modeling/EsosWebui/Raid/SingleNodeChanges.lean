import EsosWebui.Raid.SingleNodeRule

/-! The routes through which a clustered SAN is changed on one node alone: those that do not ask the
guard, and local recoveries. -/
namespace EsosWebui.Raid

open Js

section

variable [CaseMapping] {cleanup : MetadataCleanup} {sanId : String}
  {answers : NodeCleaningAnswers} {members : List String}

theorem mem_log_eraseChecked_iff {e : Erasure} :
    e ∈ (cleanup.eraseChecked sanId answers members).log ↔
      answers.ready = true ∧ ∃ inventory, answers.overview = .ok inventory ∧
        cleanup.cleaner.validate members inventory.1 inventory.2 = [] ∧
        e ∈ (cleanup.eraseMembers sanId (some inventory) answers.cleaning members).log := by
  unfold MetadataCleanup.eraseChecked
  simp only [Traced.mem_log_quiet_bind, throwIf_eq_ok, Bool.not_eq_true', Bool.not_eq_false]
  constructor
  · rintro ⟨_, hReady, inventory, hOverview, h⟩
    split at h
    · cases h
    · rename_i hNone
      exact ⟨hReady, inventory, hOverview, hNone, h⟩
  · rintro ⟨hReady, inventory, hOverview, hNone, h⟩
    refine ⟨(), hReady, inventory, hOverview, ?_⟩
    rw [hNone]
    exact h

theorem result_eraseChecked_ok_iff :
    (∃ r, (cleanup.eraseChecked sanId answers members).result = .ok r) ↔
      answers.ready = true ∧ ∃ inventory, answers.overview = .ok inventory ∧
        cleanup.cleaner.validate members inventory.1 inventory.2 = [] ∧
        ∃ r, cleanup.run answers.cleaning members = .ok r := by
  unfold MetadataCleanup.eraseChecked
  simp only [Traced.result_bind, Traced.result_quiet, bind_eq_ok, throwIf_eq_ok,
    Bool.not_eq_true', Bool.not_eq_false]
  constructor
  · rintro ⟨r, _, hReady, inventory, hOverview, h⟩
    split at h
    · cases h
    · rename_i hNone
      exact ⟨hReady, inventory, hOverview, hNone, r, mapError_eq_ok.mp h⟩
  · rintro ⟨hReady, inventory, hOverview, hNone, r, h⟩
    refine ⟨r, (), hReady, inventory, hOverview, ?_⟩
    rw [hNone]
    exact mapError_eq_ok.mpr h

end

section

variable [Host]

/-- A local recovery that gets through to the node and is not refused there. -/
structure CleaningRoute.RecoveryAccepted (nodes : MdNodes) (sanId : String) (body : CleaningBody)
    (route : CleaningRoute) : Prop where
  members : body.members ≠ []
  mode : route.checkMode body.advanced = .ok ()
  alone : body.clusterExecution = none
  valid : ∃ localRecovery phrase, asLocal body.localRecovery = some localRecovery ∧
    validateLocalRecoveryForCleanup nodes.san
      { querySanId := sanId, localRecovery, requestMembers := body.members } = .ok phrase
  onNode : route.PassesOn nodes.site.here body

variable {nodes : MdNodes} {sanId : String} {route : CleaningRoute} {body : CleaningBody}

omit [Host] in
theorem alone_iff {clusterExecution : Option ClusterExecutionBody}
    {localRecovery : Option MdLocalRecoveryRequest}
    (hLocal : (asLocal localRecovery).isSome) :
    assertMutualExclusiveClusterAndLocal clusterExecution localRecovery = .ok () ↔
      clusterExecution = none := by
  unfold assertMutualExclusiveClusterAndLocal
  rw [throwIf_eq_ok, hLocal]
  cases clusterExecution <;> simp

omit [Host] in
theorem guard_of_local_iff (hClustered : clusterOf nodes.san ≠ none)
    {localRecovery : MdLocalRecoveryRequest} {clusterCtx : Option ClusteredMdMutation}
    (hLocal : asLocal body.localRecovery = some localRecovery) :
    assertClusteredSanAllowsMutation nodes.san sanId body.clusterExecution body.localRecovery =
        .ok clusterCtx ↔
      body.clusterExecution = none ∧ localRecovery.sanId = sanId ∧
        clusterCtx = some (.local localRecovery) := by
  obtain ⟨clusterId, hCluster⟩ := Option.ne_none_iff_exists'.mp hClustered
  have hSome : (asLocal body.localRecovery).isSome = true := by rw [hLocal]; rfl
  unfold assertClusteredSanAllowsMutation
  simp only [hCluster, hLocal, bind_eq_ok, alone_iff hSome, throwIf_eq_ok, not_not, ne_eq]
  constructor
  · rintro ⟨_, hAlone, _, hSan, h⟩
    cases h
    exact ⟨hAlone, hSan, rfl⟩
  · rintro ⟨hAlone, hSan, rfl⟩
    exact ⟨(), hAlone, (), hSan, rfl⟩

theorem sanId_of_validateLocalRecovery {san : Option SanSummary} {input : LocalRecoveryInput}
    {phrase : String} (h : validateLocalRecoveryForCleanup san input = .ok phrase) :
    input.localRecovery.sanId = input.querySanId := by
  obtain ⟨_, -, h⟩ := bind_eq_ok.mp h
  obtain ⟨_, -, h⟩ := bind_eq_ok.mp h
  obtain ⟨_, hSan, -⟩ := bind_eq_ok.mp h
  exact not_not.mp (throwIf_eq_ok.mp hSan)

/-- What a recovery removes, it removes from the current node, once it is accepted. -/
theorem accepted_of_erased (hClustered : clusterOf nodes.san ≠ none)
    (hLocal : (asLocal body.localRecovery).isSome) {e : Erasure}
    (h : e ∈ (route.handler nodes.site sanId body).log) :
    e.sanId = sanId ∧ route.RecoveryAccepted nodes sanId body ∧
      (route.cleanup body).Sends nodes.here.cleaning body.members := by
  obtain ⟨localRecovery, hLocal'⟩ := Option.isSome_iff_exists.mp hLocal
  unfold CleaningRoute.handler at h
  simp only [Traced.mem_log_quiet_bind, checked_eq_ok, throwIf_eq_ok, alone_iff hLocal] at h
  obtain ⟨_, hMembers, _, hMode, _, hAlone, clusterCtx, hGuard, h⟩ := h
  obtain ⟨-, -, rfl⟩ := (guard_of_local_iff hClustered hLocal').mp hGuard
  unfold CleaningRoute.runLocal at h
  simp only [Traced.log_bind_pure, Traced.mem_log_quiet_bind, checked_eq_ok] at h
  obtain ⟨_, -, phrase, hValid, h⟩ := h
  obtain ⟨hReady, inventory, hOverview, hNone, hErased⟩ := mem_log_eraseChecked_iff.mp h
  rw [hAlone] at hValid
  exact ⟨sanId_of_eraseChecked h, ⟨hMembers, hMode, hAlone,
    ⟨localRecovery, phrase, hLocal', hValid⟩, hReady, inventory, hOverview, hNone⟩,
    exists_erased_iff.mp ⟨e, hErased⟩⟩

theorem exists_erased_locally_iff (hClustered : clusterOf nodes.san ≠ none)
    (hLocal : (asLocal body.localRecovery).isSome) :
    (∃ e, e ∈ (route.handler nodes.site sanId body).log) ↔
      route.RecoveryAccepted nodes sanId body ∧
        (route.cleanup body).Sends nodes.here.cleaning body.members := by
  constructor
  · rintro ⟨e, h⟩
    exact (accepted_of_erased hClustered hLocal h).2
  · rintro ⟨⟨hMembers, hMode, hAlone, ⟨localRecovery, phrase, hNamed, hValid⟩,
      hReady, inventory, hOverview, hNone⟩, hSends⟩
    obtain ⟨e, hErased⟩ := exists_erased_iff.mpr hSends
    unfold CleaningRoute.handler
    simp only [Traced.mem_log_quiet_bind, checked_eq_ok, throwIf_eq_ok, alone_iff hLocal]
    refine ⟨e, (), hMembers, (), hMode, (), hAlone, some (.local localRecovery),
      (guard_of_local_iff hClustered hNamed).mpr
        ⟨hAlone, sanId_of_validateLocalRecovery hValid, rfl⟩, ?_⟩
    unfold CleaningRoute.runLocal
    simp only [Traced.log_bind_pure, Traced.mem_log_quiet_bind, checked_eq_ok, hAlone]
    exact ⟨(), throwIf_eq_ok.mpr (by simp), phrase, hValid,
      mem_log_eraseChecked_iff.mpr ⟨hReady, inventory, hOverview, hNone, hErased⟩⟩

theorem result_locally_ok_iff (hClustered : clusterOf nodes.san ≠ none)
    (hLocal : (asLocal body.localRecovery).isSome) :
    (∃ response, (route.handler nodes.site sanId body).result = .ok response) ↔
      route.RecoveryAccepted nodes sanId body ∧
        ∃ response, (route.cleanup body).run nodes.here.cleaning body.members = .ok response := by
  obtain ⟨localRecovery, hLocal'⟩ := Option.isSome_iff_exists.mp hLocal
  unfold CleaningRoute.handler
  simp only [Traced.result_bind, Traced.result_quiet, bind_eq_ok, checked_eq_ok, throwIf_eq_ok,
    alone_iff hLocal]
  constructor
  · rintro ⟨response, _, hMembers, _, hMode, _, hAlone, clusterCtx, hGuard, h⟩
    obtain ⟨-, -, rfl⟩ := (guard_of_local_iff hClustered hLocal').mp hGuard
    unfold CleaningRoute.runLocal at h
    simp only [Traced.result_bind, Traced.result_quiet, bind_eq_ok, checked_eq_ok] at h
    obtain ⟨zeroed, ⟨_, -, phrase, hValid, hRun⟩, -⟩ := h
    obtain ⟨hReady, inventory, hOverview, hNone, hRun⟩ :=
      result_eraseChecked_ok_iff.mp ⟨zeroed, hRun⟩
    rw [hAlone] at hValid
    exact ⟨⟨hMembers, hMode, hAlone, ⟨localRecovery, phrase, hLocal', hValid⟩,
      hReady, inventory, hOverview, hNone⟩, hRun⟩
  · rintro ⟨⟨hMembers, hMode, hAlone, ⟨localRecovery, phrase, hNamed, hValid⟩,
      hReady, inventory, hOverview, hNone⟩, hRun⟩
    obtain ⟨zeroed, hErased⟩ := result_eraseChecked_ok_iff.mpr
      ⟨hReady, inventory, hOverview, hNone, hRun⟩
    refine ⟨.localRecovery zeroed, (), hMembers, (), hMode, (), hAlone,
      some (.local localRecovery), (guard_of_local_iff hClustered hNamed).mpr
        ⟨hAlone, sanId_of_validateLocalRecovery hValid, rfl⟩, ?_⟩
    unfold CleaningRoute.runLocal
    simp only [Traced.result_bind, Traced.result_quiet, bind_eq_ok, checked_eq_ok, hAlone]
    exact ⟨zeroed, ⟨(), throwIf_eq_ok.mpr (by simp), phrase, hValid, hErased⟩, rfl⟩

/-- A command for a member is sent. -/
structure ChangesMember (answers : MdNodeAnswers) (option arrayName device : String) : Prop where
  named : arrayName ≠ ""
  member : device ≠ ""
  ready : answers.ready = true
  writeEnabled : answers.writeEnabled = true
  command : ∃ command, memberCommand option arrayName device = .ok command

structure AssemblesStopped (answers : MdNodeAnswers) (body : AssembleMdArrayBody) : Prop where
  named : body.name ≠ ""
  confirmed : ∃ phrase, expectedMdAssembleConfirmation body.name = .ok phrase ∧
    body.confirmation = some phrase
  ready : answers.ready = true
  writeEnabled : answers.writeEnabled = true
  command : ∃ command, assembleCommand body.name body.targetName body.members = .ok command

/-- A recovery that is accepted has to be one that the cluster is blocked for; a request to a route
without a guard must not get as far as its first command. -/
def MdRequest.HoldsWhen (nodes : MdNodes) (sanId : String) : MdRequest → Prop
  | clean route body => route.RecoveryAccepted nodes sanId body →
      ((route.cleanup body).Sends nodes.here.cleaning body.members →
        route.Blocked nodes.cluster sanId body) ∧
      (route.Passes nodes.cluster sanId body →
        ¬ ∃ response, (route.cleanup body).run nodes.here.cleaning body.members = .ok response)
  | remove arrayName device confirmation =>
    ¬ (confirmation = some s!"REMOVE {device}" ∧
      ChangesMember nodes.here "--remove" arrayName device)
  | faulty arrayName device => ¬ ChangesMember nodes.here "--fail" arrayName device
  | stoppedAssemble body => ¬ AssemblesStopped nodes.here body
  | stoppedZeroSuperblock body => ¬ RunsForStopped nodes.site.here body
  | create _ | prepare _ | assemble _ | stop .. | add .. => True

/-- The request is one that is made of the current node alone, without saying so. -/
theorem not_excepted_of_unguarded {request : MdRequest} {target : String}
    (hPlan : ∃ error, request.plan nodes.cluster = .error error)
    (hStop : ∀ arrayName body, request ≠ .stop arrayName body)
    (hClean : ∀ route body, request ≠ .clean route body) :
    ¬ request.Excepted nodes sanId target := by
  rintro (⟨plan, hPlanned, -⟩ | ⟨-, hCurrent | hLocal⟩)
  · obtain ⟨error, hError⟩ := hPlan
    rw [hPlanned] at hError
    cases hError
  · obtain ⟨arrayName, body, _, _, _, hRequest, -⟩ := hCurrent
    exact hStop arrayName body hRequest
  · obtain ⟨route, body, hRequest, -⟩ := hLocal
    exact hClean route body hRequest

theorem keeps_iff_of_unguarded {request : MdRequest} {sends : Prop}
    (hPlan : ∃ error, request.plan nodes.cluster = .error error)
    (hStop : ∀ arrayName body, request ≠ .stop arrayName body)
    (hClean : ∀ route body, request ≠ .clean route body)
    (hSends : (∃ c, c ∈ (request.handle nodes sanId).log) ↔ sends) :
    request.KeepsNodesTogether nodes sanId ↔ ¬ sends := by
  rw [← hSends]
  constructor
  · rintro hKeeps ⟨c, hSent⟩
    exact not_excepted_of_unguarded hPlan hStop hClean (hKeeps.excepted c hSent)
  · intro hNone
    exact ⟨fun c hSent => absurd ⟨c, hSent⟩ hNone,
      fun route body hRequest => absurd hRequest (hClean route body)⟩

omit [Host] in
theorem exists_sent_iff {answers : MdNodeAnswers} {command : Except HttpError String} :
    (∃ c, c ∈ answers.sent sanId command) ↔
      answers.writeEnabled = true ∧ ∃ text, command = .ok text := by
  constructor
  · rintro ⟨c, h⟩
    exact (sanId_of_sent h).2
  · rintro ⟨hWrite, text, rfl⟩
    exact ⟨{ sanId, command := wrapCommand text }, by simp [MdNodeAnswers.sent, hWrite]⟩

omit [Host] in
theorem exists_removed_iff {arrayName device : String} {confirmation : Option String} :
    (∃ c, c ∈ (handleRemove nodes sanId arrayName device confirmation).log) ↔
      confirmation = some s!"REMOVE {device}" ∧
        ChangesMember nodes.here "--remove" arrayName device := by
  unfold handleRemove requireMember MdNodeAnswers.requireReady
  simp only [Traced.mem_log_quiet_bind, Traced.log_bind_pure, checked_eq_ok, bind_eq_ok,
    throwIf_eq_ok, not_not, ne_eq, Bool.not_eq_true', Bool.not_eq_false]
  constructor
  · rintro ⟨c, _, ⟨_, hNamed, hMember⟩, _, hConfirmed, _, hReady, h⟩
    obtain ⟨hWrite, hCommand⟩ := exists_sent_iff.mp ⟨c, h⟩
    exact ⟨hConfirmed, hNamed, hMember, hReady, hWrite, hCommand⟩
  · rintro ⟨hConfirmed, hNamed, hMember, hReady, hWrite, hCommand⟩
    obtain ⟨c, h⟩ := exists_sent_iff.mpr ⟨hWrite, hCommand⟩
    exact ⟨c, (), ⟨(), hNamed, hMember⟩, (), hConfirmed, (), hReady, h⟩

omit [Host] in
theorem exists_failed_iff {arrayName device : String} :
    (∃ c, c ∈ (handleFaulty nodes sanId arrayName device).log) ↔
      ChangesMember nodes.here "--fail" arrayName device := by
  unfold handleFaulty requireMember MdNodeAnswers.requireReady
  simp only [Traced.mem_log_quiet_bind, Traced.log_bind_pure, checked_eq_ok, bind_eq_ok,
    throwIf_eq_ok, Bool.not_eq_true', Bool.not_eq_false]
  constructor
  · rintro ⟨c, _, ⟨_, hNamed, hMember⟩, _, hReady, h⟩
    obtain ⟨hWrite, hCommand⟩ := exists_sent_iff.mp ⟨c, h⟩
    exact ⟨hNamed, hMember, hReady, hWrite, hCommand⟩
  · rintro ⟨hNamed, hMember, hReady, hWrite, hCommand⟩
    obtain ⟨c, h⟩ := exists_sent_iff.mpr ⟨hWrite, hCommand⟩
    exact ⟨c, (), ⟨(), hNamed, hMember⟩, (), hReady, h⟩

omit [Host] in
theorem exists_assembled_iff {body : AssembleMdArrayBody} :
    (∃ c, c ∈ (handleStoppedMdAssemble nodes sanId body).log) ↔
      AssemblesStopped nodes.here body := by
  unfold handleStoppedMdAssemble assembleHere MdNodeAnswers.requireReady
  simp only [Traced.mem_log_quiet_bind, Traced.log_bind_pure, checked_eq_ok, throwIf_eq_ok,
    not_not, ne_eq, Bool.not_eq_true', Bool.not_eq_false]
  constructor
  · rintro ⟨c, _, hNamed, phrase, hPhrase, _, hConfirmed, _, hReady, h⟩
    obtain ⟨hWrite, hCommand⟩ := exists_sent_iff.mp ⟨c, h⟩
    exact ⟨hNamed, ⟨phrase, hPhrase, hConfirmed⟩, hReady, hWrite, hCommand⟩
  · rintro ⟨hNamed, ⟨phrase, hPhrase, hConfirmed⟩, hReady, hWrite, hCommand⟩
    obtain ⟨c, h⟩ := exists_sent_iff.mpr ⟨hWrite, hCommand⟩
    exact ⟨c, (), hNamed, phrase, hPhrase, (), hConfirmed, (), hReady, h⟩

omit [Host] in
theorem log_cleaningTraced {cleaning : Traced Erasure NodeError CleaningResponse} :
    (cleaningTraced cleaning).log = cleaning.log.map Erasure.nodeCommand :=
  Traced.log_bind_pure

omit [Host] in
theorem exists_cleaned_iff {cleaning : Traced Erasure NodeError CleaningResponse} :
    (∃ c, c ∈ (cleaningTraced cleaning).log) ↔ ∃ e, e ∈ cleaning.log := by
  rw [log_cleaningTraced]
  constructor
  · rintro ⟨c, h⟩
    obtain ⟨e, hErased, -⟩ := List.mem_map.mp h
    exact ⟨e, hErased⟩
  · rintro ⟨e, h⟩
    exact ⟨e.nodeCommand, List.mem_map_of_mem h⟩

omit [Host] in
theorem result_cleaningTraced_error_iff {cleaning : Traced Erasure NodeError CleaningResponse} :
    (∃ error, (cleaningTraced cleaning).result = .error error) ↔
      ¬ ∃ response, cleaning.result = .ok response := by
  unfold cleaningTraced
  rw [Traced.result_bind, Traced.result_mapLog]
  cases cleaning.result with
  | ok response =>
    refine iff_of_false ?_ (not_not.mpr ⟨response, rfl⟩)
    rintro ⟨error, h⟩
    cases h
  | error error => exact iff_of_true ⟨error, rfl⟩ (by rintro ⟨response, h⟩; cases h)

theorem excepted_locally_iff (hLocal : (asLocal body.localRecovery).isSome)
    (hAccepted : route.RecoveryAccepted nodes sanId body) :
    (MdRequest.clean route body).Excepted nodes sanId sanId ↔
      route.Blocked nodes.cluster sanId body := by
  constructor
  · rintro (⟨plan, hPlan, -⟩ | ⟨-, ⟨_, _, _, _, _, hRequest, -⟩ | ⟨_, _, hRequest, -, hBlocked, -⟩⟩)
    · obtain ⟨clusterExecution, hBody, -⟩ := bind_eq_ok.mp hPlan
      rw [hAccepted.alone] at hBody
      cases hBody
    · cases hRequest
    · cases hRequest
      exact hBlocked
  · intro hBlocked
    exact Or.inr ⟨rfl, Or.inr ⟨route, body, rfl, hLocal, hBlocked, hAccepted.onNode⟩⟩

theorem keeps_iff_of_local (hClustered : clusterOf nodes.san ≠ none)
    (hLocal : (asLocal body.localRecovery).isSome) :
    (MdRequest.clean route body).KeepsNodesTogether nodes sanId ↔
      (MdRequest.clean route body).HoldsWhen nodes sanId := by
  have hErased : (∃ e, e ∈ (route.handler nodes.site sanId body).log) ↔ _ :=
    exists_erased_locally_iff hClustered hLocal
  have hResult : (∃ response, (route.handler nodes.site sanId body).result = .ok response) ↔ _ :=
    result_locally_ok_iff hClustered hLocal
  constructor
  · intro hKeeps hAccepted
    constructor
    · intro hSends
      obtain ⟨e, hSent⟩ := hErased.mpr ⟨hAccepted, hSends⟩
      have hExcepted := hKeeps.excepted e.nodeCommand
        (log_cleaningTraced ▸ List.mem_map_of_mem hSent)
      have hId : e.nodeCommand.sanId = sanId := (accepted_of_erased hClustered hLocal hSent).1
      exact (excepted_locally_iff hLocal hAccepted).mp (hId ▸ hExcepted)
    · intro hPasses hRun
      exact result_cleaningTraced_error_iff.mp (hKeeps.refused route body rfl hLocal hPasses)
        (hResult.mpr ⟨hAccepted, hRun⟩)
  · intro hHolds
    constructor
    · intro c hSent
      obtain ⟨e, hErased, rfl⟩ := List.mem_map.mp (log_cleaningTraced ▸ hSent)
      obtain ⟨hId, hAccepted, hSends⟩ := accepted_of_erased hClustered hLocal hErased
      have hExcepted := (excepted_locally_iff hLocal hAccepted).mpr ((hHolds hAccepted).1 hSends)
      exact hId.symm ▸ hExcepted
    · rintro route' body' hRequest - hPasses
      cases hRequest
      refine result_cleaningTraced_error_iff.mpr fun hOk => ?_
      obtain ⟨hAccepted, hRun⟩ := hResult.mp hOk
      exact (hHolds hAccepted).2 hPasses hRun

theorem keeps_of_cluster (hClustered : clusterOf nodes.san ≠ none)
    (hLocal : asLocal body.localRecovery = none) :
    (MdRequest.clean route body).KeepsNodesTogether nodes sanId := by
  constructor
  · intro c hSent
    obtain ⟨e, hErased, rfl⟩ := List.mem_map.mp (log_cleaningTraced ▸ hSent)
    unfold CleaningRoute.handler at hErased
    simp only [Traced.mem_log_quiet_bind, checked_eq_ok] at hErased
    obtain ⟨_, -, _, -, _, -, clusterCtx, hGuard, hErased⟩ := hErased
    obtain ⟨clusterExecution, hBody, rfl⟩ := cluster_of_guard hClustered hLocal hGuard
    rw [Traced.log_bind_pure] at hErased
    obtain ⟨plan, hPlan, hTarget⟩ := plan_of_runCluster hErased
    exact Or.inl ⟨plan.coverage, bind_eq_ok.mpr ⟨clusterExecution, orThrow_eq_ok.mpr hBody,
      bind_eq_ok.mpr ⟨plan, hPlan, rfl⟩⟩, nodes_of_buildPlan hPlan, hTarget⟩
  · rintro route' body' hRequest hRecovers -
    cases hRequest
    rw [hLocal] at hRecovers
    cases hRecovers

end

theorem keeps_of_excepted [Host] {nodes : MdNodes} {sanId : String} {request : MdRequest}
    (hClean : ∀ route body, request ≠ .clean route body)
    (h : ∀ c ∈ (request.handle nodes sanId).log, request.Excepted nodes sanId c.sanId) :
    request.KeepsNodesTogether nodes sanId :=
  ⟨h, fun route body hRequest => absurd hRequest (hClean route body)⟩

/-- On a clustered SAN no node is changed alone but by an exception that is asked for, exactly if a
request does not come through one of the gaps: four routes that do not ask the guard, and a local
recovery that no preflight is given to. -/
theorem keepsNodesTogether_iff [Host] (nodes : MdNodes) (sanId : String) (request : MdRequest)
    (hClustered : clusterOf nodes.san ≠ none) :
    request.KeepsNodesTogether nodes sanId ↔ request.HoldsWhen nodes sanId := by
  cases request with
  | create body =>
    refine iff_of_true (keeps_of_excepted (by rintro _ _ ⟨⟩) fun c hSent => ?_) trivial
    change c ∈ (handleCreate nodes sanId body).log at hSent
    exact Or.inl (planned_of_create hClustered hSent)
  | prepare body =>
    refine iff_of_true (keeps_of_excepted (by rintro _ _ ⟨⟩) fun c hSent => ?_) trivial
    change c ∈ (handlePrepare nodes sanId body).log at hSent
    exact Or.inl (planned_of_prepare hClustered hSent)
  | assemble body =>
    refine iff_of_true (keeps_of_excepted (by rintro _ _ ⟨⟩) fun c hSent => ?_) trivial
    change c ∈ (handleAssemble nodes sanId body).log at hSent
    exact Or.inl (planned_of_assemble hClustered hSent)
  | stop arrayName body =>
    refine iff_of_true (keeps_of_excepted (by rintro _ _ ⟨⟩) fun c hSent => ?_) trivial
    change c ∈ (handleStop nodes sanId arrayName body).log at hSent
    rcases excepted_of_stop hClustered hSent with hPlan | ⟨hHere, hCurrent⟩
    · exact Or.inl hPlan
    · exact Or.inr ⟨hHere, Or.inl hCurrent⟩
  | add arrayName body =>
    refine iff_of_true (keeps_of_excepted (by rintro _ _ ⟨⟩) fun c hSent => ?_) trivial
    change c ∈ (handleAdd nodes sanId arrayName body).log at hSent
    exact Or.inl (planned_of_add hClustered hSent)
  | clean route body =>
    cases hLocal : asLocal body.localRecovery with
    | some localRecovery => exact keeps_iff_of_local hClustered (by rw [hLocal]; rfl)
    | none =>
      refine iff_of_true (keeps_of_cluster hClustered hLocal) fun hAccepted => ?_
      obtain ⟨localRecovery, phrase, hNamed, -⟩ := hAccepted.valid
      rw [hLocal] at hNamed
      cases hNamed
  | remove arrayName device confirmation =>
    exact keeps_iff_of_unguarded ⟨_, rfl⟩ (by rintro _ _ ⟨⟩) (by rintro _ _ ⟨⟩)
      exists_removed_iff
  | faulty arrayName device =>
    exact keeps_iff_of_unguarded ⟨_, rfl⟩ (by rintro _ _ ⟨⟩) (by rintro _ _ ⟨⟩)
      exists_failed_iff
  | stoppedAssemble body =>
    exact keeps_iff_of_unguarded ⟨_, rfl⟩ (by rintro _ _ ⟨⟩) (by rintro _ _ ⟨⟩)
      exists_assembled_iff
  | stoppedZeroSuperblock body =>
    exact keeps_iff_of_unguarded ⟨_, rfl⟩ (by rintro _ _ ⟨⟩) (by rintro _ _ ⟨⟩)
      (exists_cleaned_iff.trans exists_erased_of_stopped_iff)

/-- One of two nodes, which runs whatever it is sent. -/
def memberNodes : MdNodes where
  san := some { label := "A", clusterId := some "c" }
  cluster :=
    { nodes := [{ sanId := "a", label := "A" }, { sanId := "b", label := "B" }]
      unique := by decide }
  here :=
    { overview := .ok ([], []), cleaning := (cleanedAnswers 0).cleaning
      shell := fun _ _ => .ok ⟨[], some 0⟩ }
  onNode _ :=
    { overview := .ok ([], []), cleaning := (cleanedAnswers 0).cleaning
      shell := fun _ _ => .ok ⟨[], some 0⟩ }

/-- The stop of an array keeps the rule on a cluster of two nodes. -/
theorem stop_keepsNodesTogether :
    @MdRequest.KeepsNodesTogether anyHost memberNodes "a" (.stop "md0" {}) :=
  (@keepsNodesTogether_iff anyHost memberNodes "a" (.stop "md0" {}) (by decide)).mpr trivial

/-- A member of an array of a clustered SAN is set faulty on the current node alone. -/
theorem faulty_member_alone :
    ¬ ∀ (nodes : MdNodes) (sanId : String) (request : MdRequest), clusterOf nodes.san ≠ none →
      @MdRequest.KeepsNodesTogether anyHost nodes sanId request := by
  intro hKeeps
  let c : NodeCommand :=
    { sanId := "a", command := wrapCommand "mdadm /dev/md0 --fail /dev/sda1" }
  have hSent : c ∈ (@MdRequest.handle anyHost memberNodes "a"
      (.faulty "md0" "/dev/sda1")).log := by decide +kernel
  let _ : Host := anyHost
  exact not_excepted_of_unguarded ⟨_, rfl⟩ (by rintro _ _ ⟨⟩) (by rintro _ _ ⟨⟩)
    ((hKeeps memberNodes "a" (.faulty "md0" "/dev/sda1") (by decide)).excepted c hSent)

end EsosWebui.Raid
