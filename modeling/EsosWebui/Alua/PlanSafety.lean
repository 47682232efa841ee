import EsosWebui.Alua.PlanRuns

/-! What an execution of a plan can change in the course of a run, and how the groups of the two
nodes fit together after it. -/
namespace EsosWebui.Alua

open Js
open Scst (ScstConfig AluaDeviceGroupConfig)

/-- What happens to the nodes and the store; the files may also be written by anything else, as by
the plan that a request brings along. -/
abbrev Step : Type := AluaSystem.Action ⊕ (String → Text)

def waited (steps : List Step) : Nat :=
  (steps.map fun
    | .inl (.wait ms) => ms
    | _ => 0).sum

theorem applyEvents_keeps (sys : AluaSystem) (events : List ApplyEvent) :
    (sys.applyEvents events).store = sys.store ∧ (sys.applyEvents events).now = sys.now := by
  induction events generalizing sys with
  | nil => exact ⟨rfl, rfl⟩
  | cons event events ih =>
    cases event with
    | wrote nodeId content => exact ih (sys.setFile nodeId content)
    | reloaded nodeId => exact ih sys

theorem execute_keeps (sys : AluaSystem) (token confirmation : String)
    (answers : Nat → NodeAnswers) :
    (∀ entry ∈ (sys.execute token confirmation answers).1.store,
        entry ∈ sys.store ∧ entry.1 ≠ token) ∧
      (sys.execute token confirmation answers).1.now = sys.now := by
  have hConsumed : (∀ entry ∈ (sys.consumePlanToken token).1.store,
      entry ∈ sys.store ∧ entry.1 ≠ token) ∧ (sys.consumePlanToken token).1.now = sys.now := by
    unfold AluaSystem.consumePlanToken
    split
    · rename_i hNone
      refine ⟨fun entry hEntry => ⟨hEntry, ?_⟩, rfl⟩
      have hNe := List.lookup_eq_none_iff.mp hNone entry hEntry
      exact fun hIs => by simp [hIs] at hNe
    · exact ⟨fun entry hEntry => by simpa using hEntry, rfl⟩
  unfold AluaSystem.execute
  split
  · rename_i hToken
    rwa [hToken] at hConsumed
  · rename_i consumed plan hToken
    rw [hToken] at hConsumed
    dsimp only
    rwa [(applyEvents_keeps _ _).1, (applyEvents_keeps _ _).2]

section

variable [LocaleSort]

def AluaSystem.next (toLowerCase : Text → Text) (sys : AluaSystem) : Step → AluaSystem
  | .inl action => sys.step toLowerCase action
  | .inr files => { sys with files }

def AluaSystem.after (sys : AluaSystem) (toLowerCase : Text → Text) (steps : List Step) :
    AluaSystem :=
  steps.foldl (next toLowerCase) sys

/-- A plan was made under the token, from the files of that moment, and since then the token has
not been executed. -/
structure Previewed (toLowerCase : Text → Text) (start : AluaSystem) (steps : List Step)
    (token : String) (plan : AluaClusterPlan) (since : List Step) : Prop where
  issued : ∃ done req nodes, steps = done ++ .inl (.preview req nodes token) :: since ∧
    buildAluaClusterPlan req ((start.after toLowerCase done).readNodes nodes) = .ok plan
  notExecuted : ∀ confirmation answers, .inl (.execute token confirmation answers) ∉ since

/-- What is stored was previewed, and expires fifteen minutes after that. -/
def Fresh (toLowerCase : Text → Text) (start : AluaSystem) (steps : List Step)
    (entry : String × TokenEntry) : Prop :=
  ∃ since, Previewed toLowerCase start steps entry.1 entry.2.plan since ∧
    (start.after toLowerCase steps).now + ttlMs = entry.2.expiresAt + waited since

variable {toLowerCase : Text → Text} {start : AluaSystem} {steps : List Step}

theorem after_concat (step : Step) : start.after toLowerCase (steps ++ [step]) =
    (start.after toLowerCase steps).next toLowerCase step := by
  simp [AluaSystem.after]

theorem Fresh.concat {entry : String × TokenEntry} (h : Fresh toLowerCase start steps entry)
    {step : Step}
    (hOther : ∀ confirmation answers, .inl (.execute entry.1 confirmation answers) ≠ step)
    (hNow : ((start.after toLowerCase steps).next toLowerCase step).now =
      (start.after toLowerCase steps).now + waited [step]) :
    Fresh toLowerCase start (steps ++ [step]) entry := by
  obtain ⟨since, ⟨⟨done, req, nodes, hSplit, hPlan⟩, hNone⟩, hTime⟩ := h
  have hIssued : steps ++ [step] =
      done ++ .inl (.preview req nodes entry.1) :: (since ++ [step]) := by
    simp [hSplit]
  refine ⟨since ++ [step], ⟨⟨done, req, nodes, hIssued, hPlan⟩, ?_⟩, ?_⟩
  · intro confirmation answers hIn
    rcases List.mem_append.mp hIn with hIn | hIn
    · exact hNone confirmation answers hIn
    · exact hOther confirmation answers (List.mem_singleton.mp hIn)
  · have hWaited : waited (since ++ [step]) = waited since + waited [step] := by
      simp [waited]
    rw [after_concat, hNow, hWaited]
    omega

theorem fresh_of_steps (hStart : start.store = []) :
    ∀ entry ∈ (start.after toLowerCase steps).store, Fresh toLowerCase start steps entry := by
  induction steps using List.reverseRecOn with
  | nil =>
    intro entry hEntry
    rw [AluaSystem.after, List.foldl_nil, hStart] at hEntry
    cases hEntry
  | append_singleton steps step ih =>
    intro entry hEntry
    rw [after_concat] at hEntry
    rcases step with action | files
    swap
    · exact (ih entry hEntry).concat nofun rfl
    cases action with
    | mutate nodeId request =>
      have hKeeps (sys : AluaSystem) :
          (sys.next toLowerCase (.inl (.mutate nodeId request))).store = sys.store ∧
            (sys.next toLowerCase (.inl (.mutate nodeId request))).now = sys.now := by
        unfold AluaSystem.next AluaSystem.step
        dsimp only
        split <;> exact ⟨rfl, rfl⟩
      exact (ih entry ((hKeeps _).1 ▸ hEntry)).concat nofun (hKeeps _).2
    | preview req nodes token =>
      unfold AluaSystem.next AluaSystem.step at hEntry
      dsimp only at hEntry
      split at hEntry
      · rename_i plan hPlan
        rcases List.mem_cons.mp hEntry with rfl | hOld
        · refine ⟨[], ⟨⟨steps, req, nodes, rfl, hPlan⟩, fun _ _ => List.not_mem_nil⟩, ?_⟩
          simp [after_concat, AluaSystem.next, AluaSystem.step, hPlan, AluaSystem.issuePlanToken,
            waited]
        · refine (ih entry (List.mem_filter.mp hOld).1).concat nofun ?_
          simp [AluaSystem.next, AluaSystem.step, hPlan, AluaSystem.issuePlanToken, waited]
      · rename_i hPlan
        refine (ih entry hEntry).concat nofun ?_
        simp [AluaSystem.next, AluaSystem.step, hPlan, waited]
    | execute token confirmation answers =>
      obtain ⟨hStore, hNow⟩ :=
        execute_keeps (start.after toLowerCase steps) token confirmation answers
      obtain ⟨hOld, hNe⟩ := hStore entry hEntry
      refine (ih entry hOld).concat (fun _ _ hIs => ?_) hNow
      injection Sum.inl.inj hIs with hToken
      exact hNe hToken
    | changeMembers sans => exact (ih entry hEntry).concat nofun rfl
    | wait ms => exact (ih entry hEntry).concat nofun rfl

/-- An execution changes a file only under a confirmation of a plan for two members, none of them
read-only, and on a node of the plan. The plan was made from the files of at most fifteen minutes
ago, and its token was not used before. -/
theorem execute_changes_planned (hStart : start.store = []) {token confirmation : String}
    {answers : Nat → NodeAnswers} {nodeId : String}
    (hChanged : ((start.after toLowerCase steps).execute token confirmation answers).1.files
      nodeId ≠ (start.after toLowerCase steps).files nodeId) :
    ∃ plan since, Previewed toLowerCase start steps token plan since ∧ waited since ≤ ttlMs ∧
      nodeId ∈ plan.order ∧ trimString confirmation = aluaConfirmationPhrase ∧
      ((start.after toLowerCase steps).memberIds plan).length = 2 ∧
      ∀ node ∈ resolveClusterEnabledNodes (start.after toLowerCase steps).sans plan.clusterId,
        node.readOnly = false := by
  have hFresh := @fresh_of_steps _ toLowerCase start steps hStart
  unfold AluaSystem.execute AluaSystem.consumePlanToken at hChanged
  cases hLookup : (start.after toLowerCase steps).store.lookup token with
  | none => simp [hLookup] at hChanged
  | some entry =>
    obtain ⟨since, hPreviewed, hTime⟩ := hFresh _ (mem_of_lookup hLookup)
    rw [hLookup] at hChanged
    dsimp only at hChanged hTime
    by_cases hExpired : (start.after toLowerCase steps).now > entry.expiresAt
    · simp [if_pos hExpired] at hChanged
    · rw [if_neg hExpired] at hChanged
      dsimp only [applyAluaClusterPlan] at hChanged
      cases hMembers : membersToApply (start.after toLowerCase steps).sans entry.plan
        confirmation with
      | error error => simp [hMembers, AluaSystem.applyEvents] at hChanged
      | ok members =>
        rw [hMembers] at hChanged
        have hTurn : nodeId ∈ entry.plan.order := by
          by_contra hOut
          exact hChanged (files_of_not_written fun content hWrote =>
            hOut (hasTurn_of_wrote hWrote).1)
        have hIs := membersToApply_eq_ok hMembers
        obtain ⟨_, hPhrase, hMembers⟩ := bind_eq_ok.mp hMembers
        obtain ⟨found, -, hMembers⟩ := bind_eq_ok.mp hMembers
        obtain ⟨_, hTwo, hMembers⟩ := bind_eq_ok.mp hMembers
        obtain ⟨_, hWritable, hMembers⟩ := bind_eq_ok.mp hMembers
        obtain rfl := pure_eq_ok.mp hMembers
        refine ⟨entry.plan, since, hPreviewed, by omega, hTurn, ?_, ?_, ?_⟩
        · simpa using throwIf_eq_ok.mp hPhrase
        · rw [AluaSystem.memberIds, ← hIs, List.length_map]
          simpa using throwIf_eq_ok.mp hTwo
        · simpa using throwIf_eq_ok.mp hWritable

end

theorem execute_changes_planned_twoNode :
    ∃ plan since, @Previewed asciiSort id twoNodeSystem
        [.inl (.preview twoNodeRequest [("a", "a"), ("b", "b")] "t"), .inl (.wait 60000)]
        "t" plan since ∧
      waited since ≤ ttlMs ∧ "a" ∈ plan.order := by
  obtain ⟨plan, since, hPreviewed, hTime, hNode, -⟩ :=
    @execute_changes_planned asciiSort id twoNodeSystem
      [.inl (.preview twoNodeRequest [("a", "a"), ("b", "b")] "t"), .inl (.wait 60000)] rfl "t"
      "CONFIGURE ALUA" (fun _ => {}) "a" (by decide +kernel)
  exact ⟨plan, since, hPreviewed, hTime, hNode⟩

/-- Two groups of one name and for the same devices, each with the other's two target groups under
swapped names: the targets and the ids of one node's local group are those of the other's remote
one. -/
def Mirrored (own other : AluaDeviceGroupConfig) : Prop :=
  own.name = other.name ∧ own.devices = other.devices ∧
    ∃ l r l' r', own.targetGroups = [l, r] ∧ other.targetGroups = [l', r'] ∧
      l.name = l'.name ∧ r.name = r'.name ∧ l.targets = r'.targets ∧ r.targets = l'.targets ∧
      l.groupId = r'.groupId ∧ r.groupId = l'.groupId

def TargetsExist (config : ScstConfig) (dg : AluaDeviceGroupConfig) : Prop :=
  ∀ group ∈ dg.targetGroups, ∀ target ∈ group.targets, targetExistsOnConfig config target = true

theorem targetsExist_of_require {config : ScstConfig} {hostname : String}
    {dg : AluaDeviceGroupConfig} (h : requireTargets config hostname dg = .ok ()) :
    TargetsExist config dg := by
  intro group hGroup target hTarget
  unfold requireTargets at h
  split at h
  · cases h
  · rename_i hNone
    simpa using List.find?_eq_none.mp hNone target
      (List.mem_flatMap.mpr ⟨group, hGroup, hTarget⟩)

section

variable [LocaleSort] {preview before : AluaSystem} {req : AluaWizardRequest}
  {nodes : List (String × String)} {plan : AluaClusterPlan}

theorem mirrored_of_plan {inputs : List NodePlanInput}
    (h : buildAluaClusterPlan req inputs = .ok plan) :
    ∃ own other, plan.nodes = [own, other] ∧ own.nodeId = plan.primaryNodeId ∧
      other.nodeId = plan.peerNodeId ∧ Mirrored own.deviceGroup other.deviceGroup ∧
      ∀ nodePlan ∈ plan.nodes, ∃ input ∈ inputs, input.nodeId = nodePlan.nodeId ∧
        TargetsExist input.config nodePlan.deviceGroup := by
  obtain ⟨primary, peer, own, other, hNodes, hOwn, hOther, rfl⟩ := buildAluaClusterPlan_eq_ok h
  obtain ⟨hPrimaryIn, hPeerIn, -⟩ := resolvePrimaryAndPeer_eq_ok hNodes
  obtain ⟨hOwnId, -, hOwnGroup, -, -, hOwnTargets⟩ := buildNodePlan_eq_ok hOwn
  obtain ⟨hOtherId, -, hOtherGroup, -, -, hOtherTargets⟩ := buildNodePlan_eq_ok hOther
  refine ⟨own, other, rfl, hOwnId, hOtherId, ?_, fun nodePlan hNode => ?_⟩
  · rw [hOwnGroup, hOtherGroup]
    exact ⟨rfl, rfl, _, _, _, _, rfl, rfl, rfl, rfl, rfl, rfl, rfl, rfl⟩
  · rcases List.mem_pair.mp hNode with rfl | rfl
    · exact ⟨primary, hPrimaryIn, hOwnId.symm, targetsExist_of_require hOwnTargets⟩
    · exact ⟨peer, hPeerIn, hOtherId.symm, targetsExist_of_require hOtherTargets⟩

/-- A plan is made, anything else happens outside of its group on its two nodes, and its
application succeeds. Then the configurations of the two nodes have groups that are mirror images,
and all targets in them exist on their node. -/
theorem applied_groups_mirrored
    (hPlan : buildAluaClusterPlan req (preview.readNodes nodes) = .ok plan)
    {token confirmation : String} {answers : Nat → NodeAnswers} {result : AluaClusterApplyResult}
    (hToken : (before.consumePlanToken token).2 = some plan)
    (hResult : (before.execute token confirmation answers).2 = .ok result)
    (hOk : result.ok = true) (hReadsBack : ∀ nodePlan ∈ plan.nodes, ReadsBack preview nodePlan)
    (hCurrent : ∀ nodePlan ∈ plan.nodes, nodePlan.nodeId ∈ before.memberIds plan ∧
      AgreeOutside nodePlan.deviceGroup.name (preview.config nodePlan.nodeId)
        (before.config nodePlan.nodeId)) :
    let after := (before.execute token confirmation answers).1
    ∃ own ∈ (after.config plan.primaryNodeId).deviceGroups,
      ∃ other ∈ (after.config plan.peerNodeId).deviceGroups, Mirrored own other ∧
        TargetsExist (after.config plan.primaryNodeId) own ∧
        TargetsExist (after.config plan.peerNodeId) other := by
  intro after
  obtain ⟨own, other, hNodes, hOwnId, hOtherId, hMirrored, hTargets⟩ := mirrored_of_plan hPlan
  have hApplied : ∀ nodePlan ∈ plan.nodes,
      nodePlan.deviceGroup ∈ (after.config nodePlan.nodeId).deviceGroups ∧
        TargetsExist (after.config nodePlan.nodeId) nodePlan.deviceGroup := by
    intro nodePlan hNode
    obtain ⟨hMember, hAgree⟩ := hCurrent nodePlan hNode
    have hUpdated : after.config nodePlan.nodeId =
        withDeviceGroup nodePlan.deviceGroup (before.config nodePlan.nodeId) :=
      (groupUpdated_iff hPlan hToken hResult hOk hNode (hReadsBack nodePlan hNode)).mpr
        (by rwa [StillCurrent, if_pos hMember])
    refine ⟨?_, fun group hGroup target hTarget => ?_⟩
    · rw [hUpdated]
      exact List.mem_append_right _ List.mem_cons_self
    · obtain ⟨input, hInput, hId, hExist⟩ := hTargets nodePlan hNode
      obtain ⟨node, -, rfl⟩ := List.mem_map.mp hInput
      have hDrivers : (after.config nodePlan.nodeId).drivers =
          (preview.config nodePlan.nodeId).drivers := by
        rw [hUpdated, hAgree.2.1]
        rfl
      unfold targetExistsOnConfig
      rw [hDrivers, ← hId]
      exact hExist group hGroup target hTarget
  have hOwn := hApplied own (hNodes ▸ List.mem_cons_self)
  have hOther := hApplied other (hNodes ▸ List.mem_cons_of_mem _ List.mem_cons_self)
  rw [hOwnId] at hOwn
  rw [hOtherId] at hOther
  exact ⟨_, hOwn.1, _, hOther.1, hMirrored, hOwn.2, hOther.2⟩

end

theorem applied_groups_mirrored_twoNode :
    let after := ((twoNodeBefore []).execute "t" "CONFIGURE ALUA" fun _ => {}).1
    ∃ own ∈ (after.config twoNodePlan.primaryNodeId).deviceGroups,
      ∃ other ∈ (after.config twoNodePlan.peerNodeId).deviceGroups, Mirrored own other ∧
        TargetsExist (after.config twoNodePlan.primaryNodeId) own ∧
        TargetsExist (after.config twoNodePlan.peerNodeId) other := by
  have hCurrent : ∀ nodePlan ∈ twoNodePlan.nodes,
      nodePlan.nodeId ∈ (twoNodeBefore []).memberIds twoNodePlan ∧
        AgreeOutside nodePlan.deviceGroup.name (twoNodeSystem.config nodePlan.nodeId)
          ((twoNodeBefore []).config nodePlan.nodeId) := by
    decide +kernel
  exact @applied_groups_mirrored asciiSort twoNodeSystem (twoNodeBefore []) twoNodeRequest
    [("a", "a"), ("b", "b")] twoNodePlan (by decide +kernel) "t" "CONFIGURE ALUA" (fun _ => {})
    bothApplied (by decide +kernel) (by decide +kernel) rfl readsBack_twoNode hCurrent

end EsosWebui.Alua
