import EsosWebui.Raid.ErasureSafety
import EsosWebui.Raid.MdRequests

/-! When a change of a clustered SAN may be made on one of its nodes, and which routes make one in
other cases. -/
namespace EsosWebui.Raid

open Js

section

variable [Host]

abbrev PlanCoverage := ClusterStoragePreflightResult × List String

def ClusterMdPlan.coverage {mode : Type} (plan : ClusterMdPlan mode) : PlanCoverage :=
  (plan.preflight, (nodesToExecute plan.nodeResults).map (·.sanId))

def MdRequest.plan (cluster : Cluster) : MdRequest → Except HttpError PlanCoverage
  | create body => do
      let clusterExecution ← orThrow ⟨409, clusterMdBlockedMessage⟩ body.clusterExecution
      let request ← normalizeMdCreatePayload body.payload
      let plan ← buildCreateMdArrayClusterExecutionPlan cluster request clusterExecution
      return (plan.1, plan.2.map (·.sanId))
  | prepare body => do
      let clusterExecution ← orThrow ⟨409, clusterMdBlockedMessage⟩ body.clusterExecution
      let plan ← buildPrepareMdPartitionsClusterExecutionPlan cluster body clusterExecution
      return (plan.1, plan.2.map (·.sanId))
  | assemble body => do
      let clusterExecution ← orThrow ⟨409, clusterMdBlockedMessage⟩ body.clusterExecution
      let plan ← buildAssembleMdClusterExecutionPlan cluster (body.request clusterExecution)
        clusterExecution.recoveryMode
      return plan.coverage
  | stop arrayName body => do
      let clusterExecution ← orThrow ⟨409, clusterMdBlockedMessage⟩ body.clusterExecution
      let name ← normalizeMdArrayName arrayName
      let plan ← buildStopMdClusterExecutionPlan cluster (stopPlanRequest name clusterExecution)
      return plan.coverage
  | clean route body => do
      let clusterExecution ← orThrow ⟨409, clusterMdBlockedMessage⟩ body.clusterExecution
      let plan ← route.buildPlan cluster body clusterExecution
      return plan.coverage
  | add arrayName body => do
      let clusterExecution ← orThrow ⟨409, clusterMdBlockedMessage⟩ body.clusterExecution
      let intent ← orThrow ⟨400, "intent requis"⟩ body.intent
      let name ← normalizeMdArrayName arrayName
      let req := body.request intent clusterExecution
      let plan ← buildAddMdMemberClusterExecutionPlan cluster (req.input name)
        clusterExecution.diskMappings
      return (plan.preflight, plan.nodeResults.map (·.sanId))
  | remove .. | faulty .. | stoppedAssemble _ | stoppedZeroSuperblock _ =>
    .error ⟨409, clusterMdBlockedMessage⟩

def MdRequest.PlannedOn (cluster : Cluster) (request : MdRequest) (sanId : String) : Prop :=
  ∃ plan, request.plan cluster = .ok plan ∧ plan.1.nodes = cluster.nodes ∧ sanId ∈ plan.2

def MdRequest.StopsCurrentNode (request : MdRequest) : Prop :=
  ∃ arrayName body clusterExecution name phrase, request = .stop arrayName body ∧
    body.clusterExecution = some clusterExecution ∧
    clusterExecution.executionScope = some .currentNodeOnly ∧
    normalizeMdArrayName arrayName = .ok name ∧
    expectedCurrentNodeOnlyStopConfirmation name = .ok phrase ∧ body.confirmation = some phrase

def CleaningRoute.action : CleaningRoute → ClusterStorageAction
  | zeroSuperblocks => .zeroMdSuperblocks
  | wipeSignatures => .wipeMdSignatures

def CleaningRoute.preflight (cluster : Cluster) (sanId : String) (body : CleaningBody)
    (route : CleaningRoute) : Except HttpError ClusterStoragePreflightResult :=
  runClusterStoragePreflight cluster
    { primarySanId := sanId
      action := route.action
      payload := match route with
        | zeroSuperblocks => { members := body.members, name := body.name, uuid := body.uuid }
        | wipeSignatures =>
          { members := body.members, remainingSignatureTypes := body.remainingSignatureTypes } }

def superblockBlocker (node : ClusterStorageNodeInventory) (member : String) : String :=
  let label := node.label
  s!"{label} : {member} : Superblock MD existant détecté"

/-- A creation from another node is blocked by the superblocks of the members on this one, and by
nothing else. -/
def SuperblocksBlockCreate (cluster : Cluster) (sanId : String) (members : List String) : Prop :=
  ∃ node ∈ cluster.nodes, node.sanId = sanId ∧
    ∃ req preflight, req.action = .createMd ∧ req.primarySanId ≠ sanId ∧
      runClusterStoragePreflight cluster req = .ok preflight ∧ preflight.ok = false ∧
      ∀ blocker, blocker ∈ preflight.blockers ↔ ∃ m ∈ members, blocker = superblockBlocker node m

/-- The cluster preflight for the members is blocked only by disk mapping, or by superblocks of a
peer. -/
def CleaningRoute.Blocked (cluster : Cluster) (sanId : String) (body : CleaningBody)
    (route : CleaningRoute) : Prop :=
  (∃ preflight, route.preflight cluster sanId body = .ok preflight ∧
    isMappingAmbiguityClusterBlock preflight = true) ∨
  SuperblocksBlockCreate cluster sanId body.members

def CleaningRoute.Passes (cluster : Cluster) (sanId : String) (body : CleaningBody)
    (route : CleaningRoute) : Prop :=
  ∃ preflight, route.preflight cluster sanId body = .ok preflight ∧ preflight.ok = true

/-- The node's own checks of the members. -/
def CleaningRoute.PassesOn (here : NodeCleaningAnswers) (body : CleaningBody)
    (route : CleaningRoute) : Prop :=
  here.ready = true ∧ ∃ inventory, here.overview = .ok inventory ∧
    (route.cleanup body).cleaner.validate body.members inventory.1 inventory.2 = []

/-- A recovery on the current node that the cluster leaves no other way for. -/
def MdRequest.RecoversLocally (nodes : MdNodes) (sanId : String) (request : MdRequest) : Prop :=
  ∃ route body, request = .clean route body ∧ (asLocal body.localRecovery).isSome = true ∧
    route.Blocked nodes.cluster sanId body ∧ route.PassesOn nodes.site.here body

/-- What lets a change be made on a node. -/
def MdRequest.Excepted (nodes : MdNodes) (sanId : String) (request : MdRequest)
    (target : String) : Prop :=
  request.PlannedOn nodes.cluster target ∨
    (target = sanId ∧ (request.StopsCurrentNode ∨ request.RecoversLocally nodes sanId))

/-- A change of one node is an exception that is asked for, and a recovery that is not needed is
refused. -/
structure MdRequest.KeepsNodesTogether (nodes : MdNodes) (sanId : String) (request : MdRequest) :
    Prop where
  excepted : ∀ c ∈ (request.handle nodes sanId).log, request.Excepted nodes sanId c.sanId
  refused : ∀ route body, request = .clean route body →
    (asLocal body.localRecovery).isSome = true → route.Passes nodes.cluster sanId body →
    ∃ error, (request.handle nodes sanId).result = .error error

end

theorem ran_runNodes {runOnNode : RunOnNode} {st : RunState} {refs : List Nat} {r : Nat}
    (h : r ∈ (runNodes runOnNode st refs).1.ran) : r ∈ st.ran ∨ r ∈ refs := by
  induction refs generalizing st with
  | nil => exact Or.inl h
  | cons ref refs ih =>
    unfold runNodes at h
    dsimp only at h
    split at h
    · exact Or.inl h
    · split at h
      · rcases ih h with hRan | hRest
        · rcases List.mem_append.mp hRan with hBefore | hHere
          · exact Or.inl hBefore
          · exact Or.inr (List.mem_singleton.mp hHere ▸ List.mem_cons_self)
        · exact Or.inr (List.mem_cons_of_mem _ hRest)
      · rcases List.mem_append.mp h with hBefore | hHere
        · exact Or.inl hBefore
        · exact Or.inr (List.mem_singleton.mp hHere ▸ List.mem_cons_self)

variable {action : ClusterStorageAction}

theorem executes_of_ran {runOnNode : RunOnNode} {primarySanId : String}
    {nodes : List ClusterMdNodeResult} {named : Bool} {r : Nat}
    (h : r ∈ (executeNodes runOnNode action primarySanId nodes named).ran) :
    nodeAt nodes r ∈ nodesToExecute nodes := by
  obtain ⟨marked, allNodes, hMark, -, -, hEq⟩ :=
    executeNodes_eq runOnNode action primarySanId nodes named
  rw [hEq] at h
  unfold executeClusterMdNodes at h
  rw [hMark] at h
  have hOrder : r ∈ executionOrder nodes := by
    rcases ran_runNodes h with hNone | hIn
    · cases hNone
    · exact hIn
  have hBound := lt_of_mem_executionOrder hOrder
  have hAt := List.getElem?_eq_getElem hBound
  have hNode : nodeAt nodes r = nodes[r] := read_load hAt
  rw [hNode, nodesToExecute, List.mem_filter]
  exact ⟨List.getElem_mem _, beq_iff_eq.mpr ((mem_executionOrder_iff hAt).mp hOrder)⟩

variable {sanId : String}

theorem sanId_of_sent {answers : MdNodeAnswers} {command : Except HttpError String}
    {c : NodeCommand} (h : c ∈ answers.sent sanId command) :
    c.sanId = sanId ∧ answers.writeEnabled = true ∧ ∃ text, command = .ok text := by
  unfold MdNodeAnswers.sent at h
  split at h
  · split at h
    · rename_i text hWrite
      exact ⟨by rw [List.mem_singleton.mp h], hWrite, text, rfl⟩
    · cases h
  · cases h

theorem executing_of_executeTraced {run : Nat → ClusterMdNodeResult → MdTraced NodeOutput}
    {primarySanId : String} {nodes : List ClusterMdNodeResult} {c : NodeCommand}
    (hRun : ∀ position node, c ∈ (run position node).log → c.sanId = node.sanId)
    (h : c ∈ (executeTraced run action primarySanId nodes).log) :
    c.sanId ∈ (nodesToExecute nodes).map (·.sanId) := by
  unfold executeTraced at h
  obtain ⟨⟨ref, position⟩, hRan, hSent⟩ := List.mem_flatMap.mp h
  have hExecutes := executes_of_ran (List.fst_mem_of_mem_zipIdx hRan)
  exact List.mem_map.mpr ⟨_, hExecutes, (hRun position _ hSent).symm⟩

theorem exists_of_runPlanned {node α : Type} {label : node → String} {missing : String}
    {run : Nat → node → MdTraced α} {nodes : List node} {c : NodeCommand}
    (h : c ∈ (runPlanned label missing run nodes).log) :
    ∃ position, ∃ planned ∈ nodes, c ∈ (run position planned).log := by
  obtain ⟨⟨planned, position⟩, hMem, hSent⟩ := Traced.exists_of_mem_log_mapM h
  exact ⟨position, planned, List.fst_mem_of_mem_zipIdx hMem, hSent⟩

theorem checked_eq_ok {α : Type} {x : Except HttpError α} {a : α} :
    checked x = .ok a ↔ x = .ok a := mapError_eq_ok

theorem sanId_of_eraseChecked [CaseMapping] {cleanup : MetadataCleanup}
    {answers : NodeCleaningAnswers} {members : List String} {e : Erasure}
    (h : e ∈ (cleanup.eraseChecked sanId answers members).log) : e.sanId = sanId := by
  unfold MetadataCleanup.eraseChecked at h
  obtain ⟨_, -, h⟩ := Traced.mem_log_quiet_bind.mp h
  obtain ⟨inventory, -, h⟩ := Traced.mem_log_quiet_bind.mp h
  split at h
  · cases h
  · exact (exists_member_of_erased h).2.1

variable {cluster : Cluster} {clusterExecution : Option ClusterExecutionBody}

variable [Host]

theorem nodes_of_runClusterStoragePreflight {req : ClusterStoragePreflightRequest}
    {preflight : ClusterStoragePreflightResult}
    (h : runClusterStoragePreflight cluster req = .ok preflight) :
    preflight.nodes = cluster.nodes := by
  obtain ⟨run, rfl⟩ := exists_preflightRun h
  exact run.nodes_result

omit [Host] in
theorem cluster_of_guard {san : Option SanSummary} {localRecovery : Option MdLocalRecoveryRequest}
    {clusterCtx : Option ClusteredMdMutation} (hClustered : clusterOf san ≠ none)
    (hLocal : asLocal localRecovery = none)
    (h : assertClusteredSanAllowsMutation san sanId clusterExecution localRecovery =
      .ok clusterCtx) :
    ∃ body, clusterExecution = some body ∧ clusterCtx = some (.cluster body) := by
  obtain ⟨clusterId, hCluster⟩ := Option.ne_none_iff_exists'.mp hClustered
  unfold assertClusteredSanAllowsMutation at h
  rw [hCluster, hLocal] at h
  obtain ⟨_, -, h⟩ := bind_eq_ok.mp h
  obtain ⟨body, hBody, h⟩ := bind_eq_ok.mp h
  obtain ⟨_, -, h⟩ := bind_eq_ok.mp h
  obtain ⟨_, -, h⟩ := bind_eq_ok.mp h
  obtain ⟨_, -, h⟩ := bind_eq_ok.mp h
  cases h
  exact ⟨body, orThrow_eq_ok.mp hBody, rfl⟩

omit [Host] in
theorem clusterExecution_of_guard {san : Option SanSummary} {allowed : Option ClusterExecutionBody}
    (hClustered : clusterOf san ≠ none)
    (h : guardClusterExecution san sanId clusterExecution = .ok allowed) :
    ∃ body, clusterExecution = some body ∧ allowed = some body := by
  obtain ⟨clusterCtx, hGuard, rfl⟩ := map_eq_ok.mp h
  obtain ⟨body, hBody, rfl⟩ := cluster_of_guard hClustered rfl hGuard
  exact ⟨body, hBody, rfl⟩

omit [Host] in
theorem requireClusterExecution_eq_ok {clusterId sanId blocked : String}
    {allowed : ClusterExecutionBody}
    (h : requireClusterExecution clusterId sanId blocked clusterExecution = .ok allowed) :
    clusterExecution = some allowed := by
  obtain ⟨body, hBody, h⟩ := bind_eq_ok.mp h
  obtain ⟨_, -, h⟩ := bind_eq_ok.mp h
  obtain ⟨_, -, h⟩ := bind_eq_ok.mp h
  cases h
  exact orThrow_eq_ok.mp hBody

theorem nodes_of_requirePreflight {clusterExecution : ClusterExecutionBody} {payload : Payload}
    {preflight : ClusterStoragePreflightResult}
    (h : requirePreflight cluster clusterExecution action payload = .ok preflight) :
    preflight.nodes = cluster.nodes := by
  obtain ⟨_, -, h⟩ := bind_eq_ok.mp h
  obtain ⟨_, -, h⟩ := bind_eq_ok.mp h
  obtain ⟨_, -, h⟩ := bind_eq_ok.mp h
  obtain ⟨checked, hRun, h⟩ := bind_eq_ok.mp h
  obtain ⟨_, -, h⟩ := bind_eq_ok.mp h
  cases h
  exact nodes_of_runClusterStoragePreflight hRun

variable {nodes : MdNodes} {sanId : String} {c : NodeCommand}

theorem planned_of_create (hClustered : clusterOf nodes.san ≠ none) {body : CreateMdArrayBody}
    (h : c ∈ (handleCreate nodes sanId body).log) :
    (MdRequest.create body).PlannedOn nodes.cluster c.sanId := by
  obtain ⟨clusterId, hCluster⟩ := Option.ne_none_iff_exists'.mp hClustered
  unfold handleCreate at h
  rw [hCluster] at h
  simp only [Traced.mem_log_quiet_bind, checked_eq_ok, Traced.log_bind_pure] at h
  obtain ⟨_, -, _, -, _, -, _, -, _, -, request, hRequest, clusterExecution, hExecution, plan,
    hPlan, h⟩ := h
  obtain ⟨position, node, hNode, hSent⟩ := exists_of_runPlanned h
  have hId : c.sanId = node.sanId := by
    unfold createOnNode MdNodeAnswers.requireReady at hSent
    simp only [Traced.mem_log_quiet_bind] at hSent
    obtain ⟨_, -, _, -, _, -, _, -, _, -, _, -, hSent⟩ := hSent
    exact (sanId_of_sent hSent).1
  refine ⟨(plan.1, plan.2.map (·.sanId)), ?_, ?_, hId ▸ List.mem_map_of_mem hNode⟩
  · exact bind_eq_ok.mpr ⟨clusterExecution,
      orThrow_eq_ok.mpr (requireClusterExecution_eq_ok hExecution),
      bind_eq_ok.mpr ⟨request, hRequest, bind_eq_ok.mpr ⟨plan, hPlan, rfl⟩⟩⟩
  · obtain ⟨preflight, hPreflight, hRest⟩ := bind_eq_ok.mp hPlan
    obtain ⟨results, -, hRest⟩ := bind_eq_ok.mp hRest
    cases hRest
    exact nodes_of_requirePreflight hPreflight

omit [Host] in
theorem sanId_of_sentToPrepare {answers : MdNodeAnswers} {position : Nat} {commands : List String}
    (h : c ∈ answers.sentToPrepare sanId position commands) : c.sanId = sanId := by
  induction commands generalizing position with
  | nil => cases h
  | cons command commands ih =>
    unfold MdNodeAnswers.sentToPrepare at h
    rcases List.mem_cons.mp h with rfl | hRest
    · rfl
    · split at hRest
      · split at hRest
        · cases hRest
        · exact ih hRest
      · cases hRest

theorem planned_of_prepare (hClustered : clusterOf nodes.san ≠ none)
    {body : PrepareMdPartitionsBody} (h : c ∈ (handlePrepare nodes sanId body).log) :
    (MdRequest.prepare body).PlannedOn nodes.cluster c.sanId := by
  obtain ⟨clusterId, hCluster⟩ := Option.ne_none_iff_exists'.mp hClustered
  unfold handlePrepare at h
  rw [hCluster] at h
  simp only [Traced.mem_log_quiet_bind, checked_eq_ok, Traced.log_bind_pure] at h
  obtain ⟨_, -, _, -, clusterExecution, hExecution, plan, hPlan, h⟩ := h
  obtain ⟨position, node, hNode, hSent⟩ := exists_of_runPlanned h
  have hId : c.sanId = node.sanId := by
    unfold prepareOnNode MdNodeAnswers.requireReady at hSent
    simp only [Traced.mem_log_quiet_bind] at hSent
    obtain ⟨_, -, _, -, _, -, hSent⟩ := hSent
    unfold MdNodeAnswers.prepare at hSent
    dsimp only at hSent
    split at hSent
    · exact sanId_of_sentToPrepare hSent
    · cases hSent
  refine ⟨(plan.1, plan.2.map (·.sanId)), ?_, ?_, hId ▸ List.mem_map_of_mem hNode⟩
  · exact bind_eq_ok.mpr ⟨clusterExecution,
      orThrow_eq_ok.mpr (requireClusterExecution_eq_ok hExecution),
      bind_eq_ok.mpr ⟨plan, hPlan, rfl⟩⟩
  · obtain ⟨preflight, hPreflight, hRest⟩ := bind_eq_ok.mp hPlan
    obtain ⟨results, -, hRest⟩ := bind_eq_ok.mp hRest
    cases hRest
    exact nodes_of_requirePreflight hPreflight

theorem nodes_of_stopPlan {req : StopMdPlanRequest} {plan : ClusterMdPlan ClusterMdRecoveryMode}
    (h : buildStopMdClusterExecutionPlan cluster req = .ok plan) :
    plan.preflight.nodes = cluster.nodes := by
  obtain ⟨_, -, h⟩ := bind_eq_ok.mp h
  obtain ⟨preflight, hRun, h⟩ := bind_eq_ok.mp h
  obtain ⟨_, -, h⟩ := bind_eq_ok.mp h
  obtain ⟨_, -, h⟩ := bind_eq_ok.mp h
  obtain ⟨_, -, h⟩ := bind_eq_ok.mp h
  obtain ⟨_, -, h⟩ := bind_eq_ok.mp h
  cases h
  exact nodes_of_runClusterStoragePreflight hRun

theorem nodes_of_assemblePlan {req : AssembleMdArrayRequest}
    {recoveryMode : Option ClusterMdRecoveryMode} {plan : ClusterMdPlan ClusterMdRecoveryMode}
    (h : buildAssembleMdClusterExecutionPlan cluster req recoveryMode = .ok plan) :
    plan.preflight.nodes = cluster.nodes := by
  obtain ⟨preflight, hRun, h⟩ := bind_eq_ok.mp h
  obtain ⟨_, -, h⟩ := bind_eq_ok.mp h
  obtain ⟨_, -, h⟩ := bind_eq_ok.mp h
  obtain ⟨_, -, h⟩ := bind_eq_ok.mp h
  obtain ⟨_, -, h⟩ := bind_eq_ok.mp h
  cases h
  exact nodes_of_runClusterStoragePreflight hRun

theorem nodes_of_cleanupPlan {kind : CleanupKind} {clusterExecution : ClusterMdExecutionRequest}
    {members : List String} {payload : Payload} {recoveryMode : Option ClusterMdRecoveryMode}
    {plan : ClusterMdPlan (Option ClusterMdRecoveryMode)}
    (h : buildCleanupClusterExecutionPlan cluster kind clusterExecution members payload
      recoveryMode = .ok plan) :
    plan.preflight.nodes = cluster.nodes := by
  obtain ⟨preflight, hRun, h⟩ := bind_eq_ok.mp h
  obtain ⟨_, -, h⟩ := bind_eq_ok.mp h
  obtain ⟨_, -, h⟩ := bind_eq_ok.mp h
  obtain ⟨_, -, h⟩ := bind_eq_ok.mp h
  cases h
  exact nodes_of_runClusterStoragePreflight hRun

omit [Host] in
theorem phrase_of_scope {clusterExecution : ClusterExecutionBody} {confirmation : Option String}
    {name : String} (hScope : clusterExecution.executionScope = some .currentNodeOnly)
    (h : validateClusterExecutionScope clusterExecution (confirmation.getD "") (some name) =
      .ok ()) :
    ∃ phrase, expectedCurrentNodeOnlyStopConfirmation name = .ok phrase ∧
      confirmation = some phrase := by
  unfold validateClusterExecutionScope at h
  rw [if_neg (not_not.mpr hScope)] at h
  obtain ⟨named, hNamed, h⟩ := bind_eq_ok.mp h
  obtain rfl : name = named :=
    Option.some.inj (Option.filter_eq_some_iff.mp (orThrow_eq_ok.mp hNamed)).1
  obtain ⟨phrase, hPhrase, h⟩ := bind_eq_ok.mp h
  refine ⟨phrase, hPhrase, ?_⟩
  have hSame : confirmation.getD "" = phrase := not_not.mp (throwIf_eq_ok.mp h)
  cases confirmation with
  | some given => exact congrArg some hSame
  | none =>
    obtain ⟨sanitized, -, rfl⟩ := map_eq_ok.mp hPhrase
    obtain ⟨⟨hNone, -⟩, -⟩ : (toString "STOP " = "" ∧ toString sanitized = "") ∧
        toString " ON CURRENT NODE ONLY" = "" := by simpa using hSame
    exact absurd hNone (by decide)

theorem excepted_of_stop (hClustered : clusterOf nodes.san ≠ none) {arrayName : String}
    {body : StopMdArrayBody} (h : c ∈ (handleStop nodes sanId arrayName body).log) :
    (MdRequest.stop arrayName body).PlannedOn nodes.cluster c.sanId ∨
      (c.sanId = sanId ∧ (MdRequest.stop arrayName body).StopsCurrentNode) := by
  unfold handleStop at h
  simp only [Traced.mem_log_quiet_bind, checked_eq_ok] at h
  obtain ⟨_, -, clusterCtx, hGuard, h⟩ := h
  obtain ⟨clusterExecution, hBody, rfl⟩ := clusterExecution_of_guard hClustered hGuard
  unfold runClusterStopMdArray at h
  simp only [Traced.mem_log_quiet_bind, checked_eq_ok] at h
  obtain ⟨name, hName, _, hScope, h⟩ := h
  split at h
  · rename_i hCurrent
    right
    obtain ⟨phrase, hPhrase, hConfirmed⟩ := phrase_of_scope hCurrent hScope
    unfold MdNodeAnswers.requireReady at h
    simp only [Traced.mem_log_quiet_bind, Traced.log_bind_pure] at h
    obtain ⟨_, -, h⟩ := h
    exact ⟨(sanId_of_sent h).1, arrayName, body, clusterExecution, name, phrase, rfl, hBody,
      hCurrent, hName, hPhrase, hConfirmed⟩
  · left
    simp only [Traced.mem_log_quiet_bind, checked_eq_ok, Traced.log_bind_pure] at h
    obtain ⟨_, -, plan, hPlan, _, -, _, -, h⟩ := h
    refine ⟨plan.coverage, ?_, nodes_of_stopPlan hPlan, executing_of_executeTraced ?_ h⟩
    · exact bind_eq_ok.mpr ⟨clusterExecution, orThrow_eq_ok.mpr hBody,
        bind_eq_ok.mpr ⟨name, hName, bind_eq_ok.mpr ⟨plan, hPlan, rfl⟩⟩⟩
    · intro position node hSent
      unfold stopOnNode MdNodeAnswers.requireReady at hSent
      simp only [Traced.mem_log_quiet_bind, Traced.log_bind_pure] at hSent
      obtain ⟨_, -, hSent⟩ := hSent
      exact (sanId_of_sent hSent).1

theorem planned_of_assemble (hClustered : clusterOf nodes.san ≠ none) {body : AssembleMdArrayBody}
    (h : c ∈ (handleAssemble nodes sanId body).log) :
    (MdRequest.assemble body).PlannedOn nodes.cluster c.sanId := by
  unfold handleAssemble at h
  simp only [Traced.mem_log_quiet_bind, checked_eq_ok] at h
  obtain ⟨_, -, _, -, clusterCtx, hGuard, h⟩ := h
  obtain ⟨clusterExecution, hBody, rfl⟩ := clusterExecution_of_guard hClustered hGuard
  unfold runClusterAssembleMdArray at h
  simp only [Traced.mem_log_quiet_bind, checked_eq_ok, Traced.log_bind_pure] at h
  obtain ⟨_, -, plan, hPlan, _, -, _, -, h⟩ := h
  refine ⟨plan.coverage, ?_, nodes_of_assemblePlan hPlan, executing_of_executeTraced ?_ h⟩
  · exact bind_eq_ok.mpr ⟨clusterExecution, orThrow_eq_ok.mpr hBody,
      bind_eq_ok.mpr ⟨plan, hPlan, rfl⟩⟩
  · intro position node hSent
    unfold assembleOnNode MdNodeAnswers.requireReady at hSent
    simp only [Traced.mem_log_quiet_bind, Traced.log_bind_pure] at hSent
    obtain ⟨_, -, hSent⟩ := hSent
    exact (sanId_of_sent hSent).1

theorem nodes_of_addPlan {input : AddMdMemberInput} {diskMappings : List ClusterDiskMappingInput}
    {plan : AddMdMemberClusterPlan}
    (h : buildAddMdMemberClusterExecutionPlan cluster input diskMappings = .ok plan) :
    plan.preflight.nodes = cluster.nodes := by
  obtain ⟨preflight, hRun, h⟩ := bind_eq_ok.mp h
  obtain ⟨_, -, h⟩ := bind_eq_ok.mp h
  obtain ⟨_, -, h⟩ := bind_eq_ok.mp h
  cases h
  exact nodes_of_runClusterStoragePreflight hRun

theorem clusterPlan_of_addPlan {arrayName name : String} {req : AddMdMemberRequest}
    {plan : AddMdMemberExecutionPlan} (hName : normalizeMdArrayName arrayName = .ok name)
    (h : buildAddMdMemberExecutionPlanForCluster cluster name req = .ok plan) :
    ∃ clusterPlan, buildAddMdMemberClusterExecutionPlan cluster (req.input name)
        req.clusterExecution.diskMappings = .ok clusterPlan ∧
      clusterPlan.nodeResults = plan.nodeResults := by
  obtain ⟨again, hAgain, h⟩ := bind_eq_ok.mp h
  obtain ⟨clusterPlan, hBuilt, h⟩ := bind_eq_ok.mp h
  obtain ⟨_, -, h⟩ := bind_eq_ok.mp h
  cases h
  obtain rfl : again = name := by
    rw [normalizeMdArrayName_eq_ok hAgain, normalizeMdArrayName_eq_ok hName,
      trimString_trimString]
  exact ⟨clusterPlan, hBuilt, rfl⟩

theorem planned_of_add (hClustered : clusterOf nodes.san ≠ none) {arrayName : String}
    {body : AddMdMemberBody} (h : c ∈ (handleAdd nodes sanId arrayName body).log) :
    (MdRequest.add arrayName body).PlannedOn nodes.cluster c.sanId := by
  unfold handleAdd runAddMdMember at h
  simp only [Traced.mem_log_quiet_bind, checked_eq_ok] at h
  obtain ⟨_, -, _, -, intent, hIntent, _, -, name, hName, clusterCtx, hGuard, h⟩ := h
  obtain ⟨clusterExecution, hBody, rfl⟩ := clusterExecution_of_guard hClustered hGuard
  simp only [Traced.mem_log_quiet_bind, checked_eq_ok, Traced.log_bind_pure] at h
  obtain ⟨_, -, plan, hPlan, _, -, _, -, h⟩ := h
  obtain ⟨position, node, hNode, hSent⟩ := exists_of_runPlanned h
  have hId : c.sanId = node.sanId := by
    unfold addOnNode MdNodeAnswers.requireReady at hSent
    simp only [Traced.mem_log_quiet_bind] at hSent
    obtain ⟨_, -, hSent⟩ := hSent
    exact (sanId_of_sent hSent).1
  obtain ⟨clusterPlan, hBuilt, hNodes⟩ := clusterPlan_of_addPlan hName hPlan
  refine ⟨(clusterPlan.preflight, clusterPlan.nodeResults.map (·.sanId)), ?_,
    nodes_of_addPlan hBuilt, hId ▸ List.mem_map_of_mem (hNodes ▸ hNode)⟩
  exact bind_eq_ok.mpr ⟨clusterExecution, orThrow_eq_ok.mpr hBody,
    bind_eq_ok.mpr ⟨intent, orThrow_eq_ok.mpr (orThrow_eq_ok.mp hIntent),
      bind_eq_ok.mpr ⟨name, hName, bind_eq_ok.mpr ⟨clusterPlan, hBuilt, rfl⟩⟩⟩⟩

theorem plan_of_runCluster {route : CleaningRoute} {site : MdSite} {body : CleaningBody}
    {clusterExecution : ClusterExecutionBody} {e : Erasure}
    (h : e ∈ (route.runCluster site body clusterExecution).log) :
    ∃ plan, route.buildPlan site.cluster body clusterExecution = .ok plan ∧
      e.sanId ∈ plan.coverage.2 := by
  unfold CleaningRoute.runCluster at h
  simp only [Traced.mem_log_quiet_bind, checked_eq_ok] at h
  obtain ⟨plan, hPlan, _, -, h⟩ := h
  refine ⟨plan, hPlan, ?_⟩
  rcases Traced.mem_log_bind.mp h with hRan | ⟨_, -, hQuiet⟩
  · rw [Traced.log_send] at hRan
    obtain ⟨⟨ref, position⟩, hRef, hErased⟩ := List.mem_flatMap.mp hRan
    have hExecutes := executes_of_ran (List.fst_mem_of_mem_zipIdx hRef)
    refine List.mem_map.mpr ⟨_, hExecutes, ?_⟩
    exact (sanId_of_eraseChecked hErased).symm
  · cases hQuiet

theorem nodes_of_buildPlan {route : CleaningRoute} {body : CleaningBody}
    {clusterExecution : ClusterExecutionBody} {plan : ClusterMdPlan (Option ClusterMdRecoveryMode)}
    (h : route.buildPlan cluster body clusterExecution = .ok plan) :
    plan.preflight.nodes = cluster.nodes := by
  cases route with
  | zeroSuperblocks =>
    obtain ⟨_, -, h⟩ := bind_eq_ok.mp h
    obtain ⟨_, -, h⟩ := bind_eq_ok.mp h
    obtain ⟨_, -, h⟩ := bind_eq_ok.mp h
    exact nodes_of_cleanupPlan h
  | wipeSignatures =>
    obtain ⟨_, -, h⟩ := bind_eq_ok.mp h
    exact nodes_of_cleanupPlan h

end EsosWebui.Raid
