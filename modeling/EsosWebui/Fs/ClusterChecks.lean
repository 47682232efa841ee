import EsosWebui.Fs.CreateFs

/-! File systems, virtual disks and bindings on all nodes of a cluster: each node is checked in its
turn and acted on at once. -/
namespace EsosWebui.Fs

open Js
open Esos (HttpError)

structure ClusterNode where
  id : Text
  label : Text
  readOnly : Bool := false

structure EnabledNodes where
  nodes : List ClusterNode
  distinct : (nodes.map (·.id)).Nodup

inductive ClusterFsRequest where
  | createFs (payload : CreateFsPayload)
  | createVdisk (payload : CreateVdiskPayload)
  | bindFileio (payload : CreateFileioPayload)

def ClusterFsRequest.confirmation : ClusterFsRequest → Option Text
  | createFs payload => payload.confirmation
  | createVdisk payload => payload.confirmation
  | bindFileio payload => payload.confirmation

structure NodeAnswers where
  /-- The manager in the pool, if there is one, and whether it is connected. -/
  manager : Option Bool := some true
  /-- What the scan and the preflight come to, or the message of what they throw. -/
  preflight : Except Text FsPreflightResult
  /-- The pool still has a manager after the preflight. -/
  managerAfter : Bool := true
  /-- What the action comes to, or the message of what it throws. -/
  run : Except Text Unit := .ok ()

/-- The enabled nodes of each cluster, and how nodes answer a request: the primary node when it is
checked before, and each node in its turn. -/
structure ClusterWorld where
  enabledNodes : Text → EnabledNodes
  primaryAnswers : Text → ClusterFsRequest → NodeAnswers
  answers : Text → ClusterFsRequest → NodeAnswers

inductive Thrown where
  | http (error : HttpError)
  | other (message : Text)

inductive Participation where
  | execute
  | failed
  deriving DecidableEq

structure ClusterNodeResult where
  sanId : Text
  label : Text
  participation : Participation
  error : Option Text := none

structure ClusterFsExecutionResult where
  success : Bool
  nodeResults : List ClusterNodeResult
  errors : List Text

/-- `values.join(sep)` -/
def joinText (sep : Text) (values : List Text) : Text := sep.intercalate values

def assertClusterPayloadPreflight (answers : NodeAnswers) (confirmation : Option Text) :
    Except Thrown Unit := do
  throwIf (answers.manager ≠ some true)
    (.http ⟨503, "SSH non connecté sur le nœud primaire".toList⟩)
  let pre ← answers.preflight.mapError .other
  if pre.ok = false then
    .error (.http ((pre.conflict.map fun conflict => ⟨409, conflict.message⟩).getD
      ⟨422, orElseText (joinText " · ".toList pre.blockers) "Préflight échoué".toList⟩))
  else
    throwIf (confirmation.map trim ≠ pre.requiredConfirmation)
      (.http ⟨400, "Confirmation requise : ".toList ++
        pre.requiredConfirmation.getD "undefined".toList⟩)

def assertClusterNodesWritable (nodes : List ClusterNode) : Except Thrown Unit :=
  throwIf (nodes.any (·.readOnly)) (.http ⟨403, "SAN is read-only".toList⟩)

/-- What the turn of a node comes to. -/
inductive Visit where
  /-- The whole request ends with what is thrown. -/
  | thrown (message : Text)
  /-- Nothing is done on the node; the error is shown with the label in other words. -/
  | refused (error shown : Text)
  | ran (result : Except Text Unit)

def runPreflightOnNode (answers : NodeAnswers) : Except Text (Bool × List Text) :=
  if answers.manager ≠ some true then .ok (false, ["SSH non connecté".toList])
  else answers.preflight.map fun pre => (pre.ok, pre.blockers)

def sshUnavailable : Text := "SSH indisponible".toList

def visitAfterPreflight (shownUnavailable : Text) (answers : NodeAnswers) : Visit :=
  match runPreflightOnNode answers with
  | .error message => .thrown message
  | .ok (ok, blockers) =>
    let refusal := joinText ", ".toList blockers
    if ok = false then .refused refusal refusal
    else if answers.managerAfter = false then .refused sshUnavailable shownUnavailable
    else .ran answers.run

/-- The turn of a node where all that is thrown is caught. -/
def visitBind (answers : NodeAnswers) : Visit :=
  if answers.manager = none then .refused sshUnavailable sshUnavailable
  else
    match answers.preflight with
    | .error message => .refused message message
    | .ok pre =>
      let refusal := (pre.conflict.map (·.message)).getD (joinText ", ".toList pre.blockers)
      if pre.ok = false then .refused refusal refusal else .ran answers.run

def ClusterFsRequest.visit : ClusterFsRequest → NodeAnswers → Visit
  | createFs _ => visitAfterPreflight sshUnavailable
  | createVdisk _ => visitAfterPreflight "SSH".toList
  | bindFileio _ => visitBind

structure ClusterRun where
  nodeResults : List ClusterNodeResult := []
  errors : List Text := []
  /-- The nodes on which the action was run. -/
  executed : List Text := []

namespace ClusterRun

def fail (run : ClusterRun) (node : ClusterNode) (error shown : Text) : ClusterRun :=
  { run with
    nodeResults := run.nodeResults ++ [⟨node.id, node.label, .failed, some error⟩]
    errors := run.errors ++ [node.label ++ ": ".toList ++ shown] }

def act (run : ClusterRun) (node : ClusterNode) (result : Except Text Unit) : ClusterRun :=
  let acted := { run with executed := run.executed ++ [node.id] }
  match result with
  | .ok () =>
    { acted with nodeResults := run.nodeResults ++ [⟨node.id, node.label, .execute, none⟩] }
  | .error message => acted.fail node message message

end ClusterRun

/-- The nodes in their order, whatever fails on them. -/
def visitNodes (visit : ClusterNode → Visit) :
    List ClusterNode → ClusterRun → Except Text Unit × ClusterRun
  | [], run => (.ok (), run)
  | node :: nodes, run =>
    match visit node with
    | .thrown message => (.error message, run)
    | .refused error shown => visitNodes visit nodes (run.fail node error shown)
    | .ran result => visitNodes visit nodes (run.act node result)

def ClusterFsRequest.failureMessage : ClusterFsRequest → List Text → Text
  | createFs _, errors =>
    orElseText (joinText " · ".toList errors) "Échec partiel cluster".toList
  | createVdisk _, errors => joinText " · ".toList errors
  | bindFileio _, errors => joinText " · ".toList errors

def finishRun (request : ClusterFsRequest) (run : ClusterRun) :
    Except Thrown ClusterFsExecutionResult :=
  if run.nodeResults.all (·.participation = .execute) then
    .ok ⟨true, run.nodeResults, run.errors⟩
  else .error (.http ⟨409, request.failureMessage run.errors⟩)

def executeOnCluster (world : ClusterWorld) (primarySanId clusterId : Text)
    (request : ClusterFsRequest) : Except Thrown ClusterFsExecutionResult × List Text :=
  let nodes := (world.enabledNodes clusterId).nodes
  match (do
    assertClusterPayloadPreflight (world.primaryAnswers primarySanId request)
      request.confirmation
    assertClusterNodesWritable nodes) with
  | .error thrown => (.error thrown, [])
  | .ok () =>
    match visitNodes (fun node => request.visit (world.answers node.id request)) nodes {} with
    | (.error message, run) => (.error (.other message), run.executed)
    | (.ok (), run) => (finishRun request run, run.executed)

def executeClusterFsCreate (world : ClusterWorld) (primarySanId clusterId : Text)
    (payload : CreateFsPayload) : Except Thrown ClusterFsExecutionResult × List Text :=
  executeOnCluster world primarySanId clusterId (.createFs payload)

def executeClusterVdiskCreate (world : ClusterWorld) (primarySanId clusterId : Text)
    (payload : CreateVdiskPayload) : Except Thrown ClusterFsExecutionResult × List Text :=
  executeOnCluster world primarySanId clusterId (.createVdisk payload)

def executeClusterFileioBind (world : ClusterWorld) (primarySanId clusterId : Text)
    (payload : CreateFileioPayload) : Except Thrown ClusterFsExecutionResult × List Text :=
  executeOnCluster world primarySanId clusterId (.bindFileio payload)

def ClusterFsRequest.execute (world : ClusterWorld) (primarySanId clusterId : Text) :
    ClusterFsRequest → Except Thrown ClusterFsExecutionResult × List Text
  | createFs payload => executeClusterFsCreate world primarySanId clusterId payload
  | createVdisk payload => executeClusterVdiskCreate world primarySanId clusterId payload
  | bindFileio payload => executeClusterFileioBind world primarySanId clusterId payload

/-! When a request for all nodes of a cluster touches none of them unless each one passes its
check, and all of them when it succeeds. -/

def NodeAnswers.preflightOk (answers : NodeAnswers) : Bool :=
  answers.preflight.toOption.any (·.ok)

def ClusterFsRequest.passes : ClusterFsRequest → NodeAnswers → Bool
  | bindFileio _, answers => answers.manager.isSome && answers.preflightOk
  | createFs _, answers | createVdisk _, answers =>
    answers.manager = some true && answers.preflightOk && answers.managerAfter

def ClusterFsRequest.endedBy : ClusterFsRequest → NodeAnswers → Bool
  | bindFileio _, _ => false
  | createFs _, answers | createVdisk _, answers =>
    answers.manager = some true && !answers.preflight.isOk

/-- A turn is one of three kinds, by the answers of the node. -/
inductive VisitKind (passes ended : Bool) (run : Except Text Unit) : Visit → Prop
  | thrown (message : Text) (hPasses : passes = false) (hEnded : ended = true) :
      VisitKind passes ended run (.thrown message)
  | refused (error shown : Text) (hPasses : passes = false) (hEnded : ended = false) :
      VisitKind passes ended run (.refused error shown)
  | ran (hPasses : passes = true) (hEnded : ended = false) : VisitKind passes ended run (.ran run)

section

variable {manager : Option Bool} {managerAfter : Bool} {run : Except Text Unit}

@[simp] theorem preflightOk_ok (pre : FsPreflightResult) :
    (NodeAnswers.mk manager (.ok pre) managerAfter run).preflightOk = pre.ok := rfl

@[simp] theorem preflightOk_error (message : Text) :
    (NodeAnswers.mk manager (.error message) managerAfter run).preflightOk = false := rfl

end

theorem visitKind_afterPreflight (shown : Text) (answers : NodeAnswers) :
    VisitKind (answers.manager = some true && answers.preflightOk && answers.managerAfter)
      (answers.manager = some true && !answers.preflight.isOk) answers.run
      (visitAfterPreflight shown answers) := by
  obtain ⟨manager, preflight, managerAfter, run⟩ := answers
  rw [visitAfterPreflight, runPreflightOnNode]
  by_cases hManager : manager = some true
  · rw [if_neg (not_not.mpr hManager)]
    cases preflight with
    | error message =>
      exact .thrown message (by simp) (by simp [hManager, Except.isOk, Except.toBool])
    | ok pre =>
      have hEnded : (decide (manager = some true) && !(Except.ok pre : Except Text _).isOk) =
          false := by simp [Except.isOk, Except.toBool]
      simp only [Except.map]
      cases hOk : pre.ok with
      | false => exact .refused _ _ (by simp [hOk]) hEnded
      | true =>
        cases managerAfter with
        | false => exact .refused _ _ (by simp) hEnded
        | true => exact .ran (by simp [hManager, hOk]) hEnded
  · rw [if_pos hManager]
    exact .refused _ _ (by simp [hManager]) (by simp [hManager])

theorem visitKind_bind (answers : NodeAnswers) :
    VisitKind (answers.manager.isSome && answers.preflightOk) false answers.run
      (visitBind answers) := by
  obtain ⟨manager, preflight, managerAfter, run⟩ := answers
  rw [visitBind]
  cases manager with
  | none => exact .refused _ _ rfl rfl
  | some connected =>
    cases preflight with
    | error message => exact .refused _ _ rfl rfl
    | ok pre =>
      simp only [reduceCtorEq, if_false]
      cases hOk : pre.ok with
      | false => exact .refused _ _ (by simp [hOk]) rfl
      | true => exact .ran (by simp [hOk]) rfl

theorem visitKind_visit (request : ClusterFsRequest) (answers : NodeAnswers) :
    VisitKind (request.passes answers) (request.endedBy answers) answers.run
      (request.visit answers) := by
  cases request with
  | createFs payload => exact visitKind_afterPreflight _ answers
  | createVdisk payload => exact visitKind_afterPreflight _ answers
  | bindFileio payload => exact visitKind_bind answers

section

variable {visit : ClusterNode → Visit} {passes ended : ClusterNode → Bool}
  {result : ClusterNode → Except Text Unit}

theorem nodeResults_act (run : ClusterRun) (node : ClusterNode) (result : Except Text Unit) :
    (run.act node result).nodeResults.all (·.participation = .execute) =
      (run.nodeResults.all (·.participation = .execute) && result.isOk) := by
  cases result with
  | ok _ => simp [ClusterRun.act, Except.isOk, Except.toBool]
  | error _ => simp [ClusterRun.act, ClusterRun.fail, Except.isOk, Except.toBool]

theorem executed_act (run : ClusterRun) (node : ClusterNode) (result : Except Text Unit) :
    (run.act node result).executed = run.executed ++ [node.id] := by
  cases result <;> rfl

theorem visitNodes_executed
    (hVisit : ∀ node, VisitKind (passes node) (ended node) (result node) (visit node))
    (nodes : List ClusterNode) (run : ClusterRun) :
    (visitNodes visit nodes run).2.executed = run.executed ++
      ((nodes.takeWhile (!ended ·)).filter passes).map (·.id) := by
  induction nodes generalizing run with
  | nil => simp [visitNodes]
  | cons node nodes ih =>
    rw [visitNodes]
    have hKind := hVisit node
    cases hTurn : visit node with
    | thrown message =>
      rw [hTurn] at hKind
      cases hKind with
      | thrown _ _ hEnded => simp [hEnded]
    | refused error shown =>
      rw [hTurn] at hKind
      cases hKind with
      | refused _ _ hPasses hEnded => simp [ih, ClusterRun.fail, hPasses, hEnded]
    | ran acted =>
      rw [hTurn] at hKind
      cases hKind with
      | ran hPasses hEnded => simp [ih, executed_act, hPasses, hEnded]

theorem visitNodes_succeeds
    (hVisit : ∀ node, VisitKind (passes node) (ended node) (result node) (visit node))
    (nodes : List ClusterNode) (run : ClusterRun) :
    ((visitNodes visit nodes run).1.isOk &&
      (visitNodes visit nodes run).2.nodeResults.all (·.participation = .execute)) =
    (run.nodeResults.all (·.participation = .execute) &&
      nodes.all fun node => passes node && (result node).isOk) := by
  induction nodes generalizing run with
  | nil => simp [visitNodes, Except.isOk, Except.toBool]
  | cons node nodes ih =>
    rw [visitNodes]
    have hKind := hVisit node
    cases hTurn : visit node with
    | thrown message =>
      rw [hTurn] at hKind
      cases hKind with
      | thrown _ hPasses _ => simp [hPasses, Except.isOk, Except.toBool]
    | refused error shown =>
      rw [hTurn] at hKind
      cases hKind with
      | refused _ _ hPasses _ => simp [ih, ClusterRun.fail, hPasses]
    | ran acted =>
      rw [hTurn] at hKind
      cases hKind with
      | ran hPasses _ => simp [ih, nodeResults_act, hPasses, Bool.and_assoc]

end

variable (world : ClusterWorld) (primarySanId clusterId : Text) (request : ClusterFsRequest)

/-- The check of the primary node, the confirmation or a read-only node refuses the request. -/
def IsRefusedBefore : Prop :=
  (do
    assertClusterPayloadPreflight (world.primaryAnswers primarySanId request)
      request.confirmation
    assertClusterNodesWritable (world.enabledNodes clusterId).nodes).isOk = false

/-- A node that does not pass keeps the others untouched, and a success means that each node and
the primary one have run the action once. -/
structure ChecksAllFirst : Prop where
  untouched : (∃ node ∈ (world.enabledNodes clusterId).nodes,
      request.passes (world.answers node.id request) = false) →
    (request.execute world primarySanId clusterId).1.isOk = false ∧
      (request.execute world primarySanId clusterId).2 = []
  complete : (request.execute world primarySanId clusterId).1.isOk = true →
    ∀ id, id = primarySanId ∨ id ∈ (world.enabledNodes clusterId).nodes.map (·.id) →
      (request.execute world primarySanId clusterId).2.count id = 1

/-- The nodes whose turn comes. -/
def reachedNodes : List ClusterNode :=
  (world.enabledNodes clusterId).nodes.takeWhile fun node =>
    !request.endedBy (world.answers node.id request)

/-- If a node does not pass, then no node passes whose turn comes; and if all pass and act without
an error, then the primary node is one of them. -/
structure IsUniform : Prop where
  none : (∃ node ∈ (world.enabledNodes clusterId).nodes,
      request.passes (world.answers node.id request) = false) →
    ∀ node ∈ reachedNodes world clusterId request,
      request.passes (world.answers node.id request) = false
  primary : (∀ node ∈ (world.enabledNodes clusterId).nodes,
      request.passes (world.answers node.id request) = true ∧
        (world.answers node.id request).run.isOk = true) →
    primarySanId ∈ (world.enabledNodes clusterId).nodes.map (·.id)

variable {world primarySanId clusterId request}

theorem execute_eq :
    request.execute world primarySanId clusterId =
      executeOnCluster world primarySanId clusterId request := by
  cases request <;> rfl

theorem execute_of_refused (h : IsRefusedBefore world primarySanId clusterId request) :
    (request.execute world primarySanId clusterId).1.isOk = false ∧
      (request.execute world primarySanId clusterId).2 = [] := by
  rw [execute_eq, executeOnCluster]
  unfold IsRefusedBefore at h
  split
  next thrown hCheck => exact ⟨rfl, rfl⟩
  next hCheck =>
    rw [hCheck] at h
    cases h

theorem execute_of_not_refused (h : ¬ IsRefusedBefore world primarySanId clusterId request) :
    (request.execute world primarySanId clusterId).1.isOk =
      ((world.enabledNodes clusterId).nodes.all fun node =>
        request.passes (world.answers node.id request) &&
          (world.answers node.id request).run.isOk) ∧
    (request.execute world primarySanId clusterId).2 =
      ((reachedNodes world clusterId request).filter fun node =>
        request.passes (world.answers node.id request)).map (·.id) := by
  have hKind := fun node : ClusterNode => visitKind_visit request (world.answers node.id request)
  have hExecuted := visitNodes_executed hKind (world.enabledNodes clusterId).nodes {}
  have hSucceeds := visitNodes_succeeds hKind (world.enabledNodes clusterId).nodes {}
  rw [execute_eq, executeOnCluster]
  unfold IsRefusedBefore at h
  split
  next thrown hCheck =>
    rw [hCheck] at h
    exact absurd rfl h
  next hCheck =>
    cases hRun : visitNodes
        (fun node : ClusterNode => request.visit (world.answers node.id request))
        (world.enabledNodes clusterId).nodes {} with
    | mk ended run =>
      rw [hRun] at hExecuted hSucceeds
      cases ended with
      | error message => exact ⟨hSucceeds, hExecuted⟩
      | ok _ =>
        refine ⟨?_, hExecuted⟩
        rw [← Bool.true_and (List.all _ _)]
        refine Eq.trans ?_ hSucceeds
        show (finishRun request run).isOk = run.nodeResults.all _
        rw [finishRun]
        split
        next hAll => exact hAll.symm
        next hAll => exact (Bool.eq_false_iff.mpr hAll).symm

theorem not_endedBy_of_passes {answers : NodeAnswers} (h : request.passes answers) :
    request.endedBy answers = false := by
  have hKind := visitKind_visit request answers
  cases hTurn : request.visit answers with
  | thrown message =>
    rw [hTurn] at hKind
    cases hKind with
    | thrown _ hPasses _ => exact absurd (h.symm.trans hPasses) Bool.true_eq_false.mp
  | refused error shown =>
    rw [hTurn] at hKind
    cases hKind with
    | refused _ _ hPasses _ => exact absurd (h.symm.trans hPasses) Bool.true_eq_false.mp
  | ran acted =>
    rw [hTurn] at hKind
    cases hKind with
    | ran _ hEnded => exact hEnded

theorem reachedNodes_of_all_pass (h : ∀ node ∈ (world.enabledNodes clusterId).nodes,
      request.passes (world.answers node.id request) = true) :
    (reachedNodes world clusterId request).filter (fun node =>
      request.passes (world.answers node.id request)) = (world.enabledNodes clusterId).nodes := by
  have hReached : reachedNodes world clusterId request = (world.enabledNodes clusterId).nodes := by
    apply List.takeWhile_eq_self_iff.mpr
    intro node hNode
    rw [not_endedBy_of_passes (h node hNode)]
    rfl
  rw [hReached]
  exact List.filter_eq_self.mpr h

/-- Nothing is left half done exactly when the request is refused before, or the nodes are alike. -/
theorem checks_all_first_iff (world : ClusterWorld) (primarySanId clusterId : Text)
    (request : ClusterFsRequest) :
    ChecksAllFirst world primarySanId clusterId request ↔
      IsRefusedBefore world primarySanId clusterId request ∨
        IsUniform world primarySanId clusterId request := by
  by_cases hRefused : IsRefusedBefore world primarySanId clusterId request
  · obtain ⟨hFailed, hUntouched⟩ := execute_of_refused hRefused
    refine iff_of_true ⟨fun _ => ⟨hFailed, hUntouched⟩, fun hOk => ?_⟩ (Or.inl hRefused)
    rw [hFailed] at hOk
    cases hOk
  · obtain ⟨hOk, hExecuted⟩ := execute_of_not_refused hRefused
    rw [or_iff_right hRefused]
    constructor
    · rintro ⟨hUntouched, hComplete⟩
      refine ⟨fun hFails node hNode => ?_, fun hAll => ?_⟩
      · have hNone := (hUntouched hFails).2
        rw [hExecuted, List.map_eq_nil_iff, List.filter_eq_nil_iff] at hNone
        exact Bool.eq_false_iff.mpr (hNone node hNode)
      · have hSuccess : (request.execute world primarySanId clusterId).1.isOk = true := by
          rw [hOk, List.all_eq_true]
          intro node hNode
          rw [(hAll node hNode).1, (hAll node hNode).2]
          rfl
        have hCount := hComplete hSuccess primarySanId (Or.inl rfl)
        rw [hExecuted, reachedNodes_of_all_pass fun node hNode => (hAll node hNode).1] at hCount
        exact List.count_pos_iff.mp (by omega)
    · rintro ⟨hNone, hPrimary⟩
      refine ⟨fun hFails => ⟨?_, ?_⟩, fun hSuccess id hId => ?_⟩
      · obtain ⟨node, hNode, hFails⟩ := hFails
        rw [hOk, List.all_eq_false]
        exact ⟨node, hNode, by simp [hFails]⟩
      · rw [hExecuted, List.map_eq_nil_iff, List.filter_eq_nil_iff]
        intro node hNode
        exact Bool.eq_false_iff.mp (hNone hFails node hNode)
      · rw [hOk, List.all_eq_true] at hSuccess
        have hAll := fun node hNode => Bool.and_eq_true_iff.mp (hSuccess node hNode)
        have hMem : id ∈ (world.enabledNodes clusterId).nodes.map (·.id) := by
          rcases hId with rfl | hMem
          · exact hPrimary hAll
          · exact hMem
        rw [hExecuted, reachedNodes_of_all_pass fun node hNode => (hAll node hNode).1]
        exact List.count_eq_one_of_mem (world.enabledNodes clusterId).distinct hMem

def vdiskConfirmation : Text := "CREATE_VDISK /mnt/d/v".toList

def vdiskPreflight : FsPreflightResult :=
  { ok := true, requiredConfirmation := some vdiskConfirmation }

def vdiskRequest : ClusterFsRequest :=
  .createVdisk
    { mountPoint := "/mnt/d".toList
      fileName := "v".toList
      sizeBytes := 1048576
      confirmation := some vdiskConfirmation }

def halfConnected : ClusterWorld where
  enabledNodes _ := ⟨[⟨"a".toList, "A".toList, false⟩, ⟨"b".toList, "B".toList, false⟩], by decide⟩
  primaryAnswers _ _ := { preflight := .ok vdiskPreflight }
  answers id _ := { manager := some (id = "a".toList), preflight := .ok vdiskPreflight }

theorem halfConnected_touches_first_node :
    ¬ ChecksAllFirst halfConnected "a".toList "c".toList vdiskRequest := by
  intro h
  have hFails : ∃ node ∈ (halfConnected.enabledNodes "c".toList).nodes,
      vdiskRequest.passes (halfConnected.answers node.id vdiskRequest) = false :=
    ⟨⟨"b".toList, "B".toList, false⟩, List.mem_cons_of_mem _ List.mem_cons_self, by decide⟩
  have hNone := (h.untouched hFails).2
  revert hNone
  decide

end EsosWebui.Fs
