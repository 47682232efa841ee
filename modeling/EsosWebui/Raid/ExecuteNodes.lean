import EsosWebui.Raid.AssemblePlan
import EsosWebui.Raid.CleanupPlan
import EsosWebui.Raid.StopPlan

/-! Execution of a plan: its nodes one after the other, up to the first failure. The
nodes are objects that are changed in place, so that they are kept in a heap. -/
namespace EsosWebui.Raid

open Js

/-- The node objects; references from `size` on are free. -/
structure NodeHeap where
  read : Nat → ClusterMdNodeResult
  size : Nat

namespace NodeHeap

def write (heap : NodeHeap) (ref : Nat) (change : ClusterMdNodeResult → ClusterMdNodeResult) :
    NodeHeap :=
  { heap with read := fun r => if r = ref then change (heap.read r) else heap.read r }

def alloc (heap : NodeHeap) (node : ClusterMdNodeResult) : NodeHeap :=
  { read := fun r => if r = heap.size then node else heap.read r
    size := heap.size + 1 }

def load (nodes : List ClusterMdNodeResult) : NodeHeap :=
  { read := fun r => nodes.getD r { sanId := "", label := "", source := .peer, participation := .skip }
    size := nodes.length }

@[simp] theorem read_write_self (heap : NodeHeap) (ref : Nat)
    (change : ClusterMdNodeResult → ClusterMdNodeResult) :
    (heap.write ref change).read ref = change (heap.read ref) :=
  if_pos rfl

theorem read_write_of_ne {heap : NodeHeap} {ref r : Nat}
    {change : ClusterMdNodeResult → ClusterMdNodeResult} (h : r ≠ ref) :
    (heap.write ref change).read r = heap.read r :=
  if_neg h

end NodeHeap

/-- A node that is left out, in the state it is reported in. -/
def skippedCopy (node : ClusterMdNodeResult) : ClusterMdNodeResult :=
  { node with status := .skipped }

def isLeftOut (node : ClusterMdNodeResult) : Bool :=
  node.participation == .skip && node.status != .success && node.status != .failed

def markSkippedNodes : NodeHeap → List Nat → NodeHeap × List Nat
  | heap, [] => (heap, [])
  | heap, ref :: refs =>
    if isLeftOut (heap.read ref) then
      let (marked, reported) := markSkippedNodes (heap.alloc (skippedCopy (heap.read ref))) refs
      (marked, heap.size :: reported)
    else
      let (marked, reported) := markSkippedNodes heap refs
      (marked, ref :: reported)

/-- `nodesToExecute`, on references. -/
def refsToExecute (heap : NodeHeap) (refs : List Nat) : List Nat :=
  refs.filter fun ref => (heap.read ref).participation == .execute

/-- What a command that was run leaves behind (an assembly also the command itself). -/
structure NodeOutput where
  stdout : String
  command : Option String := none

/-- What is thrown on a node, a missing connection included. -/
structure NodeError where
  statusCode : Option Nat := none
  statusMessage : Option String := none
  message : Option String := none
  stdout : Option String := none
  stderr : Option String := none

def HttpError.thrown (error : HttpError) : NodeError :=
  { statusCode := some error.statusCode, statusMessage := some error.statusMessage }

def applySuccess (output : NodeOutput) (node : ClusterMdNodeResult) : ClusterMdNodeResult :=
  { node with
    stdout := some output.stdout
    command := output.command.or node.command
    status := .success }

def applyFailure (err : NodeError) (node : ClusterMdNodeResult) : ClusterMdNodeResult :=
  { node with
    status := .failed
    stdout := err.stdout.or node.stdout
    stderr := err.stderr.or node.stderr
    error := (err.statusMessage.or err.message).or (some "Erreur exécution cluster MD") }

def applyMissingCommand (node : ClusterMdNodeResult) : ClusterMdNodeResult :=
  { node with
    status := .failed
    error := some "Commande planifiée manquante" }

/-- `refreshedSanIds.add(sanId)` -/
def addSanId (sanIds : List String) (sanId : String) : List String :=
  if sanIds.contains sanId then sanIds else sanIds ++ [sanId]

structure RunState where
  heap : NodeHeap
  refreshedSanIds : List String := []
  /-- The nodes on which something was run, in this order. -/
  ran : List Nat := []

def RunState.succeed (st : RunState) (ref : Nat) (output : NodeOutput) : RunState :=
  { heap := st.heap.write ref (applySuccess output)
    refreshedSanIds := addSanId st.refreshedSanIds (st.heap.read ref).sanId
    ran := st.ran ++ [ref] }

/-- The node as it is while its command is run. -/
def running (node : ClusterMdNodeResult) : ClusterMdNodeResult :=
  { node with status := .running }

/-- What running a node's command comes to, by how many were run before. -/
abbrev RunOnNode := Nat → ClusterMdNodeResult → Except NodeError NodeOutput

def runNodes (runOnNode : RunOnNode) : RunState → List Nat → RunState × Option (String × HttpError)
  | st, [] => (st, none)
  | st, ref :: refs =>
    let node := st.heap.read ref
    let label := node.label
    if !isSet node.command then
      ({ st with heap := st.heap.write ref applyMissingCommand },
        some (node.sanId, ⟨400, s!"{label} : Commande planifiée manquante"⟩))
    else
      match runOnNode st.ran.length (running node) with
      | .ok output => runNodes runOnNode (st.succeed ref output) refs
      | .error err =>
        let error := (applyFailure err node).error.getD ""
        ({ st with
            heap := st.heap.write ref (applyFailure err)
            ran := st.ran ++ [ref] },
          some (node.sanId, ⟨err.statusCode.getD 500, s!"{label} : {error}"⟩))

structure ClusterMdExecutionResult where
  action : ClusterStorageAction
  sourceSanId : String
  nodeResults : List ClusterMdNodeResult
  failedSanId : Option String := none
  refreshedSanIds : List String

structure ClusterMdExecution where
  ran : List Nat
  outcome : Except (HttpError × ClusterMdExecutionResult) ClusterMdExecutionResult

def executeClusterMdNodes (runOnNode : RunOnNode) (action : ClusterStorageAction)
    (primarySanId : String) (heap : NodeHeap) (nodeResults : List Nat)
    (nodesToRun : Option (List Nat)) : ClusterMdExecution :=
  let (marked, allNodes) := markSkippedNodes heap nodeResults
  let runList := nodesToRun.getD (refsToExecute marked allNodes)
  let (st, failed) := runNodes runOnNode { heap := marked } runList
  let result : ClusterMdExecutionResult :=
    { action
      sourceSanId := primarySanId
      nodeResults := allNodes.map st.heap.read
      failedSanId := failed.map (·.1)
      refreshedSanIds := st.refreshedSanIds }
  { ran := st.ran
    outcome :=
      match failed with
      | some (_, error) => .error (error, result)
      | none => .ok result }

/-- What stands for a node in the report: the node itself, or a new object. -/
def MarkedAs (heap marked : NodeHeap) (ref reported : Nat) : Prop :=
  if isLeftOut (heap.read ref) then
    heap.size ≤ reported ∧ marked.read reported = skippedCopy (heap.read ref)
  else reported = ref

/-- Marking changes no object that was there, and takes new ones for the nodes left out. -/
theorem markSkippedNodes_spec (heap : NodeHeap) (refs : List Nat) (h : ∀ r ∈ refs, r < heap.size) :
    (∀ r < heap.size, (markSkippedNodes heap refs).1.read r = heap.read r) ∧
      List.Forall₂ (MarkedAs heap (markSkippedNodes heap refs).1) refs
        (markSkippedNodes heap refs).2 := by
  induction refs generalizing heap with
  | nil => exact ⟨fun _ _ => rfl, .nil⟩
  | cons ref refs ih =>
    have hRef := h ref List.mem_cons_self
    have hRefs : ∀ r ∈ refs, r < heap.size := fun r hr => h r (List.mem_cons_of_mem _ hr)
    unfold markSkippedNodes
    by_cases hLeft : isLeftOut (heap.read ref) = true
    · rw [if_pos hLeft]
      have hRead : ∀ r < heap.size,
          (heap.alloc (skippedCopy (heap.read ref))).read r = heap.read r := fun r hr =>
        if_neg (Nat.ne_of_lt hr)
      obtain ⟨hSame, hMarked⟩ := ih (heap.alloc (skippedCopy (heap.read ref)))
        fun r hr => Nat.lt_succ_of_lt (hRefs r hr)
      refine ⟨fun r hr => (hSame r (Nat.lt_succ_of_lt hr)).trans (hRead r hr), .cons ?_ ?_⟩
      · rw [MarkedAs, if_pos hLeft]
        exact ⟨Nat.le_refl _, (hSame _ (Nat.lt_succ_self _)).trans (if_pos rfl)⟩
      · apply List.Forall₂.imp _ ((List.forall₂_and_left _ _).mpr ⟨hRefs, hMarked⟩)
        rintro r reported ⟨hr, hReported⟩
        unfold MarkedAs at hReported ⊢
        rw [hRead r hr] at hReported
        split_ifs at hReported ⊢
        · exact ⟨Nat.le_of_succ_le hReported.1, hReported.2⟩
        · exact hReported
    · rw [if_neg hLeft]
      obtain ⟨hSame, hMarked⟩ := ih heap hRefs
      exact ⟨hSame, .cons (by rw [MarkedAs, if_neg hLeft]) hMarked⟩

def Succeeds (runOnNode : RunOnNode) (node : ClusterMdNodeResult) (position : Nat) : Prop :=
  isSet node.command = true ∧ ∃ output, runOnNode position (running node) = .ok output

instance (runOnNode : RunOnNode) (node : ClusterMdNodeResult) (position : Nat) :
    Decidable (Succeeds runOnNode node position) :=
  match h : runOnNode position (running node) with
  | .ok output => decidable_of_iff (isSet node.command = true) (by simp [Succeeds, h])
  | .error _ => isFalse (by simp [Succeeds, h])

/-- What is left of a run of nodes that all succeed. -/
structure RanAll (st st' : RunState) (refs : List Nat) : Prop where
  ran : st'.ran = st.ran ++ refs
  refreshed : st'.refreshedSanIds = (refs.map fun r => (st.heap.read r).sanId).foldl addSanId
    st.refreshedSanIds
  others : ∀ r, r ∉ refs → st'.heap.read r = st.heap.read r
  status : ∀ r ∈ refs, (st'.heap.read r).status = .success
  sanId : ∀ r, (st'.heap.read r).sanId = (st.heap.read r).sanId

theorem runNodes_of_succeeds (runOnNode : RunOnNode) (st : RunState) (before rest : List Nat)
    (hUnique : before.Nodup)
    (h : ∀ entry ∈ before.zipIdx st.ran.length,
      Succeeds runOnNode (st.heap.read entry.1) entry.2) :
    ∃ st', runNodes runOnNode st (before ++ rest) = runNodes runOnNode st' rest ∧
      RanAll st st' before := by
  induction before generalizing st with
  | nil => exact ⟨st, rfl, by simp, rfl, fun _ _ => rfl,
      fun _ hr => absurd hr List.not_mem_nil, fun _ => rfl⟩
  | cons ref before ih =>
    obtain ⟨hFirst, hUnique⟩ := List.nodup_cons.mp hUnique
    obtain ⟨hCommand, output, hOutput⟩ := h (ref, st.ran.length) (by simp)
    have hStep : runNodes runOnNode st (ref :: before ++ rest) =
        runNodes runOnNode (st.succeed ref output) (before ++ rest) := by
      rw [List.cons_append, runNodes]
      simp only [hCommand, Bool.not_true, Bool.false_eq_true, if_false, hOutput]
    have hOther : ∀ r, r ≠ ref → (st.succeed ref output).heap.read r = st.heap.read r :=
      fun r hr => NodeHeap.read_write_of_ne hr
    have hDone : (st.succeed ref output).heap.read ref = applySuccess output (st.heap.read ref) :=
      NodeHeap.read_write_self ..
    have hIds : ∀ r, ((st.succeed ref output).heap.read r).sanId = (st.heap.read r).sanId := by
      intro r
      by_cases hr : r = ref
      · rw [hr, hDone]
        rfl
      · rw [hOther r hr]
    have hRest : ∀ entry ∈ before.zipIdx (st.succeed ref output).ran.length,
        Succeeds runOnNode ((st.succeed ref output).heap.read entry.1) entry.2 := by
      intro entry hEntry
      have hNe : entry.1 ≠ ref := fun hSame =>
        hFirst (hSame ▸ List.fst_mem_of_mem_zipIdx hEntry)
      rw [hOther entry.1 hNe]
      apply h
      rw [List.zipIdx_cons]
      have hLength : (st.succeed ref output).ran.length = st.ran.length + 1 := by
        simp [RunState.succeed]
      exact List.mem_cons_of_mem _ (hLength ▸ hEntry)
    obtain ⟨st', hRun, hAll⟩ := ih (st.succeed ref output) hUnique hRest
    refine ⟨st', hStep.trans hRun, ?_, ?_, ?_, ?_, ?_⟩
    · rw [hAll.ran]
      simp [RunState.succeed]
    · rw [hAll.refreshed, List.map_cons, List.foldl_cons]
      simp only [hIds]
      rfl
    · intro r hr
      obtain ⟨hNe, hNotMem⟩ := not_or.mp (List.mem_cons.not.mp hr)
      rw [hAll.others r hNotMem, hOther r hNe]
    · intro r hr
      by_cases hMem : r ∈ before
      · exact hAll.status r hMem
      · have hSame : r = ref := (List.mem_cons.mp hr).resolve_right hMem
        rw [hAll.others r hMem, hSame, hDone]
        rfl
    · exact fun r => (hAll.sanId r).trans (hIds r)

/-- The first node that does not succeed ends the run. -/
structure FailedOn (st st' : RunState) (ref : Nat) : Prop where
  ran : st'.ran = st.ran ++ if isSet (st.heap.read ref).command then [ref] else []
  refreshed : st'.refreshedSanIds = st.refreshedSanIds
  others : ∀ r, r ≠ ref → st'.heap.read r = st.heap.read r
  status : (st'.heap.read ref).status = .failed
  sanId : ∀ r, (st'.heap.read r).sanId = (st.heap.read r).sanId

theorem runNodes_of_fails (runOnNode : RunOnNode) (st : RunState) (ref : Nat) (refs : List Nat)
    (h : ¬ Succeeds runOnNode (st.heap.read ref) st.ran.length) :
    ∃ st' error, runNodes runOnNode st (ref :: refs) =
      (st', some ((st.heap.read ref).sanId, error)) ∧ FailedOn st st' ref := by
  -- Whatever the reason, only the status and the texts of that one node change.
  have hSanId : ∀ change : ClusterMdNodeResult → ClusterMdNodeResult,
      (∀ node, (change node).sanId = node.sanId) →
      ∀ r, ((st.heap.write ref change).read r).sanId = (st.heap.read r).sanId := by
    intro change hChange r
    by_cases hr : r = ref
    · rw [hr, NodeHeap.read_write_self, hChange]
    · rw [NodeHeap.read_write_of_ne hr]
  rw [runNodes]
  cases hCommand : isSet (st.heap.read ref).command with
  | false =>
    refine ⟨_, _, rfl, ?_, rfl, fun r hr => NodeHeap.read_write_of_ne hr, ?_, ?_⟩
    · simp [hCommand]
    · simp [applyMissingCommand]
    · exact hSanId _ fun _ => rfl
  | true =>
    cases hRun : runOnNode st.ran.length (running (st.heap.read ref)) with
    | ok output => exact absurd ⟨hCommand, output, hRun⟩ h
    | error err =>
      refine ⟨_, _, rfl, ?_, rfl, fun r hr => NodeHeap.read_write_of_ne hr, ?_, ?_⟩
      · simp [hCommand]
      · simp [applyFailure]
      · exact hSanId _ fun _ => rfl

/-- Nodes as plans have them: nothing has been run yet, and each is there once. -/
structure PlannedNodes (nodes : List ClusterMdNodeResult) : Prop where
  status : ∀ node ∈ nodes,
    node.status = if node.participation = .skip then .skipped else .pending
  unique : (nodes.map (·.sanId)).Nodup

def executionOrder (nodes : List ClusterMdNodeResult) : List Nat :=
  refsToExecute (.load nodes) (List.range nodes.length)

def executeNodes (runOnNode : RunOnNode) (action : ClusterStorageAction) (primarySanId : String)
    (nodes : List ClusterMdNodeResult) (named : Bool) : ClusterMdExecution :=
  executeClusterMdNodes runOnNode action primarySanId (.load nodes) (List.range nodes.length)
    (if named then some (executionOrder nodes) else none)

structure ReportedAs (node result : ClusterMdNodeResult) (ref : Nat) (succeeded : List Nat)
    (failed : Option Nat) : Prop where
  sanId : result.sanId = node.sanId
  success_iff : result.status = .success ↔ ref ∈ succeeded
  failed_iff : result.status = .failed ↔ failed = some ref
  skipped : node.participation = .skip → result.status = .skipped

structure Reported (nodes results : List ClusterMdNodeResult) (succeeded : List Nat)
    (failed : Option Nat) : Prop where
  length : results.length = nodes.length
  each : ∀ (ref : Nat) (node result : ClusterMdNodeResult), nodes[ref]? = some node →
    results[ref]? = some result → ReportedAs node result ref succeeded failed

theorem read_load {nodes : List ClusterMdNodeResult} {r : Nat} {node : ClusterMdNodeResult}
    (h : nodes[r]? = some node) : (NodeHeap.load nodes).read r = node := by
  simp [NodeHeap.load, h]

theorem refsToExecute_marked {heap marked : NodeHeap} {refs reported : List Nat}
    (hSame : ∀ r ∈ refs, marked.read r = heap.read r)
    (h : List.Forall₂ (MarkedAs heap marked) refs reported) :
    refsToExecute marked reported = refsToExecute heap refs := by
  unfold refsToExecute
  induction h with
  | nil => rfl
  | @cons ref reportedRef refs reported hHead _ ih =>
    have hRest := ih fun r hr => hSame r (List.mem_cons_of_mem _ hr)
    rw [List.filter_cons, List.filter_cons, hRest]
    unfold MarkedAs at hHead
    split at hHead
    · rename_i hLeft
      have hSkip : (heap.read ref).participation = .skip := by
        simp only [isLeftOut, Bool.and_eq_true, beq_iff_eq] at hLeft
        exact hLeft.1.1
      have hCopy : (marked.read reportedRef).participation = .skip := by
        rw [hHead.2]
        exact hSkip
      rw [hCopy, hSkip]
      rfl
    · rw [hHead, hSame ref List.mem_cons_self]

/-- The report after a run, from what the run left of the objects. -/
theorem reported_of_final {nodes : List ClusterMdNodeResult} (hPlanned : PlannedNodes nodes)
    {marked final : NodeHeap} {allNodes succeeded : List Nat} {failed : Option Nat}
    (hSame : ∀ r < nodes.length, marked.read r = (NodeHeap.load nodes).read r)
    (hMarked : List.Forall₂ (MarkedAs (.load nodes) marked) (List.range nodes.length) allNodes)
    (hSucceeded : ∀ r ∈ succeeded, r ∈ executionOrder nodes)
    (hFailed : ∀ r, failed = some r → r ∈ executionOrder nodes ∧ r ∉ succeeded)
    (hSanId : ∀ r, (final.read r).sanId = (marked.read r).sanId)
    (hSuccess : ∀ r ∈ succeeded, (final.read r).status = .success)
    (hFailure : ∀ r, failed = some r → (final.read r).status = .failed)
    (hOthers : ∀ r, r ∉ succeeded → failed ≠ some r → final.read r = marked.read r) :
    Reported nodes (allNodes.map final.read) succeeded failed := by
  have hLength : allNodes.length = nodes.length := by
    rw [← hMarked.length_eq, List.length_range]
  refine ⟨by rw [List.length_map, hLength], ?_⟩
  intro ref node result hNode hResult
  obtain ⟨hRef, hGet⟩ := List.getElem?_eq_some_iff.mp hNode
  rw [List.getElem?_map] at hResult
  obtain ⟨reported, hReported, rfl⟩ := Option.map_eq_some_iff.mp hResult
  obtain ⟨hIn, rfl⟩ := List.getElem?_eq_some_iff.mp hReported
  have hRead := read_load hNode
  have hMarkedAs : MarkedAs (.load nodes) marked ref allNodes[ref] := by
    have hAt := hMarked.get (by rwa [List.length_range]) hIn
    simpa using hAt
  have hStatus := hPlanned.status node (List.mem_of_getElem? hNode)
  have hExecutes : ref ∈ executionOrder nodes → node.participation = .execute := by
    intro hOrder
    have hParticipates := (List.mem_filter.mp hOrder).2
    rw [hRead] at hParticipates
    exact beq_iff_eq.mp hParticipates
  unfold MarkedAs at hMarkedAs
  rw [hRead] at hMarkedAs
  by_cases hSkip : node.participation = .skip
  · -- The node is reported by a new object, which the run does not touch.
    have hLeft : isLeftOut node = true := by
      rw [if_pos hSkip] at hStatus
      simp [isLeftOut, hSkip, hStatus]
    rw [if_pos hLeft] at hMarkedAs
    obtain ⟨hFresh, hCopy⟩ := hMarkedAs
    have hOut : ∀ r ∈ executionOrder nodes, allNodes[ref] ≠ r := by
      intro r hr hSameRef
      have hBound := List.mem_range.mp (List.mem_filter.mp hr).1
      exact absurd hBound (Nat.not_lt_of_ge (hSameRef ▸ hFresh))
    have hFinal : final.read allNodes[ref] = skippedCopy node := by
      rw [hOthers _ (fun hIs => hOut _ (hSucceeded _ hIs) rfl)
        (fun hIs => hOut _ (hFailed _ hIs).1 rfl), hCopy]
    have hNot : ref ∉ executionOrder nodes := fun hOrder => by
      rw [hExecutes hOrder] at hSkip
      cases hSkip
    rw [hFinal]
    refine ⟨rfl, ?_, ?_, fun _ => rfl⟩
    · exact iff_of_false nofun fun hIs => hNot (hSucceeded _ hIs)
    · exact iff_of_false nofun fun hIs => hNot (hFailed _ hIs).1
  · have hLeft : ¬ isLeftOut node = true := by simp [isLeftOut, hSkip]
    rw [if_neg hLeft] at hMarkedAs
    rw [if_neg hSkip] at hStatus
    rw [hMarkedAs]
    have hHere : marked.read ref = node := (hSame ref hRef).trans hRead
    refine ⟨(hSanId ref).trans (by rw [hHere]), ?_, ?_, fun hIs => absurd hIs hSkip⟩
    · constructor
      · intro hIs
        by_contra hNot
        by_cases hFailedHere : failed = some ref
        · rw [hFailure ref hFailedHere] at hIs
          cases hIs
        · rw [hOthers ref hNot hFailedHere, hHere, hStatus] at hIs
          cases hIs
      · exact hSuccess ref
    · constructor
      · intro hIs
        by_contra hNot
        by_cases hSucceededHere : ref ∈ succeeded
        · rw [hSuccess ref hSucceededHere] at hIs
          cases hIs
        · rw [hOthers ref hSucceededHere hNot, hHere, hStatus] at hIs
          cases hIs
      · exact hFailure ref

theorem foldl_addSanId {sanIds added : List String} (h : (sanIds ++ added).Nodup) :
    added.foldl addSanId sanIds = sanIds ++ added := by
  induction added generalizing sanIds with
  | nil => simp
  | cons sanId added ih =>
    have hNew : sanId ∉ sanIds := by
      intro hMem
      exact (List.nodup_append.mp h).2.2 sanId hMem sanId List.mem_cons_self rfl
    rw [List.foldl_cons, addSanId, if_neg (by simpa using hNew), ih (by simpa using h)]
    simp

theorem nodup_executionOrder (nodes : List ClusterMdNodeResult) : (executionOrder nodes).Nodup :=
  List.nodup_range.filter _

theorem lt_of_mem_executionOrder {nodes : List ClusterMdNodeResult} {r : Nat}
    (h : r ∈ executionOrder nodes) : r < nodes.length :=
  List.mem_range.mp (List.mem_filter.mp h).1

theorem PlannedNodes.nodup_sanIds {nodes : List ClusterMdNodeResult} (h : PlannedNodes nodes)
    {refs : List Nat} (hNodup : refs.Nodup) (hRefs : ∀ r ∈ refs, r < nodes.length) :
    (refs.map fun r => ((NodeHeap.load nodes).read r).sanId).Nodup := by
  apply List.Nodup.map_on _ hNodup
  intro r hr r' hr' hSame
  have hAt := List.getElem?_eq_getElem (hRefs r hr)
  have hAt' := List.getElem?_eq_getElem (hRefs r' hr')
  rw [read_load hAt, read_load hAt'] at hSame
  have hBound : r < (nodes.map (·.sanId)).length := by simpa using hRefs r hr
  have hBound' : r' < (nodes.map (·.sanId)).length := by simpa using hRefs r' hr'
  have hIds : (nodes.map (·.sanId))[r] = (nodes.map (·.sanId))[r'] := by simpa using hSame
  exact (h.unique.getElem_inj_iff).mp hIds

theorem executeNodes_eq (runOnNode : RunOnNode) (action : ClusterStorageAction)
    (primarySanId : String) (nodes : List ClusterMdNodeResult) (named : Bool) : ∃ marked allNodes,
    markSkippedNodes (.load nodes) (List.range nodes.length) = (marked, allNodes) ∧
    (∀ r < nodes.length, marked.read r = (NodeHeap.load nodes).read r) ∧
    List.Forall₂ (MarkedAs (.load nodes) marked) (List.range nodes.length) allNodes ∧
    executeNodes runOnNode action primarySanId nodes named =
      executeClusterMdNodes runOnNode action primarySanId (.load nodes)
        (List.range nodes.length) (some (executionOrder nodes)) := by
  have hIn : ∀ r ∈ List.range nodes.length, r < (NodeHeap.load nodes).size := fun r hr =>
    List.mem_range.mp hr
  obtain ⟨hSame, hMarked⟩ := markSkippedNodes_spec (.load nodes) (List.range nodes.length) hIn
  refine ⟨_, _, rfl, hSame, hMarked, ?_⟩
  cases named with
  | true => rfl
  | false =>
    have hOrder := refsToExecute_marked (fun r hr => hSame r (hIn r hr)) hMarked
    unfold executeNodes executeClusterMdNodes
    simp only [Bool.false_eq_true, if_false, Option.getD_none, Option.getD_some, hOrder]
    rfl

section

def nodeAt (nodes : List ClusterMdNodeResult) (ref : Nat) : ClusterMdNodeResult :=
  (NodeHeap.load nodes).read ref

structure StoppedAt (nodes : List ClusterMdNodeResult) (before : List Nat) (failed : Nat)
    (execution : ClusterMdExecution) : Prop where
  ran : execution.ran = before ++ if isSet (nodeAt nodes failed).command then [failed] else []
  outcome : ∃ error result, execution.outcome = .error (error, result) ∧
    result.failedSanId = some (nodeAt nodes failed).sanId ∧
    result.refreshedSanIds = before.map (fun r => (nodeAt nodes r).sanId) ∧
    Reported nodes result.nodeResults before (some failed)

/-- What is reported when all nodes succeed. -/
structure Finished (nodes : List ClusterMdNodeResult) (execution : ClusterMdExecution) :
    Prop where
  ran : execution.ran = executionOrder nodes
  outcome : ∃ result, execution.outcome = .ok result ∧ result.failedSanId = none ∧
    result.refreshedSanIds = (executionOrder nodes).map (fun r => (nodeAt nodes r).sanId) ∧
    Reported nodes result.nodeResults (executionOrder nodes) none

variable (runOnNode : RunOnNode) (action : ClusterStorageAction) (primarySanId : String)
  {nodes : List ClusterMdNodeResult} (hPlanned : PlannedNodes nodes) (named : Bool)

include hPlanned

theorem finished_of_succeeds
    (h : ∀ entry ∈ (executionOrder nodes).zipIdx,
      Succeeds runOnNode (nodeAt nodes entry.1) entry.2) :
    Finished nodes (executeNodes runOnNode action primarySanId nodes named) := by
  obtain ⟨marked, allNodes, hMark, hSame, hMarked, hExecution⟩ :=
    executeNodes_eq runOnNode action primarySanId nodes named
  have hBound : ∀ r ∈ executionOrder nodes, r < nodes.length := fun r hr =>
    lt_of_mem_executionOrder hr
  have hSucceeds : ∀ entry ∈ (executionOrder nodes).zipIdx,
      Succeeds runOnNode (marked.read entry.1) entry.2 := by
    intro entry hEntry
    rw [hSame _ (hBound _ (List.fst_mem_of_mem_zipIdx hEntry))]
    exact h entry hEntry
  obtain ⟨st, hRun, hAll⟩ := runNodes_of_succeeds runOnNode { heap := marked }
    (executionOrder nodes) [] (nodup_executionOrder nodes) hSucceeds
  rw [List.append_nil] at hRun
  have hIds : (executionOrder nodes).map (fun r => (marked.read r).sanId) =
      (executionOrder nodes).map fun r => (nodeAt nodes r).sanId :=
    List.map_congr_left fun r hr => by rw [hSame r (hBound r hr)]; rfl
  have hNodup := hPlanned.nodup_sanIds (nodup_executionOrder nodes) hBound
  rw [hExecution]
  unfold executeClusterMdNodes
  rw [hMark]
  dsimp only [Option.getD_some]
  rw [hRun]
  refine ⟨by simpa [runNodes] using hAll.ran, _, rfl, rfl, ?_, ?_⟩
  · change st.refreshedSanIds = _
    rw [hAll.refreshed, hIds]
    exact @foldl_addSanId [] _ hNodup
  · exact reported_of_final hPlanned hSame hMarked (fun _ hr => hr) nofun hAll.sanId hAll.status
      nofun fun r hr _ => hAll.others r hr

theorem stoppedAt_of_fails {before after : List Nat} {failed : Nat}
    (hOrder : executionOrder nodes = before ++ failed :: after)
    (hBefore : ∀ entry ∈ before.zipIdx, Succeeds runOnNode (nodeAt nodes entry.1) entry.2)
    (hFails : ¬ Succeeds runOnNode (nodeAt nodes failed) before.length) :
    StoppedAt nodes before failed
      (executeNodes runOnNode action primarySanId nodes named) := by
  obtain ⟨marked, allNodes, hMark, hSame, hMarked, hExecution⟩ :=
    executeNodes_eq runOnNode action primarySanId nodes named
  have hBound : ∀ r ∈ executionOrder nodes, r < nodes.length := fun r hr =>
    lt_of_mem_executionOrder hr
  have hIn : ∀ r ∈ before, r ∈ executionOrder nodes := fun r hr =>
    hOrder ▸ List.mem_append_left _ hr
  have hFailedIn : failed ∈ executionOrder nodes := hOrder ▸ by simp
  have hNodupOrder := nodup_executionOrder nodes
  rw [hOrder] at hNodupOrder
  obtain ⟨hNodupBefore, -, hDisjoint⟩ := List.nodup_append.mp hNodupOrder
  have hNotBefore : failed ∉ before := fun hMem =>
    hDisjoint failed hMem failed List.mem_cons_self rfl
  have hSucceeds : ∀ entry ∈ before.zipIdx,
      Succeeds runOnNode (marked.read entry.1) entry.2 := by
    intro entry hEntry
    rw [hSame _ (hBound _ (hIn _ (List.fst_mem_of_mem_zipIdx hEntry)))]
    exact hBefore entry hEntry
  obtain ⟨st, hRun, hAll⟩ := runNodes_of_succeeds runOnNode { heap := marked }
    before (failed :: after) hNodupBefore hSucceeds
  have hRan : st.ran = before := by simpa using hAll.ran
  have hReadFailed : st.heap.read failed = nodeAt nodes failed :=
    (hAll.others failed hNotBefore).trans (hSame failed (hBound failed hFailedIn))
  obtain ⟨st', error, hStop, hFailed⟩ := runNodes_of_fails runOnNode st failed after
    (by rwa [hReadFailed, hRan])
  have hIds : before.map (fun r => (marked.read r).sanId) =
      before.map fun r => (nodeAt nodes r).sanId :=
    List.map_congr_left fun r hr => by rw [hSame r (hBound r (hIn r hr))]; rfl
  have hNodup := hPlanned.nodup_sanIds hNodupBefore fun r hr => hBound r (hIn r hr)
  have hStatus : ∀ r ∈ before, (st'.heap.read r).status = .success := by
    intro r hr
    have hNe : r ≠ failed := fun hIs => hNotBefore (hIs ▸ hr)
    rw [hFailed.others r hNe]
    exact hAll.status r hr
  rw [hExecution]
  unfold executeClusterMdNodes
  rw [hMark]
  dsimp only [Option.getD_some]
  rw [hOrder, hRun, hStop]
  refine ⟨?_, error, _, rfl, ?_, ?_, ?_⟩
  · change st'.ran = _
    rw [hFailed.ran, hRan, hReadFailed]
  · change some (st.heap.read failed).sanId = _
    rw [hReadFailed]
  · change st'.refreshedSanIds = _
    rw [hFailed.refreshed, hAll.refreshed, hIds]
    exact @foldl_addSanId [] _ hNodup
  · apply reported_of_final hPlanned hSame hMarked hIn
    · rintro r ⟨rfl⟩
      exact ⟨hFailedIn, hNotBefore⟩
    · exact fun r => (hFailed.sanId r).trans (hAll.sanId r)
    · exact hStatus
    · rintro r ⟨rfl⟩
      exact hFailed.status
    · intro r hr hNe
      rw [hFailed.others r fun hIs => hNe (hIs ▸ rfl)]
      exact hAll.others r hr

/-- The nodes to execute are run in their order. If one is the first to fail, those before it
have succeeded, none after it is run, and the nodes that are left out stay so; if none fails,
all of them have succeeded. -/
theorem execution_stops_at_first_failure :
    ((∀ entry ∈ (executionOrder nodes).zipIdx,
        Succeeds runOnNode (nodeAt nodes entry.1) entry.2) →
      Finished nodes (executeNodes runOnNode action primarySanId nodes named)) ∧
    ∀ before failed after, executionOrder nodes = before ++ failed :: after →
      (∀ entry ∈ before.zipIdx, Succeeds runOnNode (nodeAt nodes entry.1) entry.2) →
      ¬ Succeeds runOnNode (nodeAt nodes failed) before.length →
      StoppedAt nodes before failed
          (executeNodes runOnNode action primarySanId nodes named) ∧
        ∀ r ∈ after, r ∉ (executeNodes runOnNode action primarySanId nodes named).ran := by
  refine ⟨finished_of_succeeds runOnNode action primarySanId hPlanned named, ?_⟩
  intro before failed after hOrder hBefore hFails
  have hStopped := stoppedAt_of_fails runOnNode action primarySanId hPlanned named hOrder
    hBefore hFails
  refine ⟨hStopped, fun r hr hRan => ?_⟩
  have hNodup := nodup_executionOrder nodes
  rw [hOrder] at hNodup
  obtain ⟨-, hNodupRest, hDisjoint⟩ := List.nodup_append.mp hNodup
  rw [hStopped.ran] at hRan
  rcases List.mem_append.mp hRan with hIn | hIs
  · exact hDisjoint r hIn r (List.mem_cons_of_mem _ hr) rfl
  · split_ifs at hIs
    · exact (List.nodup_cons.mp hNodupRest).1 (List.mem_singleton.mp hIs ▸ hr)
    · cases hIs

end

theorem status_stopNodeResult (primarySanId arrayName : String) (mode : ClusterMdRecoveryMode)
    (node : ClusterStorageNodeInventory) (report : MdArrayNodeStateReport) :
    (stopNodeResult primarySanId arrayName mode node report).status =
      if (stopNodeResult primarySanId arrayName mode node report).participation = .skip then
        .skipped else .pending := by
  unfold stopNodeResult
  dsimp only
  split
  · rfl
  · split <;> rfl

theorem status_assembleNodeResult {mappings : List ClusterDiskMapping}
    {primarySanId effectiveName : String} {mode : ClusterMdRecoveryMode} {sources : List String}
    {node : ClusterStorageNodeInventory} {report : MdArrayNodeStateReport}
    {result : ClusterMdNodeResult}
    (h : assembleNodeResult mappings primarySanId effectiveName mode sources node report =
      .ok result) :
    result.status = if result.participation = .skip then .skipped else .pending := by
  unfold assembleNodeResult at h
  dsimp only at h
  split at h
  · cases h
    rfl
  · split at h
    · cases h
      rfl
    · split at h
      · cases h
        rfl
      · obtain ⟨command, -, rfl⟩ := map_eq_ok.mp h
        rfl

theorem status_cleanupNodeResult (node : ClusterStorageNodeInventory) (primarySanId : String)
    (sourceMembers : List String) (mappings : List ClusterDiskMapping)
    (nodePreflight : Option RaidPreflightResult) (commandBuilder : List String → String) :
    (cleanupNodeResult node primarySanId sourceMembers mappings nodePreflight
        commandBuilder).status =
      if (cleanupNodeResult node primarySanId sourceMembers mappings nodePreflight
          commandBuilder).participation = .skip then .skipped else .pending := by
  unfold cleanupNodeResult
  dsimp only
  split
  · rfl
  · split
    · rfl
    · split
      · rfl
      · split <;> rfl

section

variable [Host] {cluster : Cluster}

theorem plannedNodes_of_stop {req : StopMdPlanRequest} {plan : ClusterMdPlan ClusterMdRecoveryMode}
    (h : buildStopMdClusterExecutionPlan cluster req = .ok plan) :
    PlannedNodes plan.nodeResults := by
  refine ⟨?_, (stop_executesWhere h).perm.nodup_iff.mpr cluster.unique⟩
  obtain ⟨-, -, -, hResults, -⟩ := buildStopMdClusterExecutionPlan_eq_ok h
  intro result hResult
  rw [hResults] at hResult
  obtain ⟨node, -, rfl⟩ := List.mem_map.mp hResult
  exact status_stopNodeResult ..

theorem plannedNodes_of_assemble {req : AssembleMdArrayRequest}
    {recoveryModeInput : Option ClusterMdRecoveryMode}
    {plan : ClusterMdPlan ClusterMdRecoveryMode}
    (h : buildAssembleMdClusterExecutionPlan cluster req recoveryModeInput = .ok plan) :
    PlannedNodes plan.nodeResults := by
  obtain ⟨run, -, -, -, hNodes, -⟩ := buildAssembleMdClusterExecutionPlan_eq_ok h
  refine ⟨?_, (assemble_executesWhere hNodes).perm.nodup_iff.mpr cluster.unique⟩
  obtain ⟨-, -, -, hResults, -⟩ := parts_of_buildAssembleMdClusterExecutionPlan h
  obtain ⟨reported, -, hAll⟩ := bind_eq_ok.mp hResults
  intro result hResult
  obtain ⟨node, -, hOn⟩ := exists_of_forall₂_right (mapM_eq_ok.mp hAll) hResult
  exact status_assembleNodeResult hOn

theorem plannedNodes_of_cleanup {kind : CleanupKind}
    {clusterExecution : ClusterMdExecutionRequest} {payload : Payload}
    {plan : ClusterMdPlan (Option ClusterMdRecoveryMode)}
    {recoveryModeInput : Option ClusterMdRecoveryMode}
    (hCleanup : isCleanupClusterAction kind.action)
    (hSelected : (cleanupPreflight kind clusterExecution payload).selectedPaths = payload.members)
    (h : buildCleanupClusterExecutionPlan cluster kind clusterExecution payload.members payload
      recoveryModeInput = .ok plan) :
    PlannedNodes plan.nodeResults := by
  obtain ⟨run, -, hResults, -⟩ := buildCleanupClusterExecutionPlan_eq_ok hCleanup h
  refine ⟨?_, (cleanup_executesWhere run hCleanup hSelected hResults).perm.nodup_iff.mpr
    cluster.unique⟩
  intro result hResult
  rw [hResults] at hResult
  obtain ⟨node, -, rfl⟩ := List.mem_map.mp hResult
  exact status_cleanupNodeResult ..

theorem plannedNodes_of_plan (cluster : Cluster) :
    (∀ req plan, buildStopMdClusterExecutionPlan cluster req = .ok plan →
      PlannedNodes plan.nodeResults) ∧
    (∀ req mode plan, buildAssembleMdClusterExecutionPlan cluster req mode = .ok plan →
      PlannedNodes plan.nodeResults) ∧
    (∀ req plan, buildZeroMdClusterExecutionPlan cluster req = .ok plan →
      PlannedNodes plan.nodeResults) ∧
    ∀ req plan, buildWipeMdClusterExecutionPlan cluster req = .ok plan →
      PlannedNodes plan.nodeResults := by
  refine ⟨fun _ _ h => plannedNodes_of_stop h, fun _ _ _ h => plannedNodes_of_assemble h, ?_, ?_⟩
  · intro req plan h
    obtain ⟨_, -, hPlan⟩ := bind_eq_ok.mp h
    exact @plannedNodes_of_cleanup _ cluster zeroCleanup req.clusterExecution req.payload plan _
      rfl rfl hPlan
  · intro req plan h
    exact @plannedNodes_of_cleanup _ cluster wipeCleanup req.clusterExecution req.payload plan _
      rfl rfl h

end

def threeNodes : List ClusterMdNodeResult :=
  [{ sanId := "a", label := "A", source := .primary, participation := .execute
     command := some "mdadm --stop /dev/md0" },
    { sanId := "b", label := "B", source := .peer, participation := .skip, status := .skipped },
    { sanId := "c", label := "C", source := .peer, participation := .execute
      command := some "mdadm --stop /dev/md0" }]

theorem plannedNodes_threeNodes : PlannedNodes threeNodes := ⟨by decide, by decide⟩

def firstSucceed (count : Nat) : RunOnNode := fun position _ =>
  if position < count then .ok { stdout := "stopped" } else .error { message := some "busy" }

theorem execution_stops_at_first_failure_threeNodes :
    Finished threeNodes (executeNodes (firstSucceed 2) .stopMd "a" threeNodes true) ∧
      StoppedAt threeNodes [0] 2
        (executeNodes (firstSucceed 1) .stopMd "a" threeNodes false) := by
  constructor
  · exact (execution_stops_at_first_failure (firstSucceed 2) .stopMd "a" plannedNodes_threeNodes
      true).1 (by decide)
  · exact ((execution_stops_at_first_failure (firstSucceed 1) .stopMd "a" plannedNodes_threeNodes
      false).2 [0] 2 [] (by decide) (by decide) (by decide)).1

end EsosWebui.Raid
