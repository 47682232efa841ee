import EsosWebui.Js.OrderedMap
import EsosWebui.Js.Run
import EsosWebui.Raid.MdActions

/-! The records of the RAID operations, and the handlers that write to them while their commands
run: preparations of partitions on one SAN or on the nodes of a cluster, and cancellations. -/
namespace EsosWebui.Raid

open Js

inductive RaidOperationStatus where
  | planned
  | running
  | success
  | warning
  | failed
  | cancelled
  deriving DecidableEq

structure RaidOperationStep where
  id : String
  label : String
  command : String
  status : RaidOperationStatus
  stdoutPreview : Option String := none
  stderrPreview : Option String := none

structure RaidOperation where
  id : String
  sanId : String
  action : String
  status : RaidOperationStatus
  createdAt : Nat
  startedAt : Option Nat := none
  finishedAt : Option Nat := none
  summary : String
  steps : List RaidOperationStep
  error : Option String := none

/-- `Partial<RaidOperation>`, of what is patched. -/
structure RaidOperationPatch where
  status : Option RaidOperationStatus := none
  finishedAt : Option Nat := none
  error : Option String := none
  steps : Option (List RaidOperationStep) := none

/-- `{ ...op, ...patch }` -/
def RaidOperation.patched (op : RaidOperation) (patch : RaidOperationPatch) : RaidOperation :=
  { op with
    status := patch.status.getD op.status
    finishedAt := patch.finishedAt.or op.finishedAt
    error := patch.error.or op.error
    steps := patch.steps.getD op.steps }

abbrev OperationStore := OrderedMap String RaidOperation

def maxOperations : Nat := 200

def oldestOperations (store : OperationStore) : List (String × RaidOperation) :=
  if maxOperations < store.entries.length then
    (store.entries.mergeSort fun a b => a.2.createdAt ≤ b.2.createdAt).take
      (store.entries.length - maxOperations)
  else []

def addRaidOperation (op : RaidOperation) (store : OperationStore) : OperationStore :=
  let store := store.set op.id op
  (oldestOperations store).foldl (fun m e => m.delete e.1) store

def updateRaidOperation (id : String) (patch : RaidOperationPatch) (store : OperationStore) :
    OperationStore :=
  store.modify id fun op => op.patched patch

def isOpen (status : RaidOperationStatus) : Bool := status == .planned || status == .running

def cancelRaidOperation (id : String) (now : Nat) (store : OperationStore) :
    OperationStore × Option RaidOperation :=
  match store.get id with
  | none => (store, none)
  | some op =>
    if isOpen op.status then
      let updated := { op with status := .cancelled, finishedAt := some now }
      (store.set id updated, some updated)
    else (store, some op)

/-- What a handler still does: it patches its operation, runs a command, or reads the overview of a
SAN, whose answer is the commands of the checked request. -/
inductive HandlerTask where
  | done
  | update (patch : Nat → RaidOperationPatch) (next : HandlerTask)
  | exec (command : String) (next : Except NodeError RemoteOutput → HandlerTask)
  | collect (sanId : String) (next : Except NodeError (List String) → HandlerTask)

def prepareCommands (next : Except NodeError String → HandlerTask) :
    List Text → List String → HandlerTask
  | outputs, [] => next (.ok (firstChars 4000 (['\n'].intercalate outputs)))
  | outputs, command :: commands => .exec (wrapCommand command) fun reply =>
    match reply with
    | .error e => next (.error e)
    | .ok output =>
      let last := lastChars 500 output.stdout
      if isPrepareFailure output.stdout then
        next (.error
          { statusCode := some 500
            statusMessage := some s!"Échec préparation partition RAID : {last}"
            stdout := some
              (firstChars 4000 (['\n'].intercalate (outputs ++ [output.stdout]))) })
      else prepareCommands next (outputs ++ [output.stdout]) commands

def runPreparation (writeEnabled : Bool) (commands : List String)
    (next : Except NodeError String → HandlerTask) : HandlerTask :=
  if writeEnabled then prepareCommands next [] commands
  else
    next (.error
      { statusCode := some 403
        statusMessage := some
          "Les actions RAID sont désactivées (RAID_WRITE_ACTIONS_ENABLED=false)" })

def preparationError (e : NodeError) : String :=
  (e.statusMessage.or e.message).getD "Erreur préparation partitions RAID"

def standaloneSteps (commands : List String) : List RaidOperationStep :=
  commands.zipIdx.map fun c =>
    { id := s!"cmd-{c.2 + 1}", label := s!"Commande {c.2 + 1}", command := c.1, status := .planned }

def withStatus (status : RaidOperationStatus) (steps : List RaidOperationStep) :
    List RaidOperationStep :=
  steps.map fun s => { s with status }

def runStandalone (writeEnabled : Bool) (commands : List String) : HandlerTask :=
  let steps := standaloneSteps commands
  .update (fun _ => { steps := some (withStatus .running steps) }) <|
    runPreparation writeEnabled commands fun result =>
      match result with
      | .ok _ => .update
          (fun now =>
            { status := some .success
              finishedAt := some now
              steps := some (withStatus .success steps) }) .done
      | .error e => .update
          (fun now =>
            { status := some .failed
              finishedAt := some now
              error := some (preparationError e)
              steps := some (withStatus .failed steps) }) .done

inductive PreparationStatus where
  | pending
  | running
  | success
  | failed

/-- The plan of a node, as far as the steps show it. -/
structure PreparationNode where
  sanId : String
  label : String
  commands : List String
  status : PreparationStatus := .pending
  stdout : Option String := none
  stderr : Option String := none
  error : Option String := none

def PreparationStatus.stepStatus : PreparationStatus → RaidOperationStatus
  | .pending => .planned
  | .running => .running
  | .success => .success
  | .failed => .failed

def setNodeStatus (nodes : List PreparationNode) (sanId : String) (status : PreparationStatus) :
    List PreparationNode :=
  nodes.modify (nodes.findIdx fun n => n.sanId = sanId) fun n => { n with status }

def toOperationSteps (nodes : List PreparationNode) : List RaidOperationStep :=
  nodes.flatMap fun node =>
    node.commands.zipIdx.map fun c =>
      { id := s!"{node.sanId}-cmd-{c.2 + 1}"
        label := s!"{node.label} — Commande {c.2 + 1}"
        command := c.1
        status := node.status.stepStatus
        stdoutPreview := node.stdout.map fun out => firstChars 500 out.toList
        stderrPreview := node.error }

def failNode (nodes : List PreparationNode) (i : Nat) (e : NodeError) : HandlerTask :=
  let failed := nodes.modify i fun n =>
    { n with
      status := .failed
      stdout := e.stdout
      stderr := e.stderr
      error := some (preparationError e) }
  let label := (nodes[i]?.map PreparationNode.label).getD ""
  let text := preparationError e
  .update
    (fun now =>
      { status := some .failed
        finishedAt := some now
        error := some s!"{label} : {text}"
        steps := some (toOperationSteps failed) }) .done

/-- The nodes at the positions, one after the other. -/
def prepareNodes (writeEnabled : Bool) : List Nat → List PreparationNode → HandlerTask
  | [], nodes => .update
      (fun now =>
        { status := some .success
          finishedAt := some now
          steps := some (toOperationSteps nodes) }) .done
  | i :: rest, nodes =>
    let sanId := (nodes[i]?.map PreparationNode.sanId).getD ""
    let nodes := setNodeStatus nodes sanId .running
    .update (fun _ => { steps := some (toOperationSteps nodes) }) <|
      .collect sanId fun overview =>
        match overview with
        | .error e => failNode nodes i e
        | .ok commands =>
          let nodes := nodes.modify i fun n => { n with commands }
          runPreparation writeEnabled commands fun result =>
            match result with
            | .error e => failNode nodes i e
            | .ok stdout =>
              let nodes := nodes.modify i fun n =>
                { n with status := .success, stdout := some stdout }
              .update (fun _ => { steps := some (toOperationSteps nodes) })
                (prepareNodes writeEnabled rest nodes)

def runClusterPrepareMdPartitions (writeEnabled : Bool) (nodes : List PreparationNode) :
    HandlerTask :=
  prepareNodes writeEnabled (List.range nodes.length) nodes

/-- A request whose checks have passed. -/
inductive PreparationRequest where
  | standalone (sanId : String) (disks commands : List String)
  | cluster (sanId : String) (nodes : List PreparationNode)

def PreparationRequest.operation (id : String) (now : Nat) : PreparationRequest → RaidOperation
  | .standalone sanId disks commands =>
    let shown := join ", " disks
    { id, sanId
      action := "prepare_md_partitions"
      status := .running
      createdAt := now
      startedAt := some now
      summary := s!"Préparation partitions RAID sur {shown}"
      steps := standaloneSteps commands }
  | .cluster sanId nodes =>
    { id, sanId
      action := "prepare_md_partitions_cluster"
      status := .running
      createdAt := now
      startedAt := some now
      summary := s!"Préparation partitions RAID cluster sur {nodes.length} nœuds"
      steps := toOperationSteps nodes }

def PreparationRequest.task (writeEnabled : Bool) : PreparationRequest → HandlerTask
  | .standalone _ _ commands => runStandalone writeEnabled commands
  | .cluster _ nodes => runClusterPrepareMdPartitions writeEnabled nodes

/-- The store, every handler with its operation, and every command that was started. -/
structure OperationSystem where
  store : OperationStore
  handlers : List (String × HandlerTask) := []
  started : List (String × String) := []

def noOperations : OperationSystem := { store := .empty }

inductive OperationReply where
  | output (result : Except NodeError RemoteOutput)
  | overview (result : Except NodeError (List String))

inductive OperationEvent where
  /-- a handler adds its operation -/
  | prepare (id : String) (request : PreparationRequest) (now : Nat)
  /-- what a handler waits for is there -/
  | answer (handler : Nat) (reply : OperationReply) (now : Nat)
  | cancel (id : String) (now : Nat)

/-- A handler goes on until it waits again. -/
def advance (id : String) (now : Nat) : HandlerTask → OperationStore → OperationStore × HandlerTask
  | .update patch next, store => advance id now next (updateRaidOperation id (patch now) store)
  | task, store => (store, task)

def HandlerTask.command : HandlerTask → Option String
  | .exec command _ => some command
  | _ => none

/-- What is left of a handler after the answer that it waits for. -/
def HandlerTask.resume : HandlerTask → OperationReply → Option HandlerTask
  | .exec _ next, .output result => some (next result)
  | .collect _ next, .overview result => some (next result)
  | _, _ => none

def impossible : String := "impossible"

def OperationSystem.step (writeEnabled : Bool) :
    OperationEvent → OperationSystem → Except String OperationSystem
  | .prepare id request now, s =>
    if id ∈ s.handlers.map Prod.fst then .error impossible
    else
      let added := addRaidOperation (request.operation id now) s.store
      let (store, task) := advance id now (request.task writeEnabled) added
      .ok
        { store
          handlers := s.handlers ++ [(id, task)]
          started := s.started ++ (task.command.map fun c => (id, c)).toList }
  | .answer i reply now, s =>
    match s.handlers[i]? with
    | none => .error impossible
    | some (id, waiting) =>
      match waiting.resume reply with
      | none => .error impossible
      | some next =>
        let (store, task) := advance id now next s.store
        .ok
          { store
            handlers := s.handlers.set i (id, task)
            started := s.started ++ (task.command.map fun c => (id, c)).toList }
  | .cancel id now, s => .ok { s with store := (cancelRaidOperation id now s.store).1 }

/-- A handler that has not ended its operation, and will: it patches no status before the last
patch, which ends the operation, and does nothing after that. -/
inductive WillEnd : HandlerTask → Prop
  | patch {patch : Nat → RaidOperationPatch} {next : HandlerTask}
      (hPatch : ∀ now, (patch now).status = none) (hNext : WillEnd next) :
      WillEnd (.update patch next)
  | last {patch : Nat → RaidOperationPatch}
      (hPatch : ∀ now, (patch now).status = some .success ∨ (patch now).status = some .failed) :
      WillEnd (.update patch .done)
  | exec {command : String} {next : Except NodeError RemoteOutput → HandlerTask}
      (hNext : ∀ result, WillEnd (next result)) : WillEnd (.exec command next)
  | collect {sanId : String} {next : Except NodeError (List String) → HandlerTask}
      (hNext : ∀ result, WillEnd (next result)) : WillEnd (.collect sanId next)

theorem willEnd_prepareCommands {next : Except NodeError String → HandlerTask}
    (hNext : ∀ result, WillEnd (next result)) (outputs : List Text) (commands : List String) :
    WillEnd (prepareCommands next outputs commands) := by
  induction commands generalizing outputs with
  | nil => exact hNext _
  | cons command commands ih =>
    refine .exec fun result => ?_
    cases result with
    | error e => exact hNext _
    | ok output =>
      show WillEnd (if _ then _ else _)
      split_ifs
      · exact hNext _
      · exact ih _

theorem willEnd_runPreparation {next : Except NodeError String → HandlerTask}
    (hNext : ∀ result, WillEnd (next result)) (writeEnabled : Bool) (commands : List String) :
    WillEnd (runPreparation writeEnabled commands next) := by
  rw [runPreparation]
  split_ifs
  · exact willEnd_prepareCommands hNext [] commands
  · exact hNext _

theorem willEnd_runStandalone (writeEnabled : Bool) (commands : List String) :
    WillEnd (runStandalone writeEnabled commands) := by
  refine .patch (fun _ => rfl) (willEnd_runPreparation (fun result => ?_) writeEnabled commands)
  cases result with
  | ok stdout => exact .last fun _ => Or.inl rfl
  | error e => exact .last fun _ => Or.inr rfl

theorem willEnd_failNode (nodes : List PreparationNode) (i : Nat) (e : NodeError) :
    WillEnd (failNode nodes i e) := .last fun _ => Or.inr rfl

theorem willEnd_prepareNodes (writeEnabled : Bool) (positions : List Nat)
    (nodes : List PreparationNode) : WillEnd (prepareNodes writeEnabled positions nodes) := by
  induction positions generalizing nodes with
  | nil => exact .last fun _ => Or.inl rfl
  | cons i rest ih =>
    refine .patch (fun _ => rfl) (.collect fun overview => ?_)
    cases overview with
    | error e => exact willEnd_failNode _ i e
    | ok commands =>
      refine willEnd_runPreparation (fun result => ?_) writeEnabled commands
      cases result with
      | error e => exact willEnd_failNode _ i e
      | ok stdout => exact .patch (fun _ => rfl) (ih _)

theorem willEnd_task (writeEnabled : Bool) (request : PreparationRequest) :
    WillEnd (request.task writeEnabled) := by
  cases request with
  | standalone sanId disks commands => exact willEnd_runStandalone writeEnabled commands
  | cluster sanId nodes => exact willEnd_prepareNodes writeEnabled _ nodes

theorem WillEnd.resume {task next : HandlerTask} {reply : OperationReply} (h : WillEnd task)
    (hNext : task.resume reply = some next) : WillEnd next := by
  cases h with
  | patch hPatch hTask => cases hNext
  | last hPatch => cases hNext
  | exec hTask =>
    cases reply with
    | output result =>
      obtain rfl := Option.some.inj hNext
      exact hTask result
    | overview result => cases hNext
  | collect hTask =>
    cases reply with
    | output result => cases hNext
    | overview result =>
      obtain rfl := Option.some.inj hNext
      exact hTask result

section

variable {store : OperationStore} {id other : String} {now : Nat}

theorem get_foldl_delete (entries : List (String × RaidOperation)) (m : OperationStore) :
    (entries.foldl (fun m e => m.delete e.1) m).get other =
      if other ∈ entries.map Prod.fst then none else m.get other := by
  induction entries generalizing m with
  | nil => rfl
  | cons e rest ih =>
    rw [List.foldl_cons, ih, List.map_cons]
    by_cases hRest : other ∈ rest.map Prod.fst
    · rw [if_pos hRest, if_pos (List.mem_cons_of_mem _ hRest)]
    · rw [if_neg hRest]
      by_cases hHead : other = e.1
      · rw [if_pos (hHead ▸ List.mem_cons_self), hHead, OrderedMap.get_delete_self]
      · rw [if_neg (by simp [hHead, hRest]), OrderedMap.get_delete_of_ne hHead]

theorem get_of_mem_oldestOperations {e : String × RaidOperation}
    (h : e ∈ oldestOperations store) : store.get e.1 = some e.2 := by
  rw [oldestOperations] at h
  split_ifs at h
  · exact OrderedMap.get_eq_some_iff.mpr (List.mem_mergeSort.mp (List.mem_of_mem_take h))
  · cases h

theorem get_addRaidOperation (op : RaidOperation) : (addRaidOperation op store).get other =
    if other ∈ (oldestOperations (store.set op.id op)).map Prod.fst then none
    else (store.set op.id op).get other := get_foldl_delete _ _

theorem get_updateRaidOperation (patch : RaidOperationPatch) :
    (updateRaidOperation id patch store).get other =
      if other = id then (store.get id).map fun op => op.patched patch else store.get other :=
  OrderedMap.get_modify _

/-- What a handler's turn does to the store: it writes to its own operation only. -/
theorem get_advance_of_ne (task : HandlerTask) (h : other ≠ id) :
    (advance id now task store).1.get other = store.get other := by
  induction task generalizing store with
  | update patch next ih =>
    show (advance id now next _).1.get other = _
    rw [ih, get_updateRaidOperation, if_neg h]
  | done => rfl
  | exec command next => rfl
  | collect sanId next => rfl

/-- An operation whose handler is not done is running, and one whose handler is done has ended,
unless it was cancelled. -/
def InStep (task : HandlerTask) (op : RaidOperation) : Prop :=
  (WillEnd task ∧ op.status = .running) ∨
    (task = .done ∧ (op.status = .success ∨ op.status = .failed)) ∨ op.status = .cancelled

theorem get_advance {task : HandlerTask} (hTask : WillEnd task) {op : RaidOperation}
    (hGet : store.get id = some op) (hRunning : op.status = .running) :
    ∃ op', (advance id now task store).1.get id = some op' ∧
      InStep (advance id now task store).2 op' := by
  induction hTask generalizing store op with
  | @patch patch next hPatch hNext ih =>
    refine @ih _ (op.patched (patch now)) ?_ ?_
    · rw [get_updateRaidOperation, if_pos rfl, hGet]
      rfl
    · rw [RaidOperation.patched, hPatch now]
      exact hRunning
  | @last patch hPatch =>
    refine ⟨op.patched (patch now), ?_, Or.inr (Or.inl ⟨rfl, ?_⟩)⟩
    · show (updateRaidOperation id (patch now) store).get id = _
      rw [get_updateRaidOperation, if_pos rfl, hGet]
      rfl
    · rcases hPatch now with hStatus | hStatus
      · exact Or.inl (by rw [RaidOperation.patched, hStatus]; rfl)
      · exact Or.inr (by rw [RaidOperation.patched, hStatus]; rfl)
  | exec hNext => exact ⟨op, hGet, Or.inl ⟨.exec hNext, hRunning⟩⟩
  | collect hNext => exact ⟨op, hGet, Or.inl ⟨.collect hNext, hRunning⟩⟩

end

def OperationSystem.ids (s : OperationSystem) : List String := s.handlers.map Prod.fst

structure OperationInv (s : OperationSystem) : Prop where
  distinct : s.ids.Nodup
  known : ∀ id op, s.store.get id = some op → id ∈ s.ids
  inStep : ∀ h ∈ s.handlers, ∀ op, s.store.get h.1 = some op → InStep h.2 op

/-- An event that evicts no operation which is planned or running, and lets no handler go on whose
operation is neither. -/
def Harmless : OperationEvent → OperationSystem → Prop
  | .prepare id request now, s =>
    ∀ e ∈ oldestOperations (s.store.set id (request.operation id now)), isOpen e.2.status = false
  | .answer i _ _, s =>
    ∀ h ∈ s.handlers[i]?, (s.store.get h.1).any (fun op => isOpen op.status) = true
  | .cancel _ _, _ => True

def isFinal (status : RaidOperationStatus) : Bool :=
  status == .success || status == .failed || status == .cancelled

def OperationSystem.commandsOf (s : OperationSystem) (id : String) : List (String × String) :=
  s.started.filter fun c => c.1 = id

/-- The operation has ended, if it is still there. -/
def OperationSystem.closed (s : OperationSystem) (id : String) : Prop :=
  id ∈ s.ids ∧ ∀ op, s.store.get id = some op → isFinal op.status = true

/-- From an earlier state to a later one: what has ended has the same status or is gone, what is
gone stays so, and no command is started for either. -/
structure OperationsKept (s s' : OperationSystem) : Prop where
  ids : s.ids ⊆ s'.ids
  gone : ∀ id ∈ s.ids, s.store.get id = none → s'.store.get id = none
  final : ∀ id op op', s.store.get id = some op → isFinal op.status = true →
    s'.store.get id = some op' → op'.status = op.status
  silent : ∀ id, s.closed id → s'.commandsOf id = s.commandsOf id

theorem OperationsKept.refl (s : OperationSystem) : OperationsKept s s where
  ids := List.Subset.refl _
  gone _ _ h := h
  final id op op' h _ h' := by
    rw [h] at h'
    rw [Option.some.inj h']
  silent _ _ := rfl

theorem OperationsKept.closed {s s' : OperationSystem} (h : OperationsKept s s') {id : String}
    (hClosed : s.closed id) : s'.closed id := by
  refine ⟨h.ids hClosed.1, fun op' hGet' => ?_⟩
  cases hGet : s.store.get id with
  | none =>
    rw [h.gone id hClosed.1 hGet] at hGet'
    cases hGet'
  | some op =>
    have hFinal := hClosed.2 op hGet
    rw [h.final id op op' hGet hFinal hGet']
    exact hFinal

theorem OperationsKept.trans {s s' s'' : OperationSystem} (hInv : OperationInv s)
    (h : OperationsKept s s') (h' : OperationsKept s' s'') : OperationsKept s s'' where
  ids := List.Subset.trans h.ids h'.ids
  gone id hId hNone := h'.gone id (h.ids hId) (h.gone id hId hNone)
  final id op op'' hGet hFinal hGet'' := by
    cases hGet' : s'.store.get id with
    | none =>
      have hNone := h'.gone id (h.ids (hInv.known id op hGet)) hGet'
      rw [hGet''] at hNone
      cases hNone
    | some op' =>
      have hSame := h.final id op op' hGet hFinal hGet'
      rw [← hSame, h'.final id op' op'' hGet' (hSame ▸ hFinal) hGet'']
  silent id hClosed := (h'.silent id (h.closed hClosed)).trans (h.silent id hClosed)

theorem commandsOf_append {s s' : OperationSystem} {id other : String} {command : Option String}
    (hStarted : s'.started = s.started ++ (command.map fun c => (id, c)).toList)
    (hNe : other ≠ id) : s'.commandsOf other = s.commandsOf other := by
  rw [OperationSystem.commandsOf, hStarted, List.filter_append]
  cases command with
  | none => simp [OperationSystem.commandsOf]
  | some c => simp [OperationSystem.commandsOf, Ne.symm hNe]

/-- An operation that is planned or running is still there. -/
def KeepsOpen (s s' : OperationSystem) : Prop :=
  ∀ id op, s.store.get id = some op → isOpen op.status = true → s'.store.get id ≠ none

section

variable {s s' : OperationSystem} {writeEnabled : Bool}

theorem InStep.willEnd {task : HandlerTask} {op : RaidOperation} (h : InStep task op)
    (hOpen : isOpen op.status) : WillEnd task ∧ op.status = .running := by
  rcases h with h | ⟨-, hEnded | hEnded⟩ | hEnded
  · exact h
  all_goals
    rw [hEnded] at hOpen
    cases hOpen

theorem not_final_of_isOpen {status : RaidOperationStatus} (hOpen : isOpen status) :
    isFinal status = false := by
  cases status with
  | planned => rfl
  | running => rfl
  | success => cases hOpen
  | warning => cases hOpen
  | failed => cases hOpen
  | cancelled => cases hOpen

section

variable {id : String} {now : Nat}

theorem get_cancelRaidOperation (store : OperationStore) (other : String) :
    (cancelRaidOperation id now store).1.get other = store.get other ∨
      (other = id ∧ ∃ op, store.get id = some op ∧ isOpen op.status = true ∧
        (cancelRaidOperation id now store).1.get id =
          some { op with status := .cancelled, finishedAt := some now }) := by
  rw [cancelRaidOperation]
  cases hGet : store.get id with
  | none => exact Or.inl rfl
  | some op =>
    dsimp only
    by_cases hOpen : isOpen op.status = true
    · rw [if_pos hOpen]
      by_cases hSame : other = id
      · exact Or.inr ⟨hSame, op, rfl, hOpen, OrderedMap.get_set_self⟩
      · exact Or.inl (OrderedMap.get_set_of_ne hSame)
    · rw [if_neg hOpen]
      exact Or.inl rfl

theorem OperationInv.cancel (h : OperationInv s)
    (hStep : s.step writeEnabled (.cancel id now) = .ok s') :
    OperationInv s' ∧ OperationsKept s s' ∧ KeepsOpen s s' := by
  obtain rfl := Except.ok.inj hStep
  have hGet : ∀ other, (cancelRaidOperation id now s.store).1.get other = s.store.get other ∨
      (other = id ∧ ∃ op, s.store.get id = some op ∧ isOpen op.status = true ∧
        (cancelRaidOperation id now s.store).1.get id =
          some { op with status := .cancelled, finishedAt := some now }) :=
    get_cancelRaidOperation s.store
  refine ⟨⟨h.distinct, ?_, ?_⟩, ⟨List.Subset.refl _, ?_, ?_, fun _ _ => rfl⟩, ?_⟩
  · intro other op hAfter
    rcases hGet other with hSame | ⟨rfl, before, hBefore, -, -⟩
    · exact h.known other op (hSame ▸ hAfter)
    · exact h.known other before hBefore
  · intro handler hHandler op hAfter
    rcases hGet handler.1 with hSame | ⟨hId, before, -, -, hCancelled⟩
    · exact h.inStep handler hHandler op (hSame ▸ hAfter)
    · refine Or.inr (Or.inr ?_)
      rw [hId] at hAfter
      rw [← Option.some.inj (hCancelled.symm.trans hAfter)]
  · intro other _ hNone
    rcases hGet other with hSame | ⟨rfl, before, hBefore, -, -⟩
    · exact hSame.trans hNone
    · rw [hNone] at hBefore
      cases hBefore
  · intro other op op' hBefore hFinal hAfter
    rcases hGet other with hSame | ⟨rfl, before, hOpened, hOpen, -⟩
    · rw [Option.some.inj (hBefore.symm.trans (hSame ▸ hAfter))]
    · rw [Option.some.inj (hBefore.symm.trans hOpened), not_final_of_isOpen hOpen] at hFinal
      cases hFinal
  · intro other op hBefore _
    rcases hGet other with hSame | ⟨rfl, before, -, -, hCancelled⟩
    · show (cancelRaidOperation id now s.store).1.get other ≠ none
      rw [hSame, hBefore]
      exact Option.some_ne_none op
    · show (cancelRaidOperation other now s.store).1.get other ≠ none
      rw [hCancelled]
      exact Option.some_ne_none _

end

section

variable {id : String} {request : PreparationRequest} {now : Nat}

theorem get_prepared_of_ne {other : String} (hNe : other ≠ id) :
    (advance id now (request.task writeEnabled)
      (addRaidOperation (request.operation id now) s.store)).1.get other =
      if other ∈ (oldestOperations (s.store.set id (request.operation id now))).map Prod.fst
      then none else s.store.get other := by
  have hId : (request.operation id now).id = id := by
    cases request with
    | standalone sanId disks commands => rfl
    | cluster sanId nodes => rfl
  rw [get_advance_of_ne _ hNe, get_addRaidOperation, hId, OrderedMap.get_set_of_ne hNe]

theorem exists_get_prepared (hHarmless : Harmless (.prepare id request now) s) :
    ∃ op, (advance id now (request.task writeEnabled)
        (addRaidOperation (request.operation id now) s.store)).1.get id = some op ∧
      InStep (advance id now (request.task writeEnabled)
        (addRaidOperation (request.operation id now) s.store)).2 op := by
  have hOp : (request.operation id now).id = id ∧
      (request.operation id now).status = .running := by
    cases request with
    | standalone sanId disks commands => exact ⟨rfl, rfl⟩
    | cluster sanId nodes => exact ⟨rfl, rfl⟩
  have hTask := willEnd_task writeEnabled request
  refine @get_advance _ _ _ _ hTask (request.operation id now) ?_ hOp.2
  rw [get_addRaidOperation, hOp.1, OrderedMap.get_set_self, if_neg]
  intro hMem
  obtain ⟨e, he, hKey⟩ := List.mem_map.mp hMem
  have hEntry := get_of_mem_oldestOperations he
  rw [hKey, OrderedMap.get_set_self] at hEntry
  have hOpen := hHarmless e he
  rw [← Option.some.inj hEntry, hOp.2] at hOpen
  cases hOpen

theorem not_open_of_evicted (hHarmless : Harmless (.prepare id request now) s) {other : String}
    (hNe : other ≠ id) {op : RaidOperation} (hGet : s.store.get other = some op)
    (hMem : other ∈ (oldestOperations (s.store.set id (request.operation id now))).map Prod.fst) :
    isOpen op.status = false := by
  obtain ⟨e, he, rfl⟩ := List.mem_map.mp hMem
  have hEntry := get_of_mem_oldestOperations he
  rw [OrderedMap.get_set_of_ne hNe, hGet] at hEntry
  rw [Option.some.inj hEntry]
  exact hHarmless e he

theorem step_prepare (hStep : s.step writeEnabled (.prepare id request now) = .ok s') :
    id ∉ s.ids ∧ s'.store = (advance id now (request.task writeEnabled)
        (addRaidOperation (request.operation id now) s.store)).1 ∧
      s'.handlers = s.handlers ++ [(id, (advance id now (request.task writeEnabled)
        (addRaidOperation (request.operation id now) s.store)).2)] ∧
      ∃ command : Option String,
        s'.started = s.started ++ (command.map fun c => (id, c)).toList := by
  dsimp only [OperationSystem.step] at hStep
  split_ifs at hStep with hOld
  obtain rfl := Except.ok.inj hStep
  exact ⟨hOld, rfl, rfl, _, rfl⟩

theorem OperationInv.prepare (h : OperationInv s)
    (hHarmless : Harmless (.prepare id request now) s)
    (hStep : s.step writeEnabled (.prepare id request now) = .ok s') :
    OperationInv s' ∧ OperationsKept s s' ∧ KeepsOpen s s' := by
  obtain ⟨hNew, hStore, hHandlers, command, hStarted⟩ := step_prepare hStep
  obtain ⟨added, hAdded, hInStep⟩ := @exists_get_prepared s writeEnabled _ _ _ hHarmless
  have hIds : s'.ids = s.ids ++ [id] := by simp [OperationSystem.ids, hHandlers]
  have hNe : ∀ other ∈ s.ids, other ≠ id := fun other hOther hSame => hNew (hSame ▸ hOther)
  have hOther : ∀ other ∈ s.ids, s'.store.get other =
      if other ∈ (oldestOperations (s.store.set id (request.operation id now))).map Prod.fst
      then none else s.store.get other := by
    intro other hMem
    rw [hStore]
    exact get_prepared_of_ne (hNe other hMem)
  have hBefore : ∀ other ∈ s.ids, ∀ op, s'.store.get other = some op →
      s.store.get other = some op := by
    intro other hMem op hGet
    rw [hOther other hMem] at hGet
    split_ifs at hGet
    exact hGet
  have hOpenKept : ∀ other op, s.store.get other = some op → isOpen op.status = true →
      s'.store.get other = some op := by
    intro other op hGet hOpen
    have hMem := h.known other op hGet
    rw [hOther other hMem, if_neg, hGet]
    intro hEvicted
    rw [not_open_of_evicted hHarmless (hNe other hMem) hGet hEvicted] at hOpen
    cases hOpen
  refine ⟨⟨?_, ?_, ?_⟩, ⟨?_, ?_, ?_, ?_⟩, ?_⟩
  · rw [hIds]
    exact h.distinct.append (List.nodup_singleton id) (by simpa using hNew)
  · intro other op hGet
    rw [hIds]
    by_cases hSame : other = id
    · simp [hSame]
    · rw [hStore, get_prepared_of_ne hSame] at hGet
      split_ifs at hGet
      exact List.mem_append_left _ (h.known other op hGet)
  · intro handler hHandler op hGet
    rw [hHandlers] at hHandler
    rcases List.mem_append.mp hHandler with hHandler | hHandler
    · exact h.inStep handler hHandler op (hBefore _ (List.mem_map_of_mem hHandler) op hGet)
    · obtain rfl := List.mem_singleton.mp hHandler
      rw [hStore, hAdded] at hGet
      rwa [← Option.some.inj hGet]
  · rw [hIds]
    exact List.subset_append_left _ _
  · intro other hMem hNone
    rw [hOther other hMem, hNone, ite_self]
  · intro other op op' hGet hFinal hGet'
    have hSame := hBefore other (h.known other op hGet) op' hGet'
    rw [hGet] at hSame
    rw [Option.some.inj hSame]
  · exact fun other hClosed => commandsOf_append hStarted (hNe other hClosed.1)
  · intro other op hGet hOpen
    rw [hOpenKept other op hGet hOpen]
    exact Option.some_ne_none op

end

section

variable {i : Nat} {reply : OperationReply} {now : Nat}

theorem step_answer (hStep : s.step writeEnabled (.answer i reply now) = .ok s') :
    ∃ id waiting next, s.handlers[i]? = some (id, waiting) ∧ waiting.resume reply = some next ∧
      s'.store = (advance id now next s.store).1 ∧
      s'.handlers = s.handlers.set i (id, (advance id now next s.store).2) ∧
      ∃ command : Option String,
        s'.started = s.started ++ (command.map fun c => (id, c)).toList := by
  dsimp only [OperationSystem.step] at hStep
  cases hAt : s.handlers[i]? with
  | none =>
    rw [hAt] at hStep
    cases hStep
  | some handler =>
    obtain ⟨id, waiting⟩ := handler
    rw [hAt] at hStep
    cases hNext : waiting.resume reply with
    | none =>
      dsimp only at hStep
      rw [hNext] at hStep
      cases hStep
    | some next =>
      dsimp only at hStep
      rw [hNext] at hStep
      obtain rfl := Except.ok.inj hStep
      exact ⟨id, waiting, next, rfl, hNext, rfl, rfl, _, rfl⟩

theorem mem_set_cases {handlers : List (String × HandlerTask)} {waiting task : HandlerTask}
    {id : String} {h : String × HandlerTask} (hDistinct : (handlers.map Prod.fst).Nodup)
    (hAt : handlers[i]? = some (id, waiting)) (hMem : h ∈ handlers.set i (id, task)) :
    h = (id, task) ∨ (h ∈ handlers ∧ h.1 ≠ id) := by
  obtain ⟨j, hj⟩ := List.mem_iff_getElem?.mp hMem
  rw [List.getElem?_set] at hj
  by_cases hSame : i = j
  · left
    rw [if_pos hSame] at hj
    split_ifs at hj
    exact (Option.some.inj hj).symm
  · right
    rw [if_neg hSame] at hj
    refine ⟨List.mem_of_getElem? hj, fun hId => hSame ?_⟩
    have hi : (handlers.map Prod.fst)[i]? = some id := by simp [hAt]
    have hj' : (handlers.map Prod.fst)[j]? = some id := by simp [hj, hId]
    obtain ⟨hLt, -⟩ := List.getElem?_eq_some_iff.mp hi
    exact (List.getElem?_inj hLt hDistinct).mp (hi.trans hj'.symm)

theorem OperationInv.answer (h : OperationInv s) (hHarmless : Harmless (.answer i reply now) s)
    (hStep : s.step writeEnabled (.answer i reply now) = .ok s') :
    OperationInv s' ∧ OperationsKept s s' ∧ KeepsOpen s s' := by
  obtain ⟨id, waiting, next, hAt, hNext, hStore, hHandlers, command, hStarted⟩ := step_answer hStep
  have hMem := List.mem_of_getElem? hAt
  obtain ⟨op, hGet, hOpen⟩ := (Option.any_eq_true _ _).mp (hHarmless _ hAt)
  obtain ⟨hTask, hRunning⟩ := (h.inStep _ hMem op hGet).willEnd hOpen
  obtain ⟨after, hAfter, hInStep⟩ := @get_advance _ _ now _ (hTask.resume hNext) _ hGet hRunning
  have hIds : s'.ids = s.ids := by
    have hPlace : s.ids[i]? = some id := by simp [OperationSystem.ids, hAt]
    obtain ⟨hLt, hId⟩ := List.getElem?_eq_some_iff.mp hPlace
    rw [OperationSystem.ids, hHandlers, List.map_set]
    show s.ids.set i id = s.ids
    rw [← hId]
    exact List.set_getElem_self hLt
  have hOwn : s'.store.get id = some after := by rw [hStore, hAfter]
  have hOther : ∀ other, other ≠ id → s'.store.get other = s.store.get other := by
    intro other hNe
    rw [hStore, get_advance_of_ne _ hNe]
  refine ⟨⟨?_, ?_, ?_⟩, ⟨?_, ?_, ?_, ?_⟩, ?_⟩
  · exact hIds ▸ h.distinct
  · intro other op' hGet'
    rw [hIds]
    by_cases hSame : other = id
    · exact hSame ▸ List.mem_map_of_mem hMem
    · exact h.known other op' (hOther other hSame ▸ hGet')
  · intro handler hHandler op' hGet'
    rw [hHandlers] at hHandler
    rcases mem_set_cases h.distinct hAt hHandler with rfl | ⟨hOld, hNe⟩
    · rw [hOwn] at hGet'
      rwa [← Option.some.inj hGet']
    · exact h.inStep handler hOld op' (hOther _ hNe ▸ hGet')
  · rw [hIds]
    exact List.Subset.refl _
  · intro other hId hNone
    by_cases hSame : other = id
    · rw [hSame, hGet] at hNone
      cases hNone
    · rw [hOther other hSame, hNone]
  · intro other op₁ op₂ hGet₁ hFinal hGet₂
    by_cases hSame : other = id
    · rw [hSame, hGet] at hGet₁
      rw [← Option.some.inj hGet₁, hRunning] at hFinal
      cases hFinal
    · rw [hOther other hSame, hGet₁] at hGet₂
      rw [Option.some.inj hGet₂]
  · intro other hClosed
    refine commandsOf_append hStarted ?_
    rintro rfl
    have hFinal := hClosed.2 op hGet
    rw [hRunning] at hFinal
    cases hFinal
  · intro other op' hGet' _
    by_cases hSame : other = id
    · rw [hSame, hOwn]
      exact Option.some_ne_none after
    · rw [hOther other hSame, hGet']
      exact Option.some_ne_none op'

end

theorem OperationInv.step (h : OperationInv s) {e : OperationEvent} (hHarmless : Harmless e s)
    (hStep : s.step writeEnabled e = .ok s') :
    OperationInv s' ∧ OperationsKept s s' ∧ KeepsOpen s s' := by
  cases e with
  | prepare id request now => exact h.prepare hHarmless hStep
  | answer i reply now => exact h.answer hHarmless hStep
  | cancel id now => exact h.cancel hStep

end

/-- A run of events that satisfy a condition where they happen. -/
abbrev OperationRun (writeEnabled : Bool) (allowed : OperationEvent → OperationSystem → Prop) :
    OperationSystem → List OperationEvent → OperationSystem → Prop :=
  Js.Run (fun e s => OperationSystem.step writeEnabled e s) allowed

/-- What is owed to every operation, between a state and a later one. -/
structure EndsOnce (s s' : OperationSystem) : Prop where
  final : ∀ id op op', s.store.get id = some op → isFinal op.status = true →
    s'.store.get id = some op' → op'.status = op.status
  silent : ∀ id op, s.store.get id = some op → op.status = .cancelled →
    s'.commandsOf id = s.commandsOf id

theorem operationInv_start : OperationInv noOperations where
  distinct := List.nodup_nil
  known _ _ h := by cases h
  inStep _ h := by cases h

section

variable {writeEnabled : Bool} {s s' : OperationSystem} {events : List OperationEvent}

theorem operationInv_run (hRun : OperationRun writeEnabled Harmless noOperations events s) :
    OperationInv s :=
  hRun.invariant (fun _ _ _ hHarmless hStep h => (h.step hHarmless hStep).1) operationInv_start

theorem OperationInv.kept (h : OperationInv s)
    (hRun : OperationRun writeEnabled Harmless s events s') : OperationsKept s s' := by
  induction hRun with
  | nil s => exact .refl s
  | cons hHarmless hStep _ ih =>
    obtain ⟨hNext, hKept, -⟩ := h.step hHarmless hStep
    exact hKept.trans h (ih hNext)

end

/-- In a run that evicts no operation which is planned or running, and in which no handler goes on
after its operation was cancelled, an operation ends once, a cancelled one starts no command, and
none is lost before its end. -/
theorem operations_end_once {writeEnabled : Bool} {events later : List OperationEvent}
    {s s' : OperationSystem} (hRun : OperationRun writeEnabled Harmless noOperations events s)
    (hLater : OperationRun writeEnabled Harmless s later s') :
    EndsOnce s s' ∧
      ∀ e s'', Harmless e s' → s'.step writeEnabled e = .ok s'' → KeepsOpen s' s'' := by
  have hInv := operationInv_run hRun
  have hKept := hInv.kept hLater
  have hInv' : OperationInv s' :=
    hLater.invariant (fun _ _ _ hHarmless hStep h => (h.step hHarmless hStep).1) hInv
  refine ⟨⟨hKept.final, fun id op hGet hCancelled => hKept.silent id ⟨hInv.known id op hGet, ?_⟩⟩,
    fun e s'' hHarmless hStep => (hInv'.step hHarmless hStep).2.2⟩
  intro op' hGet'
  rw [← Option.some.inj (hGet.symm.trans hGet'), hCancelled]
  rfl

def prepareLabel : OperationEvent :=
  .prepare "op-1" (.standalone "san-1" ["/dev/sdb"] ["parted -s /dev/sdb mklabel gpt"]) 1

def labelDone (now : Nat) : OperationEvent := .answer 0 (.output (.ok ⟨[], some 0⟩)) now

def labelRunning : OperationSystem :=
  (noOperations.step true prepareLabel).toOption.getD noOperations

theorem harmless_labelDone (now : Nat) : Harmless (labelDone now) labelRunning := by
  intro h hAt
  have hAll : (labelRunning.handlers[0]?).all
      (fun h => (labelRunning.store.get h.1).any fun op => isOpen op.status) = true := rfl
  rw [Option.mem_def.mp hAt] at hAll
  exact hAll

theorem prepareLabel_ends_once : ∃ s,
    OperationRun true Harmless noOperations [prepareLabel] labelRunning ∧
      OperationRun true Harmless labelRunning [labelDone 2] s ∧ EndsOnce labelRunning s := by
  have hStart : OperationRun true Harmless noOperations [prepareLabel] labelRunning :=
    .cons (fun e he => by cases he) rfl (.nil _)
  have hEnd : OperationRun true Harmless labelRunning [labelDone 2] _ :=
    .cons (harmless_labelDone 2) rfl (.nil _)
  exact ⟨_, hStart, hEnd, (operations_end_once hStart hEnd).1⟩

/-- An operation that was cancelled while its command ran has succeeded afterwards. -/
theorem cancelled_operation_succeeds :
    ¬ ∀ events later s s', OperationRun true (fun _ _ => True) noOperations events s →
      OperationRun true (fun _ _ => True) s later s' → EndsOnce s s' := by
  intro hLaw
  have hOnce := hLaw [prepareLabel, .cancel "op-1" 2] [labelDone 3] _ _
    (.cons trivial rfl (.cons trivial rfl (.nil _))) (.cons trivial rfl (.nil _))
  have hStatus := hOnce.final "op-1" _ _ rfl rfl rfl
  cases hStatus

end EsosWebui.Raid
