import EsosWebui.Lvm.Types
import EsosWebui.Scst.Reloads
import EsosWebui.Ssh.SessionManager

/-! A request repeated on every node of a cluster: what is told of each node, and what has become
of its file. -/
namespace EsosWebui.Scst

open Js
open Lvm (ClusterLvmNodeResult)
open Ssh

/-- A row of the `sans` table, with the node behind it: the state of its session when its turn
comes, what its file is read as, and what a change meets there. -/
structure ScstNode where
  id : String
  label : String
  readOnly : Bool := false
  clusterEnabled : Bool := true
  clusterId : Option String
  status : Option SSHStatus := some .connected
  read : Except Text Text
  delimiter : Text
  faults : ChangeFaults := {}
  file : RemoteFile

def resolveClusterNodes (clusterId : String) (sans : List ScstNode) : List ScstNode :=
  sans.filter fun n => n.clusterId == some clusterId && n.clusterEnabled

/-- `manager.getStatus() === 'connected'` -/
def ScstNode.isConnected (node : ScstNode) : Bool := node.status == some .connected

def ScstNode.refusal (node : ScstNode) : Option String :=
  if node.readOnly then some "lecture seule"
  else if node.isConnected then none
  else some "connexion SSH indisponible"

structure ScstClusterMutationResult where
  success : Bool
  nodeResults : List ClusterLvmNodeResult
  errors : List String
  refreshedSanIds : List String
  initiator : Option Text := none

/-- What the loop has gathered, with the nodes that it has attempted. -/
structure Gathered where
  nodeResults : List ClusterLvmNodeResult := []
  errors : List String := []
  refreshedSanIds : List String := []
  attempts : List (ScstNode × Changed) := []

/-- `set.add(id)` -/
def addToSet (ids : List String) (id : String) : List String :=
  if id ∈ ids then ids else ids ++ [id]

section

variable (toLowerCase : Text → Text) (path : Text) (action : String) (request : Request)

def ScstNode.attempt (node : ScstNode) : Changed :=
  request.change toLowerCase node.read path node.delimiter node.faults node.file

def labelled (node : ScstNode) (msg : String) : String :=
  let label := node.label
  s!"{label}: {msg}"

def runOnNode (gathered : Gathered) (node : ScstNode) : Gathered :=
  match node.refusal with
  | some msg =>
    { gathered with
      errors := gathered.errors ++ [labelled node msg]
      nodeResults := gathered.nodeResults ++
        [{ sanId := node.id, label := node.label, participation := .failed, error := some msg }] }
  | none =>
    let changed := node.attempt toLowerCase path request
    let attempts := gathered.attempts ++ [(node, changed)]
    match changed.answer with
    | .ok () =>
      { gathered with
        attempts
        nodeResults := gathered.nodeResults ++
          [{ sanId := node.id, label := node.label, participation := .execute
             command := some action, exitCode := some 0 }]
        refreshedSanIds := addToSet gathered.refreshedSanIds node.id }
    | .error message =>
      let msg := String.ofList message
      { gathered with
        attempts
        errors := gathered.errors ++ [labelled node msg]
        nodeResults := gathered.nodeResults ++
          [{ sanId := node.id, label := node.label, participation := .failed
             command := some action, error := some msg, stderr := some msg }] }

def gather (nodes : List ScstNode) : Gathered :=
  nodes.foldl (runOnNode toLowerCase path action request) {}

def runOnClusterNodes (clusterId : String) (sans : List ScstNode) :
    ScstClusterMutationResult × List (ScstNode × Changed) :=
  let gathered := gather toLowerCase path action request (resolveClusterNodes clusterId sans)
  let executeCount := gathered.nodeResults.countP (·.participation == .execute)
  ({ success := 0 < executeCount && gathered.errors.isEmpty &&
        gathered.nodeResults.all (·.participation == .execute)
     nodeResults := gathered.nodeResults
     errors := gathered.errors
     refreshedSanIds := gathered.refreshedSanIds },
    gathered.attempts)

end

inductive ClusterMutation where
  | clusterCreateGroup (groupName : Text)
  | clusterDeleteGroup (groupName : Text) (force : Bool)
  | clusterAddInitiator (groupName initiator : Text) (type : Option InitiatorType)
  | clusterRemoveInitiator (groupName initiator : Text)
  | clusterAddLunToGroup (groupName : Text) (lunId : Number) (deviceName : Text) (readOnly : Bool)
  | clusterRemoveLunFromGroup (groupName : Text) (lunId : Number)

namespace ClusterMutation

def initiatorOptions (type : Option InitiatorType) : ValidateInitiatorOptions where
  type := some (type.getD .auto)
  ibOneTargetPerPort := none

def action : ClusterMutation → Text
  | clusterCreateGroup groupName => "createGroup ".toList ++ groupName
  | clusterDeleteGroup groupName _ => "deleteGroup ".toList ++ groupName
  | clusterAddInitiator groupName _ _ => "addInitiator ".toList ++ groupName
  | clusterRemoveInitiator groupName _ => "removeInitiator ".toList ++ groupName
  | clusterAddLunToGroup groupName lunId _ _ =>
    "addLun ".toList ++ groupName ++ '/' :: lunId.toText
  | clusterRemoveLunFromGroup groupName lunId =>
    "removeLun ".toList ++ groupName ++ '/' :: lunId.toText

def request (targetName : Text) : ClusterMutation → Request
  | clusterCreateGroup groupName => .createGroup targetName groupName
  | clusterDeleteGroup groupName force => .deleteGroup targetName groupName force
  | clusterAddInitiator groupName initiator type =>
    .addInitiator targetName groupName initiator (initiatorOptions type)
  | clusterRemoveInitiator groupName initiator => .removeInitiator targetName groupName initiator
  | clusterAddLunToGroup groupName lunId deviceName readOnly =>
    .addLunToGroup targetName groupName lunId deviceName readOnly
  | clusterRemoveLunFromGroup groupName lunId => .removeLunFromGroup targetName groupName lunId

/-- The initiator as a node that executes has normalised it. -/
def normalized (toLowerCase : Text → Text) : ClusterMutation → Option Text
  | clusterAddInitiator _ initiator type =>
    (validateInitiatorValue toLowerCase initiator (initiatorOptions type)).toOption.map
      (·.normalized)
  | _ => none

def run (toLowerCase : Text → Text) (path : Text) (m : ClusterMutation) (clusterId : String)
    (targetName : Text) (sans : List ScstNode) :
    ScstClusterMutationResult × List (ScstNode × Changed) :=
  let (result, attempts) := runOnClusterNodes toLowerCase path (String.ofList m.action)
    (m.request targetName) clusterId sans
  ({ result with
      initiator := if result.nodeResults.any (·.participation == .execute) then
        m.normalized toLowerCase else none },
    attempts)

end ClusterMutation

structure ScstClusterError where
  statusCode : Nat
  message : String
  nodeResults : List ClusterLvmNodeResult

def assertScstClusterSuccess (result : ScstClusterMutationResult) :
    Except ScstClusterError Unit :=
  let message := join " · " result.errors
  throwIf (result.success = false)
    { statusCode := if result.nodeResults.any (·.participation == .execute) then 409 else 422
      message := if message = "" then "Mutation SCST cluster échouée" else message
      nodeResults := result.nodeResults }

section

variable {toLowerCase : Text → Text} {path : Text} {action : String} {request : Request}

/-- The mutator has returned on a node. -/
def ScstNode.Executes (node : ScstNode) (toLowerCase : Text → Text) (path : Text)
    (request : Request) : Prop :=
  node.refusal = none ∧ (node.attempt toLowerCase path request).answer.isOk = true

def ScstNode.fileAfter (node : ScstNode) (toLowerCase : Text → Text) (path : Text)
    (request : Request) : RemoteFile :=
  if node.refusal = none then (node.attempt toLowerCase path request).file else node.file

/-- The entry of a node says whether the mutator has returned on it. -/
structure Tells (toLowerCase : Text → Text) (path : Text) (request : Request) (node : ScstNode)
    (entry : ClusterLvmNodeResult) : Prop where
  sanId : entry.sanId = node.id
  label : entry.label = node.label
  execute : entry.participation = .execute ↔ node.Executes toLowerCase path request
  failed : entry.participation = .failed ↔ ¬ node.Executes toLowerCase path request

structure GatheredFrom (toLowerCase : Text → Text) (path : Text) (request : Request)
    (nodes : List ScstNode) (gathered : Gathered) : Prop where
  entries : List.Forall₂ (Tells toLowerCase path request) nodes gathered.nodeResults
  attempts : gathered.attempts = (nodes.filter (·.refusal = none)).map fun node =>
    (node, node.attempt toLowerCase path request)
  errors : gathered.errors = [] ↔ ∀ node ∈ nodes, node.Executes toLowerCase path request

theorem executes_iff {node : ScstNode} (h : node.refusal = none) :
    node.Executes toLowerCase path request ↔
      (node.attempt toLowerCase path request).answer.isOk = true :=
  and_iff_right h

theorem GatheredFrom.runOnNode {nodes : List ScstNode} {gathered : Gathered}
    (h : GatheredFrom toLowerCase path request nodes gathered) (node : ScstNode) :
    GatheredFrom toLowerCase path request (nodes ++ [node])
      (runOnNode toLowerCase path action request gathered node) := by
  unfold Scst.runOnNode
  cases hRefusal : node.refusal with
  | some msg =>
    have hNot : ¬ node.Executes toLowerCase path request := fun hExecutes => by
      cases hRefusal.symm.trans hExecutes.1
    constructor
    · exact List.rel_append h.entries (.cons ⟨rfl, rfl, by simp [hNot], by simp [hNot]⟩ .nil)
    · simp [h.attempts, hRefusal]
    · simp [hNot]
  | none =>
    dsimp only
    cases hAnswer : (node.attempt toLowerCase path request).answer with
    | ok u =>
      have hExecutes : node.Executes toLowerCase path request :=
        (executes_iff hRefusal).mpr (by rw [hAnswer]; rfl)
      constructor
      · exact List.rel_append h.entries
          (.cons ⟨rfl, rfl, by simp [hExecutes], by simp [hExecutes]⟩ .nil)
      · simp [h.attempts, hRefusal]
      · simp only [List.forall_mem_append, List.forall_mem_singleton]
        simp [h.errors, hExecutes]
    | error message =>
      have hNot : ¬ node.Executes toLowerCase path request := by
        rw [executes_iff hRefusal, hAnswer]
        exact Bool.false_ne_true
      constructor
      · exact List.rel_append h.entries (.cons ⟨rfl, rfl, by simp [hNot], by simp [hNot]⟩ .nil)
      · simp [h.attempts, hRefusal]
      · simp [hNot]

theorem gatheredFrom_foldl {done nodes : List ScstNode} {gathered : Gathered}
    (h : GatheredFrom toLowerCase path request done gathered) :
    GatheredFrom toLowerCase path request (done ++ nodes)
      (nodes.foldl (runOnNode toLowerCase path action request) gathered) := by
  induction nodes generalizing done gathered with
  | nil => simpa using h
  | cons node nodes ih =>
    rw [List.append_cons, List.foldl_cons]
    exact ih (h.runOnNode node)

theorem gatheredFrom_gather (nodes : List ScstNode) :
    GatheredFrom toLowerCase path request nodes
      (gather toLowerCase path action request nodes) := by
  have hStart : GatheredFrom toLowerCase path request [] {} := ⟨.nil, rfl, by simp⟩
  exact gatheredFrom_foldl hStart

/-- What a mutation of a cluster tells: of each enabled node, in order. -/
structure TruthTold (toLowerCase : Text → Text) (path : Text) (request : Request)
    (nodes : List ScstNode) (result : ScstClusterMutationResult)
    (attempts : List (ScstNode × Changed)) : Prop where
  attempts : attempts = (nodes.filter (·.refusal = none)).map fun node =>
    (node, node.attempt toLowerCase path request)
  entries : List.Forall₂ (Tells toLowerCase path request) nodes result.nodeResults
  unchanged : List.Forall₂ (fun node entry => entry.participation = .failed →
    (node.fileAfter toLowerCase path request).target = node.file.target) nodes result.nodeResults
  success : result.success = true ↔
    nodes ≠ [] ∧ ∀ entry ∈ result.nodeResults, entry.participation = .execute

theorem forall_execute_iff {nodes : List ScstNode} {entries : List ClusterLvmNodeResult}
    (h : List.Forall₂ (Tells toLowerCase path request) nodes entries) :
    (∀ entry ∈ entries, entry.participation = .execute) ↔
      ∀ node ∈ nodes, node.Executes toLowerCase path request := by
  induction h with
  | nil => simp
  | cons hTells _ ih => rw [List.forall_mem_cons, List.forall_mem_cons, hTells.execute, ih]

theorem success_runOnClusterNodes {clusterId : String} {sans : List ScstNode} :
    (runOnClusterNodes toLowerCase path action request clusterId sans).1.success = true ↔
      resolveClusterNodes clusterId sans ≠ [] ∧
        ∀ entry ∈ (runOnClusterNodes toLowerCase path action request clusterId sans).1.nodeResults,
          entry.participation = .execute := by
  have hGathered := @gatheredFrom_gather toLowerCase path action request
    (resolveClusterNodes clusterId sans)
  have hLength := hGathered.entries.length_eq
  unfold runOnClusterNodes
  dsimp only
  rw [Bool.and_eq_true, Bool.and_eq_true, decide_eq_true_eq, List.isEmpty_iff, hGathered.errors,
    ← forall_execute_iff hGathered.entries, List.all_eq_true]
  simp only [beq_iff_eq]
  constructor
  · rintro ⟨⟨hCount, -⟩, hAll⟩
    refine ⟨fun hNone => ?_, hAll⟩
    rw [hNone] at hCount
    exact Nat.lt_irrefl 0 hCount
  · rintro ⟨hNonempty, hAll⟩
    refine ⟨⟨?_, hAll⟩, hAll⟩
    rw [List.countP_eq_length.mpr (by simpa using hAll), ← hLength]
    exact List.length_pos_of_ne_nil hNonempty

/-- The route of a mutation answers with a result if there is a node and all have executed. -/
theorem assertScstClusterSuccess_eq_ok {clusterId : String} {sans : List ScstNode} :
    assertScstClusterSuccess
        (runOnClusterNodes toLowerCase path action request clusterId sans).1 = .ok () ↔
      resolveClusterNodes clusterId sans ≠ [] ∧
        ∀ node ∈ resolveClusterNodes clusterId sans, node.Executes toLowerCase path request := by
  have hGathered := @gatheredFrom_gather toLowerCase path action request
    (resolveClusterNodes clusterId sans)
  rw [assertScstClusterSuccess, throwIf_eq_ok, Bool.not_eq_false, success_runOnClusterNodes,
    ← forall_execute_iff hGathered.entries]
  rfl

/-- A mutator that throws has left the file alone, on a node where it is attempted. -/
def ScstNode.Undoes (node : ScstNode) (toLowerCase : Text → Text) (request : Request) : Prop :=
  ∀ content, (node.read >>= request.run toLowerCase) = .ok content →
    contains (contentToBase64 content) node.delimiter = true ∨
      (node.faults.write.returns true content node.file node.faults.writeClosing = true ∧
        node.faults.reloadClosing.isRejected = false) ∨
      Leaves node.file (node.faults.write.moved true content node.file)

theorem undoes_iff {node : ScstNode} (h : node.refusal = none) :
    (¬ node.Executes toLowerCase path request →
        (node.fileAfter toLowerCase path request).target = node.file.target) ↔
      node.Undoes toLowerCase request := by
  rw [executes_iff h, ScstNode.fileAfter, if_pos h, ScstNode.attempt, Request.change,
    ScstNode.Undoes]
  cases hRead : node.read >>= request.run toLowerCase with
  | error message => simp
  | ok content =>
    dsimp only
    rw [writeAndReloadScst_undone]
    simp

theorem unchanged_iff {node : ScstNode} :
    (¬ node.Executes toLowerCase path request →
        (node.fileAfter toLowerCase path request).target = node.file.target) ↔
      (node.refusal = none → node.Undoes toLowerCase request) := by
  by_cases hRefusal : node.refusal = none
  · rw [undoes_iff hRefusal]
    simp [hRefusal]
  · rw [ScstNode.fileAfter, if_neg hRefusal]
    simp [hRefusal]

theorem forall_unchanged_iff {nodes : List ScstNode} {entries : List ClusterLvmNodeResult}
    (h : List.Forall₂ (Tells toLowerCase path request) nodes entries) :
    List.Forall₂ (fun node entry => entry.participation = .failed →
        (node.fileAfter toLowerCase path request).target = node.file.target) nodes entries ↔
      ∀ node ∈ nodes, node.refusal = none → node.Undoes toLowerCase request := by
  induction h with
  | nil => simp
  | cons hTells _ ih =>
    rw [List.forall₂_cons, List.forall_mem_cons, ih, hTells.failed, unchanged_iff]

end

/-- Each entry tells the truth, except about the file of a node on which the write or the reload
is not answered once the file was replaced. -/
theorem cluster_mutation_tells_iff (toLowerCase : Text → Text) (path : Text) (m : ClusterMutation)
    (clusterId : String) (targetName : Text) (sans : List ScstNode) :
    TruthTold toLowerCase path (m.request targetName) (resolveClusterNodes clusterId sans)
        (m.run toLowerCase path clusterId targetName sans).1
        (m.run toLowerCase path clusterId targetName sans).2 ↔
      ∀ node ∈ resolveClusterNodes clusterId sans, node.refusal = none →
        node.Undoes toLowerCase (m.request targetName) := by
  have hGathered := @gatheredFrom_gather toLowerCase path (String.ofList m.action)
    (m.request targetName) (resolveClusterNodes clusterId sans)
  rw [← forall_unchanged_iff hGathered.entries]
  constructor
  · intro hTold
    exact hTold.unchanged
  · intro hUnchanged
    exact ⟨hGathered.attempts, hGathered.entries, hUnchanged, success_runOnClusterNodes⟩

def timedOutNode : ScstNode where
  id := "san-a"
  label := "SAN A"
  clusterId := some "cluster-1"
  read := .ok firstTargetConf
  delimiter := "ESOS_B64_00".toList
  faults := { reloadClosing := .rejected "SSH exec timeout (60000ms)".toList }
  file := { target := some (utf8 firstTargetConf) }

def firstGroupConf : Text :=
  "TARGET_DRIVER iscsi \x7b\n\tTARGET iqn.2024-01.org.esos:t1 \x7b\n".toList ++
    "\t\tGROUP hosts \x7b\n\t\t\x7d\n\t\x7d\n\x7d\n".toList

def createHosts : ClusterMutation := .clusterCreateGroup "hosts".toList

def firstTarget : Text := "iqn.2024-01.org.esos:t1".toList

theorem createHosts_run :
    (createHosts.request firstTarget).run id firstTargetConf = .ok firstGroupConf := by
  decide +kernel

/-- The node is said to have failed, and has the group in its file. -/
theorem failed_node_changed :
    let changed := createHosts.run id "/etc/scst.conf".toList "cluster-1" firstTarget [timedOutNode]
    ¬ TruthTold id "/etc/scst.conf".toList (createHosts.request firstTarget)
      (resolveClusterNodes "cluster-1" [timedOutNode]) changed.1 changed.2 := by
  intro changed hTold
  have hNode : timedOutNode ∈ resolveClusterNodes "cluster-1" [timedOutNode] :=
    List.mem_filter.mpr ⟨List.mem_singleton.mpr rfl, by decide⟩
  have hUndoes := (forall_unchanged_iff hTold.entries).mp hTold.unchanged timedOutNode hNode rfl
  rcases hUndoes firstGroupConf createHosts_run with hCollides | ⟨-, hAnswered⟩ | hLeaves
  · revert hCollides
    decide +kernel
  · cases hAnswered
  · have hSame : some (utf8 firstGroupConf) = some (utf8 firstTargetConf) := hLeaves
    revert hSame
    decide +kernel

end EsosWebui.Scst
