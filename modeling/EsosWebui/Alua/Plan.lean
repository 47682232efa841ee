import EsosWebui.Js.Strings
import EsosWebui.Js.Throw
import EsosWebui.Raid.Types
import EsosWebui.Scst.Parser
import Mathlib.Data.List.Sort

/-! Plans that give the two nodes of a cluster matching device groups, and the cluster's
members. -/
namespace EsosWebui.Alua

open Js
open Raid (HttpError)
open Scst (AluaDeviceGroupConfig)

structure AluaNodePlan where
  nodeId : String
  hostname : String
  deviceGroup : AluaDeviceGroupConfig
  scstConfBefore : Text
  scstConfAfter : Text
  deriving DecidableEq

structure AluaClusterPlan where
  clusterId : String
  primaryNodeId : String
  peerNodeId : String
  nodes : List AluaNodePlan
  deriving DecidableEq

/-- `plan.nodes.find(n => n.nodeId === nodeId)` -/
def AluaClusterPlan.nodePlan? (plan : AluaClusterPlan) (nodeId : String) : Option AluaNodePlan :=
  plan.nodes.find? (·.nodeId == nodeId)

/-- A row of the `sans` table. -/
structure ClusterSanMember where
  id : String
  label : String
  readOnly : Bool := false
  clusterEnabled : Bool := true
  clusterId : Option String

def resolveClusterMembers (sans : List ClusterSanMember) (clusterId : String) :
    Except HttpError (List ClusterSanMember) :=
  if clusterId = "" then .error ⟨400, "clusterId ou nodeIds requis"⟩
  else .ok (sans.filter (·.clusterId == some clusterId))

def resolveClusterEnabledNodes (sans : List ClusterSanMember) (clusterId : String) :
    List ClusterSanMember :=
  sans.filter fun n => n.clusterId == some clusterId && n.clusterEnabled

open Scst (ScstConfig serializeScstConfig)

/-- `[...].sort(compareByLocale)`, which reorders. -/
class LocaleSort where
  sort : List Text → List Text
  sort_perm : ∀ l, (sort l).Perm l

abbrev asciiSort : LocaleSort where
  sort := List.insertionSort fun a b => decide (String.ofList a ≤ String.ofList b)
  sort_perm := List.perm_insertionSort _

inductive AluaWizardMode where
  | create
  | replace
  deriving DecidableEq

inductive AluaWizardTargetRole where
  | isLocal
  | isRemote
  deriving DecidableEq

structure AluaWizardAssignment where
  nodeId : String
  targetName : Text
  role : AluaWizardTargetRole

/-- `targetGroupNames` and `groupIdsOnPrimary` are given by their `local` and `remote` parts. -/
structure AluaWizardRequest where
  clusterId : String
  primaryNodeId : Option String := none
  deviceGroupName : Text
  deviceNames : List Text
  localGroupName : Text
  remoteGroupName : Text
  localIdOnPrimary : Number
  remoteIdOnPrimary : Number
  assignments : List AluaWizardAssignment
  mode : AluaWizardMode

structure NodePlanInput where
  nodeId : String
  hostname : String
  config : ScstConfig

def resolvePrimaryAndPeer (nodes : List NodePlanInput) (primaryNodeId : Option String) :
    Except HttpError (NodePlanInput × NodePlanInput) := do
  throwIf (nodes.length ≠ 2) ⟨400, "Exactement deux nœuds requis pour le plan ALUA"⟩
  let primary ← orThrow ⟨400, "primaryNodeId invalide"⟩
    (if isSet primaryNodeId then nodes.find? (some ·.nodeId == primaryNodeId) else nodes.head?)
  let peer ← orThrow ⟨400, "Nœud pair introuvable"⟩
    (nodes.find? (·.nodeId != primary.nodeId))
  return (primary, peer)

def assignedTargets (assignments : List AluaWizardAssignment) (nodeId : String) : List Text :=
  (assignments.filter fun a => a.nodeId == nodeId && a.role == .isLocal).map (·.targetName)

section

variable [LocaleSort]

def buildDeviceGroupForNode (req : AluaWizardRequest) (nodeId peerId : String)
    (isPrimary : Bool) : AluaDeviceGroupConfig :=
  let uniq (targets : List Text) : List Text := LocaleSort.sort (unique targets)
  { name := req.deviceGroupName
    devices := LocaleSort.sort req.deviceNames
    targetGroups :=
      [{ name := req.localGroupName
         groupId := if isPrimary then req.localIdOnPrimary else req.remoteIdOnPrimary
         targets := uniq (assignedTargets req.assignments nodeId) },
        { name := req.remoteGroupName
          groupId := if isPrimary then req.remoteIdOnPrimary else req.localIdOnPrimary
          targets := uniq (assignedTargets req.assignments peerId) }] }

end

def systemDrivers : List Text := ["copy_manager".toList]

def isSystemDriver (name : Text) : Bool := systemDrivers.contains name

def targetExistsOnConfig (config : ScstConfig) (targetName : Text) : Bool :=
  config.drivers.any fun d =>
    !isSystemDriver d.name && d.targets.any fun t => t.name == targetName

/-- A plain error counts as a status of 500. -/
def upsertDeviceGroup (config : ScstConfig) (dg : AluaDeviceGroupConfig) (mode : AluaWizardMode) :
    Except HttpError ScstConfig :=
  match config.deviceGroups.findIdx? (·.name == dg.name) with
  | none => .ok { config with deviceGroups := config.deviceGroups ++ [dg] }
  | some i =>
    let name := String.ofList dg.name
    if mode ≠ .replace then
      .error ⟨500, s!"DEVICE_GROUP \"{name}\" existe " ++
        "d\u00c3\u0192\u00c2\u00a9j\u00c3\u0192\u00c2\u00a0"⟩
    else .ok { config with deviceGroups := config.deviceGroups.set i dg }

variable [LocaleSort]

def requireTargets (config : ScstConfig) (hostname : String) (dg : AluaDeviceGroupConfig) :
    Except HttpError Unit :=
  match (dg.targetGroups.flatMap (·.targets)).find? (!targetExistsOnConfig config ·) with
  | some target =>
    let name := String.ofList target
    .error ⟨400, s!"Cible {name} absente de scst.conf sur {hostname}"⟩
  | none => .ok ()

def buildNodePlan (input : NodePlanInput) (req : AluaWizardRequest) (peerId : String)
    (isPrimary : Bool) : Except HttpError AluaNodePlan := do
  let dg := buildDeviceGroupForNode req input.nodeId peerId isPrimary
  requireTargets input.config input.hostname dg
  let after ← upsertDeviceGroup input.config dg req.mode
  return {
    nodeId := input.nodeId
    hostname := input.hostname
    deviceGroup := dg
    scstConfBefore := serializeScstConfig input.config
    scstConfAfter := serializeScstConfig after }

def buildAluaClusterPlan (req : AluaWizardRequest) (nodes : List NodePlanInput) :
    Except HttpError AluaClusterPlan := do
  let (primary, peer) ← resolvePrimaryAndPeer nodes req.primaryNodeId
  let primaryPlan ← buildNodePlan primary req peer.nodeId true
  let peerPlan ← buildNodePlan peer req primary.nodeId false
  return {
    clusterId := req.clusterId
    primaryNodeId := primary.nodeId
    peerNodeId := peer.nodeId
    nodes := [primaryPlan, peerPlan] }

end EsosWebui.Alua

namespace EsosWebui.Alua

open Js
open Raid (HttpError)

/-- What happens on the nodes. -/
inductive ApplyEvent where
  | wrote (nodeId : String) (content : Text)
  | reloaded (nodeId : String)
  deriving DecidableEq

def ApplyEvent.nodeId : ApplyEvent → String
  | wrote nodeId _ => nodeId
  | reloaded nodeId => nodeId

/-- How a node answers when it is its turn: whether its session is connected, and what the
atomic write and the reload come to, with the text of the error. -/
structure NodeAnswers where
  connected : Bool := true
  write : Except String Unit := .ok ()
  reload : Except String Unit := .ok ()

def writeAndReloadScst (nodeId : String) (content : Text) (answers : NodeAnswers) :
    List ApplyEvent × Except String Unit :=
  match answers.write, answers.reload with
  | .error message, _ => ([], .error message)
  | .ok (), .error message => ([.wrote nodeId content], .error message)
  | .ok (), .ok () => ([.wrote nodeId content, .reloaded nodeId], .ok ())

structure AluaClusterApplyNodeResult where
  nodeId : String
  hostname : String
  ok : Bool
  error : Option String := none
  deriving DecidableEq

/-- What a run over nodes leaves behind. -/
structure ApplyTrace where
  events : List ApplyEvent := []
  nodeResults : List AluaClusterApplyNodeResult := []
  errors : List String := []

def applyNodes (plan : AluaClusterPlan) (members : List ClusterSanMember)
    (answers : Nat → NodeAnswers) : List (String × Nat) → ApplyTrace
  | [] => {}
  | (nodeId, position) :: order =>
    match plan.nodePlan? nodeId, members.find? (·.id == nodeId) with
    | some nodePlan, some member =>
      let label := member.label
      if !(answers position).connected then
        let err := s!"{label}: SSH non disponible"
        { nodeResults := [⟨nodeId, nodePlan.hostname, false, some err⟩], errors := [err] }
      else
        match writeAndReloadScst nodeId nodePlan.scstConfAfter (answers position) with
        | (events, .ok ()) =>
          let rest := applyNodes plan members answers order
          { events := events ++ rest.events
            nodeResults := ⟨nodeId, nodePlan.hostname, true, none⟩ :: rest.nodeResults
            errors := rest.errors }
        | (events, .error msg) =>
          { events
            nodeResults := [⟨nodeId, nodePlan.hostname, false, some msg⟩]
            errors := [s!"{label}: {msg}"] }
    | _, _ => applyNodes plan members answers order

def aluaConfirmationPhrase : String := "CONFIGURE ALUA"

def assertClusterNodesWritable (sans : List ClusterSanMember) (clusterId : String) :
    Except HttpError Unit :=
  throwIf ((resolveClusterEnabledNodes sans clusterId).any (·.readOnly) = true)
    ⟨403, "SAN is read-only"⟩

def membersToApply (sans : List ClusterSanMember) (plan : AluaClusterPlan)
    (confirmation : String) : Except HttpError (List ClusterSanMember) := do
  throwIf (trimString confirmation ≠ aluaConfirmationPhrase)
    ⟨400, "Phrase de confirmation incorrecte"⟩
  let members ← resolveClusterMembers sans plan.clusterId
  throwIf (members.length ≠ 2) ⟨400, "Application ALUA limitée aux clusters à deux nœuds"⟩
  assertClusterNodesWritable sans plan.clusterId
  return members

def AluaClusterPlan.order (plan : AluaClusterPlan) : List String :=
  [plan.peerNodeId, plan.primaryNodeId]

structure AluaClusterApplyResult where
  ok : Bool
  nodeResults : List AluaClusterApplyNodeResult
  errors : List String
  deriving DecidableEq

def ApplyTrace.result (trace : ApplyTrace) : AluaClusterApplyResult :=
  { ok := trace.errors.length == 0 && trace.nodeResults.all (·.ok)
    nodeResults := trace.nodeResults
    errors := trace.errors }

/-- An application: what it did on the nodes and what it returns. -/
structure ApplyRun where
  events : List ApplyEvent
  outcome : Except HttpError AluaClusterApplyResult
  deriving DecidableEq

def applyAluaClusterPlan (sans : List ClusterSanMember) (plan : AluaClusterPlan)
    (confirmation : String) (answers : Nat → NodeAnswers) : ApplyRun :=
  match membersToApply sans plan confirmation with
  | .error error => ⟨[], .error error⟩
  | .ok members =>
    let trace := applyNodes plan members answers plan.order.zipIdx
    ⟨trace.events, .ok trace.result⟩

/-- The planned file of a node is written to that node, and the node reloads it. -/
def Applied (plan : AluaClusterPlan) (events : List ApplyEvent) (nodeId : String) : Prop :=
  ∃ nodePlan, plan.nodePlan? nodeId = some nodePlan ∧
    .wrote nodeId nodePlan.scstConfAfter ∈ events ∧ .reloaded nodeId ∈ events

/-- Success means the whole cluster, the entries say which nodes are written and reloaded, and
the first failure is the end. -/
structure ReportsApplied (plan : AluaClusterPlan) (run : ApplyRun) : Prop where
  ok : ∀ result, run.outcome = .ok result → result.ok = true →
    ∀ nodeId ∈ plan.order, Applied plan run.events nodeId
  entries : ∀ result, run.outcome = .ok result → ∀ nodeId,
    (∃ entry ∈ result.nodeResults, entry.nodeId = nodeId ∧ entry.ok = true) ↔
      Applied plan run.events nodeId
  stops : ∀ result before entry after, run.outcome = .ok result →
    result.nodeResults = before ++ entry :: after → entry.ok = false →
    after = [] ∧ ∀ event ∈ run.events,
      event.nodeId = entry.nodeId ∨ event.nodeId ∈ before.map (·.nodeId)
  thrown : ∀ error, run.outcome = .error error → run.events = []

/-- A node of the order that is not passed over. -/
def HasTurn (plan : AluaClusterPlan) (members : List ClusterSanMember) (nodeId : String) : Prop :=
  (plan.nodePlan? nodeId).isSome = true ∧ nodeId ∈ members.map (·.id)

instance (plan : AluaClusterPlan) (members : List ClusterSanMember) (nodeId : String) :
    Decidable (HasTurn plan members nodeId) :=
  inferInstanceAs (Decidable (_ ∧ _))

def NodeAnswers.Succeed (answers : NodeAnswers) : Prop :=
  answers.connected = true ∧ answers.write = .ok () ∧ answers.reload = .ok ()

section

variable {plan : AluaClusterPlan} {members : List ClusterSanMember} {answers : Nat → NodeAnswers}

/-- What a turn comes to: the node is passed over, or succeeds, or ends the run. -/
inductive Turn (plan : AluaClusterPlan) (members : List ClusterSanMember)
    (answers : Nat → NodeAnswers) (nodeId : String) (position : Nat)
    (order : List (String × Nat)) : ApplyTrace → Prop where
  | passed (h : ¬ HasTurn plan members nodeId) :
      Turn plan members answers nodeId position order (applyNodes plan members answers order)
  | succeeded (nodePlan : AluaNodePlan) (hPlan : plan.nodePlan? nodeId = some nodePlan)
      (hTurn : HasTurn plan members nodeId) (h : (answers position).Succeed) :
      Turn plan members answers nodeId position order
        { events := [.wrote nodeId nodePlan.scstConfAfter, .reloaded nodeId] ++
            (applyNodes plan members answers order).events
          nodeResults := ⟨nodeId, nodePlan.hostname, true, none⟩ ::
            (applyNodes plan members answers order).nodeResults
          errors := (applyNodes plan members answers order).errors }
  | failed (events : List ApplyEvent) (hostname message error : String)
      (hTurn : HasTurn plan members nodeId) (h : ¬ (answers position).Succeed)
      (hEvents : ∀ event ∈ events, ∃ content, event = .wrote nodeId content) :
      Turn plan members answers nodeId position order
        { events, nodeResults := [⟨nodeId, hostname, false, some message⟩], errors := [error] }

variable (plan members answers) in
theorem turn_applyNodes (nodeId : String) (position : Nat) (order : List (String × Nat)) :
    Turn plan members answers nodeId position order
      (applyNodes plan members answers ((nodeId, position) :: order)) := by
  rw [applyNodes]
  split
  · rename_i nodePlan member hPlan hMember
    have hTurn : HasTurn plan members nodeId := by
      refine ⟨by simp [hPlan], List.mem_map.mpr ⟨member, List.mem_of_find?_eq_some hMember, ?_⟩⟩
      simpa using List.find?_some hMember
    dsimp only
    split
    · rename_i hDown
      refine .failed [] _ _ _ hTurn ?_ nofun
      rintro ⟨hUp, -⟩
      simp [hUp] at hDown
    · rename_i hUp
      unfold writeAndReloadScst
      cases hWrite : (answers position).write with
      | error message =>
        refine .failed [] _ _ _ hTurn ?_ nofun
        rintro ⟨-, hOk, -⟩
        rw [hWrite] at hOk
        cases hOk
      | ok u =>
        cases hReload : (answers position).reload with
        | error message =>
          refine .failed _ _ _ _ hTurn ?_ (by simp)
          rintro ⟨-, -, hOk⟩
          rw [hReload] at hOk
          cases hOk
        | ok v =>
          exact .succeeded nodePlan hPlan hTurn ⟨by simpa using hUp, hWrite, hReload⟩
  · rename_i hNone
    apply Turn.passed
    rintro ⟨hPlan, hMember⟩
    obtain ⟨nodePlan, hPlan⟩ := Option.isSome_iff_exists.mp hPlan
    obtain ⟨member, hIn, hId⟩ := List.mem_map.mp hMember
    have hFound : (members.find? (·.id == nodeId)).isSome = true :=
      List.find?_isSome.mpr ⟨member, hIn, by simpa using hId⟩
    obtain ⟨found, hFound⟩ := Option.isSome_iff_exists.mp hFound
    exact hNone nodePlan found hPlan hFound

variable (plan members answers) in
theorem reloaded_iff (order : List (String × Nat)) (nodeId : String) :
    ((∃ entry ∈ (applyNodes plan members answers order).nodeResults,
        entry.nodeId = nodeId ∧ entry.ok = true) ↔
      .reloaded nodeId ∈ (applyNodes plan members answers order).events) ∧
    (.reloaded nodeId ∈ (applyNodes plan members answers order).events →
      Applied plan (applyNodes plan members answers order).events nodeId) := by
  induction order with
  | nil => simp [applyNodes]
  | cons node order ih =>
    obtain ⟨hEntries, hApplied⟩ := ih
    have hTurn := turn_applyNodes plan members answers node.1 node.2 order
    generalize applyNodes plan members answers ((node.1, node.2) :: order) = trace at hTurn ⊢
    cases hTurn with
    | passed h => exact ⟨hEntries, hApplied⟩
    | succeeded nodePlan hPlan hTurn h =>
      constructor
      · simp only [List.exists_mem_cons_iff, hEntries]
        simp [eq_comm]
      · intro hReloaded
        have hRest : .reloaded nodeId ∈ (applyNodes plan members answers order).events ∨
            nodeId = node.1 := by
          simpa [or_comm] using hReloaded
        rcases hRest with hLater | rfl
        · obtain ⟨other, hOther, hWrote, hDone⟩ := hApplied hLater
          exact ⟨other, hOther, List.mem_append_right _ hWrote, List.mem_append_right _ hDone⟩
        · exact ⟨nodePlan, hPlan, by simp, by simp⟩
    | failed events hostname message error hTurn h hEvents =>
      have hNone : .reloaded nodeId ∉ events := fun hIn => by
        obtain ⟨content, hIs⟩ := hEvents _ hIn
        cases hIs
      exact ⟨by simp [hNone], fun hIn => absurd hIn hNone⟩

theorem entries_iff_applied (order : List (String × Nat)) (nodeId : String) :
    (∃ entry ∈ (applyNodes plan members answers order).nodeResults,
        entry.nodeId = nodeId ∧ entry.ok = true) ↔
      Applied plan (applyNodes plan members answers order).events nodeId := by
  obtain ⟨hEntries, hApplied⟩ := reloaded_iff plan members answers order nodeId
  exact hEntries.trans ⟨hApplied, fun ⟨_, _, _, hReloaded⟩ => hReloaded⟩

theorem stops_at_failure (order : List (String × Nat))
    {before after : List AluaClusterApplyNodeResult} {entry : AluaClusterApplyNodeResult}
    (hSplit : (applyNodes plan members answers order).nodeResults = before ++ entry :: after)
    (hFailed : entry.ok = false) :
    after = [] ∧ ∀ event ∈ (applyNodes plan members answers order).events,
      event.nodeId = entry.nodeId ∨ event.nodeId ∈ before.map (·.nodeId) := by
  induction order generalizing before with
  | nil => simp [applyNodes] at hSplit
  | cons node order ih =>
    have hTurn := turn_applyNodes plan members answers node.1 node.2 order
    generalize applyNodes plan members answers ((node.1, node.2) :: order) = trace
      at hTurn hSplit ⊢
    cases hTurn with
    | passed h => exact ih hSplit
    | succeeded nodePlan hPlan hTurn h =>
      cases before with
      | nil =>
        obtain ⟨rfl, -⟩ := List.cons.inj hSplit
        cases hFailed
      | cons first before =>
        obtain ⟨rfl, hRest⟩ := List.cons.inj hSplit
        obtain ⟨hLast, hEvents⟩ := ih hRest
        refine ⟨hLast, fun event hEvent => ?_⟩
        rcases List.mem_append.mp hEvent with hHere | hLater
        · right
          rw [List.map_cons]
          have hNode : event.nodeId = node.1 := by
            rcases List.mem_pair.mp hHere with rfl | rfl <;> rfl
          exact hNode ▸ List.mem_cons_self
        · exact (hEvents event hLater).imp_right (List.mem_cons_of_mem _)
    | failed events hostname message error hTurn h hEvents =>
      cases before with
      | nil =>
        obtain ⟨rfl, rfl⟩ := List.cons.inj hSplit
        refine ⟨rfl, fun event hEvent => Or.inl ?_⟩
        obtain ⟨content, rfl⟩ := hEvents event hEvent
        rfl
      | cons first before => simp at hSplit

theorem result_ok_iff (order : List (String × Nat)) :
    (applyNodes plan members answers order).result.ok = true ↔
      ∀ node ∈ order, HasTurn plan members node.1 → (answers node.2).Succeed := by
  induction order with
  | nil => simp [applyNodes, ApplyTrace.result]
  | cons node order ih =>
    have hTurn := turn_applyNodes plan members answers node.1 node.2 order
    rw [List.forall_mem_cons, ← ih]
    generalize applyNodes plan members answers ((node.1, node.2) :: order) = trace at hTurn ⊢
    cases hTurn with
    | passed h => exact ⟨fun hOk => ⟨fun hTurn => absurd hTurn h, hOk⟩, fun hOk => hOk.2⟩
    | succeeded nodePlan hPlan hTurn h =>
      simp [ApplyTrace.result, h]
    | failed events hostname message error hTurn h hEvents =>
      constructor
      · intro hOk
        simp [ApplyTrace.result] at hOk
      · exact fun hOk => absurd (hOk.1 hTurn) h

theorem reloaded_iff_hasTurn (order : List (String × Nat))
    (h : ∀ node ∈ order, HasTurn plan members node.1 → (answers node.2).Succeed)
    (nodeId : String) :
    .reloaded nodeId ∈ (applyNodes plan members answers order).events ↔
      nodeId ∈ order.map (·.1) ∧ HasTurn plan members nodeId := by
  induction order with
  | nil => simp [applyNodes]
  | cons node order ih =>
    obtain ⟨hHead, hRest⟩ := List.forall_mem_cons.mp h
    have hTurn := turn_applyNodes plan members answers node.1 node.2 order
    generalize applyNodes plan members answers ((node.1, node.2) :: order) = trace at hTurn ⊢
    cases hTurn with
    | passed hPassed =>
      rw [ih hRest, List.map_cons, List.mem_cons]
      constructor
      · exact fun ⟨hIn, hHas⟩ => ⟨Or.inr hIn, hHas⟩
      · rintro ⟨rfl | hIn, hHas⟩
        · exact absurd hHas hPassed
        · exact ⟨hIn, hHas⟩
    | succeeded nodePlan hPlan hTurn hSucceed =>
      rw [List.mem_append, ih hRest, List.map_cons]
      constructor
      · rintro (hHere | ⟨hIn, hHas⟩)
        · have hSame : nodeId = node.1 := by simpa using hHere
          exact ⟨List.mem_cons.mpr (Or.inl hSame), hSame ▸ hTurn⟩
        · exact ⟨List.mem_cons_of_mem _ hIn, hHas⟩
      · rintro ⟨hIn, hHas⟩
        rcases List.mem_cons.mp hIn with rfl | hIn
        · exact Or.inl (by simp)
        · exact Or.inr ⟨hIn, hHas⟩
    | failed events hostname message error hTurn hFails hEvents =>
      exact absurd (hHead hTurn) hFails

end

/-- An application reports as promised exactly if it is refused, or both nodes of the plan have a
node plan and are members, or one that has and is fails. -/
theorem reportsApplied_iff (sans : List ClusterSanMember) (plan : AluaClusterPlan)
    (confirmation : String) (answers : Nat → NodeAnswers) :
    ReportsApplied plan (applyAluaClusterPlan sans plan confirmation answers) ↔
      ∀ members, membersToApply sans plan confirmation = .ok members →
        (∀ nodeId ∈ plan.order, HasTurn plan members nodeId) ∨
        ∃ node ∈ plan.order.zipIdx, HasTurn plan members node.1 ∧ ¬ (answers node.2).Succeed := by
  unfold applyAluaClusterPlan
  cases hMembers : membersToApply sans plan confirmation with
  | error error =>
    exact iff_of_true ⟨nofun, nofun, nofun, fun _ _ => rfl⟩ nofun
  | ok members =>
    have hIds : plan.order.zipIdx.map (·.1) = plan.order := rfl
    constructor
    · rintro hReports _ ⟨rfl⟩
      by_cases hAll : ∀ node ∈ plan.order.zipIdx,
          HasTurn plan members node.1 → (answers node.2).Succeed
      · left
        intro nodeId hNode
        have hOk := (result_ok_iff _).mpr hAll
        obtain ⟨_, -, -, hReloaded⟩ := hReports.ok _ rfl hOk nodeId hNode
        exact ((reloaded_iff_hasTurn _ hAll nodeId).mp hReloaded).2
      · right
        push Not at hAll
        exact hAll
    · intro hCovered
      refine ⟨?_, ?_, ?_, nofun⟩
      · rintro _ ⟨rfl⟩ hOk nodeId hNode
        have hAll := (result_ok_iff _).mp hOk
        have hTurns := (hCovered members rfl).resolve_right
          fun ⟨node, hIn, hTurn, hFails⟩ => hFails (hAll node hIn hTurn)
        have hReloaded := (reloaded_iff_hasTurn _ hAll nodeId).mpr
          ⟨hIds ▸ hNode, hTurns nodeId hNode⟩
        exact (reloaded_iff _ _ _ _ nodeId).2 hReloaded
      · rintro _ ⟨rfl⟩ nodeId
        exact entries_iff_applied _ nodeId
      · rintro _ before entry after ⟨rfl⟩ hSplit hFailed
        exact stops_at_failure _ hSplit hFailed

def leftClusterPlan : AluaClusterPlan where
  clusterId := "c"
  primaryNodeId := "a"
  peerNodeId := "b"
  nodes := ["a", "b"].map fun nodeId =>
    { nodeId, hostname := nodeId, deviceGroup := ⟨[], [], []⟩, scstConfBefore := []
      scstConfAfter := "\n".toList }

def leftClusterSans : List ClusterSanMember :=
  ["a", "d"].map fun id => { id, label := id, clusterId := some "c" }

/-- The application says ok although the peer is never written. -/
theorem leftCluster_ok_unwritten :
    ¬ ReportsApplied leftClusterPlan
      (applyAluaClusterPlan leftClusterSans leftClusterPlan "CONFIGURE ALUA" fun _ => {}) := by
  intro h
  have hRun : applyAluaClusterPlan leftClusterSans leftClusterPlan "CONFIGURE ALUA" (fun _ => {}) =
      ⟨[.wrote "a" "\n".toList, .reloaded "a"],
        .ok { ok := true, nodeResults := [⟨"a", "a", true, none⟩], errors := [] }⟩ := by
    decide +kernel
  rw [hRun] at h
  obtain ⟨_, -, hWrote, -⟩ := h.ok _ rfl rfl "b" (by decide)
  simp at hWrote

end EsosWebui.Alua
