import EsosWebui.Alua.Plan
import EsosWebui.Scst.Mutators
import EsosWebui.Scst.RoundTrip

/-! A device group that is inserted into a configuration, or replaces the one of its name. -/
namespace EsosWebui.Alua

open Js
open Raid (HttpError)
open Scst (ScstConfig AluaDeviceGroupConfig serializeScstConfig)

def withDeviceGroup (dg : AluaDeviceGroupConfig) (c : ScstConfig) : ScstConfig :=
  { c with deviceGroups := put (·.name == dg.name) dg c.deviceGroups }

def AgreeOutside (name : Text) (c c' : ScstConfig) : Prop :=
  c.handlers = c'.handlers ∧ c.drivers = c'.drivers ∧
    others (·.name == name) c.deviceGroups = others (·.name == name) c'.deviceGroups

instance (name : Text) (c c' : ScstConfig) : Decidable (AgreeOutside name c c') :=
  inferInstanceAs (Decidable (_ ∧ _))

theorem AgreeOutside.refl (name : Text) (c : ScstConfig) : AgreeOutside name c c :=
  ⟨rfl, rfl, rfl⟩

theorem AgreeOutside.trans {name : Text} {a b c : ScstConfig} (h : AgreeOutside name a b)
    (h' : AgreeOutside name b c) : AgreeOutside name a c :=
  ⟨h.1.trans h'.1, h.2.1.trans h'.2.1, h.2.2.trans h'.2.2⟩

theorem eq_withDeviceGroup_of_upsert {c c' : ScstConfig} {dg : AluaDeviceGroupConfig}
    {mode : AluaWizardMode} (h : upsertDeviceGroup c dg mode = .ok c') :
    c' = withDeviceGroup dg c := by
  unfold upsertDeviceGroup at h
  unfold withDeviceGroup
  split at h
  · rename_i hNone
    rw [put_of_findIdx?_none hNone, ← Except.ok.inj h]
  · rename_i i hSome
    dsimp only at h
    split at h
    · cases h
    · rw [put_of_findIdx?_some hSome, ← Except.ok.inj h]

theorem withDeviceGroup_eq_iff {dg : AluaDeviceGroupConfig} {c c' : ScstConfig} :
    withDeviceGroup dg c = withDeviceGroup dg c' ↔ AgreeOutside dg.name c c' := by
  unfold withDeviceGroup AgreeOutside
  rw [ScstConfig.mk.injEq, put_eq_put_iff (p := (·.name == dg.name)) (x := dg)
    (beq_self_eq_true dg.name)]

theorem resolvePrimaryAndPeer_eq_ok {nodes : List NodePlanInput} {primaryNodeId : Option String}
    {primary peer : NodePlanInput}
    (h : resolvePrimaryAndPeer nodes primaryNodeId = .ok (primary, peer)) :
    primary ∈ nodes ∧ peer ∈ nodes ∧ peer.nodeId ≠ primary.nodeId := by
  obtain ⟨_, -, h⟩ := bind_eq_ok.mp h
  obtain ⟨found, hPrimary, h⟩ := bind_eq_ok.mp h
  obtain ⟨other, hPeer, h⟩ := bind_eq_ok.mp h
  obtain ⟨rfl, rfl⟩ := Prod.mk.inj (pure_eq_ok.mp h)
  have hPeer := orThrow_eq_ok.mp hPeer
  refine ⟨?_, List.mem_of_find?_eq_some hPeer, by simpa using List.find?_some hPeer⟩
  have hPrimary := orThrow_eq_ok.mp hPrimary
  split at hPrimary
  · exact List.mem_of_find?_eq_some hPrimary
  · exact List.mem_of_mem_head? hPrimary

variable [LocaleSort] {nodePlan : AluaNodePlan}

theorem buildNodePlan_eq_ok {input : NodePlanInput} {req : AluaWizardRequest} {peerId : String}
    {isPrimary : Bool} (h : buildNodePlan input req peerId isPrimary = .ok nodePlan) :
    nodePlan.nodeId = input.nodeId ∧ nodePlan.hostname = input.hostname ∧
      nodePlan.deviceGroup = buildDeviceGroupForNode req input.nodeId peerId isPrimary ∧
      nodePlan.scstConfBefore = serializeScstConfig input.config ∧
      nodePlan.scstConfAfter =
        serializeScstConfig (withDeviceGroup nodePlan.deviceGroup input.config) ∧
      requireTargets input.config input.hostname nodePlan.deviceGroup = .ok () := by
  obtain ⟨_, hTargets, h⟩ := bind_eq_ok.mp h
  obtain ⟨after, hAfter, h⟩ := bind_eq_ok.mp h
  cases pure_eq_ok.mp h
  exact ⟨rfl, rfl, rfl, rfl, by rw [eq_withDeviceGroup_of_upsert hAfter], hTargets⟩

variable {plan : AluaClusterPlan}

theorem buildAluaClusterPlan_eq_ok {req : AluaWizardRequest} {nodes : List NodePlanInput}
    (h : buildAluaClusterPlan req nodes = .ok plan) :
    ∃ primary peer primaryPlan peerPlan,
      resolvePrimaryAndPeer nodes req.primaryNodeId = .ok (primary, peer) ∧
      buildNodePlan primary req peer.nodeId true = .ok primaryPlan ∧
      buildNodePlan peer req primary.nodeId false = .ok peerPlan ∧
      plan = ⟨req.clusterId, primary.nodeId, peer.nodeId, [primaryPlan, peerPlan]⟩ := by
  obtain ⟨⟨primary, peer⟩, hNodes, h⟩ := bind_eq_ok.mp h
  obtain ⟨primaryPlan, hPrimary, h⟩ := bind_eq_ok.mp h
  obtain ⟨peerPlan, hPeer, h⟩ := bind_eq_ok.mp h
  exact ⟨primary, peer, primaryPlan, peerPlan, hNodes, hPrimary, hPeer, (pure_eq_ok.mp h).symm⟩

end EsosWebui.Alua

/-! Plans that wait in the token store while the nodes' files go on changing, and what they are
when they are applied. -/
namespace EsosWebui.Alua

open Js
open Raid (HttpError)
open Scst (ScstConfig serializeScstConfig parseScstConfSafe)

def ttlMs : Nat := 15 * 60 * 1000

structure TokenEntry where
  plan : AluaClusterPlan
  expiresAt : Nat

/-- The nodes' files, the members of the cluster, the token store and the time. -/
structure AluaSystem where
  files : String → Text
  sans : List ClusterSanMember
  store : List (String × TokenEntry) := []
  now : Nat := 0

namespace AluaSystem

def setFile (sys : AluaSystem) (nodeId : String) (content : Text) : AluaSystem :=
  { sys with files := fun id => if id = nodeId then content else sys.files id }

def readNodes (sys : AluaSystem) (nodes : List (String × String)) : List NodePlanInput :=
  nodes.map fun (nodeId, hostname) =>
    { nodeId, hostname, config := parseScstConfSafe (sys.files nodeId) }

def issuePlanToken (sys : AluaSystem) (plan : AluaClusterPlan) (token : String) : AluaSystem :=
  { sys with
    store := (token, ⟨plan, sys.now + ttlMs⟩) :: sys.store.filter (·.1 != token) }

def consumePlanToken (sys : AluaSystem) (token : String) : AluaSystem × Option AluaClusterPlan :=
  match sys.store.lookup token with
  | none => (sys, none)
  | some entry =>
    ({ sys with store := sys.store.filter (·.1 != token) },
      if sys.now > entry.expiresAt then none else some entry.plan)

/-- What an application leaves in the files. -/
def applyEvents (sys : AluaSystem) (events : List ApplyEvent) : AluaSystem :=
  events.foldl (fun sys event =>
    match event with
    | .wrote nodeId content => sys.setFile nodeId content
    | .reloaded _ => sys) sys

def execute (sys : AluaSystem) (token confirmation : String) (answers : Nat → NodeAnswers) :
    AluaSystem × Except HttpError AluaClusterApplyResult :=
  match sys.consumePlanToken token with
  | (consumed, none) =>
    (consumed, .error ⟨400, "Plan expiré ou invalide — regénérez le plan"⟩)
  | (consumed, some plan) =>
    let run := applyAluaClusterPlan consumed.sans plan confirmation answers
    (consumed.applyEvents run.events, run.outcome)

/-- What happens between a preview and an application. -/
inductive Action where
  | mutate (nodeId : String) (request : Scst.Request)
  | preview (req : AluaWizardRequest) (nodes : List (String × String)) (token : String)
  | execute (token confirmation : String) (answers : Nat → NodeAnswers)
  | changeMembers (sans : List ClusterSanMember)
  | wait (ms : Nat)

variable [LocaleSort] (toLowerCase : Text → Text)

def step (sys : AluaSystem) : Action → AluaSystem
  | .mutate nodeId request =>
    match request.run toLowerCase (sys.files nodeId) with
    | .ok content => sys.setFile nodeId content
    | .error _ => sys
  | .preview req nodes token =>
    match buildAluaClusterPlan req (sys.readNodes nodes) with
    | .ok plan => sys.issuePlanToken plan token
    | .error _ => sys
  | .execute token confirmation answers => (sys.execute token confirmation answers).1
  | .changeMembers sans => { sys with sans }
  | .wait ms => { sys with now := sys.now + ms }

def run (sys : AluaSystem) (actions : List Action) : AluaSystem :=
  actions.foldl (step toLowerCase) sys

end AluaSystem

def AluaSystem.config (sys : AluaSystem) (nodeId : String) : ScstConfig :=
  parseScstConfSafe (sys.files nodeId)

theorem files_applyEvents_append (sys : AluaSystem) (events events' : List ApplyEvent) :
    sys.applyEvents (events ++ events') = (sys.applyEvents events).applyEvents events' :=
  List.foldl_append

variable {nodeId : String}

theorem files_of_not_written {sys : AluaSystem} {events : List ApplyEvent}
    (h : ∀ content, .wrote nodeId content ∉ events) :
    (sys.applyEvents events).files nodeId = sys.files nodeId := by
  induction events generalizing sys with
  | nil => rfl
  | cons event events ih =>
    have hRest : ∀ content, .wrote nodeId content ∉ events := fun content hIn =>
      h content (List.mem_cons_of_mem _ hIn)
    cases event with
    | reloaded id => exact ih hRest
    | wrote id content =>
      have hNe : nodeId ≠ id := fun hIs => h content (hIs ▸ List.mem_cons_self)
      exact (ih hRest).trans (if_neg hNe)

section

variable {plan : AluaClusterPlan} {members : List ClusterSanMember} {answers : Nat → NodeAnswers}

theorem hasTurn_of_wrote {order : List (String × Nat)} {content : Text}
    (h : .wrote nodeId content ∈ (applyNodes plan members answers order).events) :
    nodeId ∈ order.map (·.1) ∧ HasTurn plan members nodeId := by
  induction order with
  | nil => simp [applyNodes] at h
  | cons node order ih =>
    have hTurn := turn_applyNodes plan members answers node.1 node.2 order
    generalize applyNodes plan members answers ((node.1, node.2) :: order) = trace at hTurn h
    rw [List.map_cons]
    cases hTurn with
    | passed hPassed => exact (ih h).imp_left (List.mem_cons_of_mem _)
    | succeeded nodePlan hPlan hTurn hSucceed =>
      rcases List.mem_append.mp h with hHere | hLater
      · have hSame : nodeId = node.1 := (by simpa using hHere : _ ∧ _).1
        exact ⟨hSame ▸ List.mem_cons_self, hSame ▸ hTurn⟩
      · exact (ih hLater).imp_left (List.mem_cons_of_mem _)
    | failed events hostname message error hTurn hFails hEvents =>
      obtain ⟨_, hIs⟩ := hEvents _ h
      obtain ⟨rfl, -⟩ := ApplyEvent.wrote.inj hIs
      exact ⟨List.mem_cons_self, hTurn⟩

theorem files_of_hasTurn {order : List (String × Nat)} (hUnique : (order.map (·.1)).Nodup)
    (hAll : ∀ node ∈ order, HasTurn plan members node.1 → (answers node.2).Succeed)
    (hIn : nodeId ∈ order.map (·.1)) (hHas : HasTurn plan members nodeId)
    (hPlan : plan.nodePlan? nodeId = some nodePlan) (sys : AluaSystem) :
    (sys.applyEvents (applyNodes plan members answers order).events).files nodeId =
      nodePlan.scstConfAfter := by
  induction order generalizing sys with
  | nil => cases hIn
  | cons node order ih =>
    obtain ⟨hNew, hUnique⟩ := List.nodup_cons.mp hUnique
    obtain ⟨hHead, hRest⟩ := List.forall_mem_cons.mp hAll
    have hTurn := turn_applyNodes plan members answers node.1 node.2 order
    generalize applyNodes plan members answers ((node.1, node.2) :: order) = trace at hTurn ⊢
    cases hTurn with
    | passed hPassed =>
      have hNe : nodeId ≠ node.1 := fun hIs => hPassed (hIs ▸ hHas)
      exact ih hUnique hRest ((List.mem_cons.mp hIn).resolve_left hNe) sys
    | succeeded own hOwn hTurn hSucceed =>
      rw [files_applyEvents_append]
      by_cases hSame : nodeId = node.1
      · subst hSame
        obtain rfl := Option.some.inj (hOwn.symm.trans hPlan)
        rw [files_of_not_written fun content hWrote => hNew (hasTurn_of_wrote hWrote).1]
        exact if_pos rfl
      · exact ih hUnique hRest ((List.mem_cons.mp hIn).resolve_left hSame) _
    | failed events hostname message error hTurn hFails hEvents =>
      exact absurd (hHead hTurn) hFails

end

/-- A node's configuration is the one that it had, with only the planned group inserted or
replaced. -/
def GroupUpdated (before after : AluaSystem) (nodePlan : AluaNodePlan) : Prop :=
  after.config nodePlan.nodeId =
    withDeviceGroup nodePlan.deviceGroup (before.config nodePlan.nodeId)

instance (before after : AluaSystem) (nodePlan : AluaNodePlan) :
    Decidable (GroupUpdated before after nodePlan) :=
  inferInstanceAs (Decidable (_ = _))

def ReadsBack (preview : AluaSystem) (nodePlan : AluaNodePlan) : Prop :=
  (withDeviceGroup nodePlan.deviceGroup (preview.config nodePlan.nodeId)).WellFormed ∧
    (withDeviceGroup nodePlan.deviceGroup (preview.config nodePlan.nodeId)).Rewritable

def AluaSystem.memberIds (sys : AluaSystem) (plan : AluaClusterPlan) : List String :=
  (sys.sans.filter (·.clusterId == some plan.clusterId)).map (·.id)

/-- Outside the planned group a node's configuration is still the one of the preview; a node
that has left the cluster has the planned group already. -/
def StillCurrent (preview before : AluaSystem) (plan : AluaClusterPlan)
    (nodePlan : AluaNodePlan) : Prop :=
  if nodePlan.nodeId ∈ before.memberIds plan then
    AgreeOutside nodePlan.deviceGroup.name (preview.config nodePlan.nodeId)
      (before.config nodePlan.nodeId)
  else
    withDeviceGroup nodePlan.deviceGroup (before.config nodePlan.nodeId) =
      before.config nodePlan.nodeId

theorem membersToApply_eq_ok {sans members : List ClusterSanMember} {confirmation : String}
    (h : membersToApply sans plan confirmation = .ok members) :
    members = sans.filter (·.clusterId == some plan.clusterId) := by
  obtain ⟨_, -, h⟩ := bind_eq_ok.mp h
  obtain ⟨found, hFound, h⟩ := bind_eq_ok.mp h
  obtain ⟨_, -, h⟩ := bind_eq_ok.mp h
  obtain ⟨_, -, h⟩ := bind_eq_ok.mp h
  obtain rfl := pure_eq_ok.mp h
  unfold resolveClusterMembers at hFound
  split at hFound
  · cases hFound
  · exact (Except.ok.inj hFound).symm

theorem execute_eq_ok {before : AluaSystem} {token confirmation : String}
    {answers : Nat → NodeAnswers} {result : AluaClusterApplyResult}
    (hToken : (before.consumePlanToken token).2 = some plan)
    (hResult : (before.execute token confirmation answers).2 = .ok result)
    (hOk : result.ok) :
    ∃ members consumed, members.map (·.id) = before.memberIds plan ∧
      consumed.files = before.files ∧
      (before.execute token confirmation answers).1 = AluaSystem.applyEvents consumed
        (applyNodes plan members answers plan.order.zipIdx).events ∧
      ∀ node ∈ plan.order.zipIdx,
        HasTurn plan members node.1 → (answers node.2).Succeed := by
  have hStore : (before.consumePlanToken token).1.files = before.files ∧
      (before.consumePlanToken token).1.sans = before.sans := by
    unfold AluaSystem.consumePlanToken
    split <;> exact ⟨rfl, rfl⟩
  unfold AluaSystem.execute at hResult ⊢
  generalize before.consumePlanToken token = consumed at hToken hResult hStore ⊢
  obtain ⟨consumed, found⟩ := consumed
  obtain rfl := hToken
  dsimp only at hResult hStore ⊢
  unfold applyAluaClusterPlan at hResult ⊢
  cases hMembers : membersToApply consumed.sans plan confirmation with
  | error error =>
    rw [hMembers] at hResult
    cases hResult
  | ok members =>
    rw [hMembers] at hResult
    obtain rfl := Except.ok.inj hResult
    refine ⟨members, consumed, ?_, hStore.1, rfl, (result_ok_iff _).mp hOk⟩
    rw [membersToApply_eq_ok hMembers, hStore.2]
    rfl

section

variable [LocaleSort] {preview before : AluaSystem} {req : AluaWizardRequest}
  {nodes : List (String × String)} {plan : AluaClusterPlan}

theorem nodePlan_of_plan (hPlan : buildAluaClusterPlan req (preview.readNodes nodes) = .ok plan)
    (hNode : nodePlan ∈ plan.nodes) :
    nodePlan.nodeId ∈ plan.order ∧ plan.nodePlan? nodePlan.nodeId = some nodePlan ∧
      nodePlan.scstConfAfter = serializeScstConfig
        (withDeviceGroup nodePlan.deviceGroup (preview.config nodePlan.nodeId)) ∧
      plan.order.Nodup := by
  obtain ⟨primary, peer, primaryPlan, peerPlan, hNodes, hPrimary, hPeer, rfl⟩ :=
    buildAluaClusterPlan_eq_ok hPlan
  obtain ⟨hPrimaryIn, hPeerIn, hNe⟩ := resolvePrimaryAndPeer_eq_ok hNodes
  obtain ⟨hPrimaryId, -, -, -, hPrimaryFile, -⟩ := buildNodePlan_eq_ok hPrimary
  obtain ⟨hPeerId, -, -, -, hPeerFile, -⟩ := buildNodePlan_eq_ok hPeer
  have hConfig : ∀ input ∈ preview.readNodes nodes, input.config = preview.config input.nodeId := by
    intro input hInput
    obtain ⟨node, -, rfl⟩ := List.mem_map.mp hInput
    rfl
  rw [hConfig primary hPrimaryIn, ← hPrimaryId] at hPrimaryFile
  rw [hConfig peer hPeerIn, ← hPeerId] at hPeerFile
  have hOrder : [peer.nodeId, primary.nodeId].Nodup := by simpa using hNe
  rcases List.mem_pair.mp hNode with rfl | rfl
  · refine ⟨?_, ?_, hPrimaryFile, hOrder⟩
    · simp [AluaClusterPlan.order, hPrimaryId]
    · simp [AluaClusterPlan.nodePlan?]
  · refine ⟨?_, ?_, hPeerFile, hOrder⟩
    · simp [AluaClusterPlan.order, hPeerId]
    · simp [AluaClusterPlan.nodePlan?, hPrimaryId, hPeerId, Ne.symm hNe]

theorem groupUpdated_iff (hPlan : buildAluaClusterPlan req (preview.readNodes nodes) = .ok plan)
    {token confirmation : String} {answers : Nat → NodeAnswers} {result : AluaClusterApplyResult}
    (hToken : (before.consumePlanToken token).2 = some plan)
    (hResult : (before.execute token confirmation answers).2 = .ok result) (hOk : result.ok)
    (hNode : nodePlan ∈ plan.nodes) (hReadsBack : ReadsBack preview nodePlan) :
    GroupUpdated before (before.execute token confirmation answers).1 nodePlan ↔
      StillCurrent preview before plan nodePlan := by
  obtain ⟨hOrder, hFound, hFile, hUnique⟩ := nodePlan_of_plan hPlan hNode
  obtain ⟨members, consumed, hMembers, hFiles, hAfter, hAll⟩ := execute_eq_ok hToken hResult hOk
  have hTurn : HasTurn plan members nodePlan.nodeId ↔
      nodePlan.nodeId ∈ before.memberIds plan := by
    rw [HasTurn, hFound, hMembers]
    exact and_iff_right rfl
  have hIds : plan.order.zipIdx.map (·.1) = plan.order := rfl
  unfold GroupUpdated StillCurrent
  rw [hAfter]
  split
  · rename_i hMember
    have hWritten := files_of_hasTurn (hIds ▸ hUnique) hAll (hIds ▸ hOrder) (hTurn.mpr hMember)
      hFound consumed
    rw [AluaSystem.config, hWritten, hFile, Scst.parseScstConfSafe_eq,
      Scst.parse_serialize_eq_iff.mpr hReadsBack, withDeviceGroup_eq_iff]
  · rename_i hLeft
    have hKept : (consumed.applyEvents
        (applyNodes plan members answers plan.order.zipIdx).events).files nodePlan.nodeId =
          before.files nodePlan.nodeId := by
      rw [files_of_not_written fun content hWrote =>
        hLeft (hTurn.mp (hasTurn_of_wrote hWrote).2), hFiles]
    rw [AluaSystem.config, hKept, eq_comm]
    rfl

theorem agreeOutside_of_run {start : AluaSystem} {name : Text} {toLowerCase : Text → Text}
    {actions : List AluaSystem.Action}
    (h : ∀ done action rest, actions = done ++ action :: rest →
      AgreeOutside name ((start.run toLowerCase done).config nodeId)
        (((start.run toLowerCase done).step toLowerCase action).config nodeId)) :
    AgreeOutside name (start.config nodeId) ((start.run toLowerCase actions).config nodeId) := by
  induction actions using List.reverseRecOn with
  | nil => exact .refl ..
  | append_singleton done action ih =>
    have hDone := ih fun done' action' rest hSplit =>
      h done' action' (rest ++ [action]) (by rw [hSplit, List.append_assoc, List.cons_append])
    have hStep : start.run toLowerCase (done ++ [action]) =
        (start.run toLowerCase done).step toLowerCase action := by
      simp [AluaSystem.run]
    rw [hStep]
    exact hDone.trans (h done action [] rfl)

/-- A plan is issued at the preview, anything happens, and its application succeeds. If the
planned files read back as planned, every node's configuration is the one before the application
with only the planned group inserted or replaced exactly if each is still the one of the preview
outside that group. In particular it is so after a run whose steps keep the nodes' configurations
outside the group and whose nodes are still members. -/
theorem apply_updates_groups_iff (toLowerCase : Text → Text)
    (hPlan : buildAluaClusterPlan req (preview.readNodes nodes) = .ok plan)
    (actions : List AluaSystem.Action) {token confirmation : String}
    {answers : Nat → NodeAnswers} {result : AluaClusterApplyResult}
    (hBefore : before = (preview.issuePlanToken plan token).run toLowerCase actions)
    (hToken : (before.consumePlanToken token).2 = some plan)
    (hResult : (before.execute token confirmation answers).2 = .ok result)
    (hOk : result.ok = true) (hReadsBack : ∀ nodePlan ∈ plan.nodes, ReadsBack preview nodePlan) :
    ((∀ nodePlan ∈ plan.nodes,
        GroupUpdated before (before.execute token confirmation answers).1 nodePlan) ↔
      ∀ nodePlan ∈ plan.nodes, StillCurrent preview before plan nodePlan) ∧
    ((∀ nodePlan ∈ plan.nodes, nodePlan.nodeId ∈ before.memberIds plan ∧
        ∀ done action rest, actions = done ++ action :: rest →
          AgreeOutside nodePlan.deviceGroup.name
            (((preview.issuePlanToken plan token).run toLowerCase done).config nodePlan.nodeId)
            ((((preview.issuePlanToken plan token).run toLowerCase done).step toLowerCase
              action).config nodePlan.nodeId)) →
      ∀ nodePlan ∈ plan.nodes,
        GroupUpdated before (before.execute token confirmation answers).1 nodePlan) := by
  have hIff : ∀ nodePlan ∈ plan.nodes,
      (GroupUpdated before (before.execute token confirmation answers).1 nodePlan ↔
        StillCurrent preview before plan nodePlan) := fun nodePlan hNode =>
    groupUpdated_iff hPlan hToken hResult hOk hNode (hReadsBack nodePlan hNode)
  refine ⟨forall₂_congr hIff, fun hKept nodePlan hNode => (hIff nodePlan hNode).mpr ?_⟩
  obtain ⟨hMember, hSteps⟩ := hKept nodePlan hNode
  unfold StillCurrent
  rw [if_pos hMember, hBefore]
  exact agreeOutside_of_run hSteps

end

def twoNodeConf : Text :=
  ("HANDLER vdisk_fileio \x7b\n\tDEVICE d \x7b\n\t\tfilename /f\n\t\x7d\n\x7d\n\n" ++
    "TARGET_DRIVER iscsi \x7b\n\tTARGET iqn.a \x7b\n\t\tenabled 1\n\t\x7d\n" ++
    "\tTARGET iqn.b \x7b\n\t\tenabled 1\n\t\x7d\n\x7d\n").toList

def twoNodeSystem : AluaSystem where
  files := fun _ => twoNodeConf
  sans := ["a", "b"].map fun id => { id, label := id, clusterId := some "c" }

def twoNodeRequest : AluaWizardRequest where
  clusterId := "c"
  deviceGroupName := "esos".toList
  deviceNames := ["d".toList]
  localGroupName := "local".toList
  remoteGroupName := "remote".toList
  localIdOnPrimary := .int 1
  remoteIdOnPrimary := .int 2
  assignments := [⟨"a", "iqn.a".toList, .isLocal⟩, ⟨"b", "iqn.b".toList, .isLocal⟩]
  mode := .create

def twoNodePlan : AluaClusterPlan :=
  ((@buildAluaClusterPlan asciiSort twoNodeRequest
    (twoNodeSystem.readNodes [("a", "a"), ("b", "b")])).toOption).getD ⟨"", "", "", []⟩

def twoNodeBefore (actions : List AluaSystem.Action) : AluaSystem :=
  @AluaSystem.run asciiSort id (twoNodeSystem.issuePlanToken twoNodePlan "t")
    (actions ++ [.wait 60000])

def bothApplied : AluaClusterApplyResult :=
  { ok := true, nodeResults := [⟨"b", "b", true, none⟩, ⟨"a", "a", true, none⟩], errors := [] }

theorem readsBack_twoNode : ∀ nodePlan ∈ twoNodePlan.nodes, ReadsBack twoNodeSystem nodePlan := by
  have hBack : ∀ nodePlan ∈ twoNodePlan.nodes,
      Scst.parseScstConf (serializeScstConfig
        (withDeviceGroup nodePlan.deviceGroup (twoNodeSystem.config nodePlan.nodeId))) =
        withDeviceGroup nodePlan.deviceGroup (twoNodeSystem.config nodePlan.nodeId) := by
    decide +kernel
  exact fun nodePlan hNode => Scst.parse_serialize_eq_iff.mp (hBack nodePlan hNode)

theorem apply_updates_groups_iff_twoNode :
    let after := ((twoNodeBefore []).execute "t" "CONFIGURE ALUA" fun _ => {}).1
    (∀ nodePlan ∈ twoNodePlan.nodes, GroupUpdated (twoNodeBefore []) after nodePlan) ↔
      ∀ nodePlan ∈ twoNodePlan.nodes,
        StillCurrent twoNodeSystem (twoNodeBefore []) twoNodePlan nodePlan :=
  (@apply_updates_groups_iff asciiSort twoNodeSystem (twoNodeBefore []) twoNodeRequest
    [("a", "a"), ("b", "b")] twoNodePlan id (by decide +kernel) [.wait 60000] "t"
    "CONFIGURE ALUA" (fun _ => {}) bothApplied rfl (by decide +kernel) (by decide +kernel) rfl
    readsBack_twoNode).1

def createdBetween : AluaSystem.Action :=
  .mutate "b" (.createTarget "iscsi".toList "iqn.2020-01.org.x:t".toList)

/-- The application succeeds and the target is gone. -/
theorem twoNode_loses_created_target :
    let before := twoNodeBefore [createdBetween]
    let after := (before.execute "t" "CONFIGURE ALUA" fun _ => {}).1
    (before.consumePlanToken "t").2 = some twoNodePlan ∧
      (before.execute "t" "CONFIGURE ALUA" fun _ => {}).2 = .ok bothApplied ∧
      ¬ ∀ nodePlan ∈ twoNodePlan.nodes, GroupUpdated before after nodePlan := by
  decide +kernel

end EsosWebui.Alua
