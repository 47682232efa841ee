import EsosWebui.Lvm.ClusterLvmPlans

/-! Whether the paths that the execution of a plan hands to the commands are those of the plan. -/
namespace EsosWebui.Lvm

open Js
open Raid (HttpError)

inductive DeviceAction where
  | pvcreate
  | pvremove
  | vgcreate
  deriving DecidableEq

def DeviceAction.args (payload : LvmPayload) : DeviceAction → List String → List String
  | pvcreate, paths =>
    ["pvcreate", "-y", "-v"] ++ (if payload.force then ["--force"] else []) ++ paths
  | pvremove, paths => ["pvremove", "-y", "-f"] ++ paths
  | vgcreate, paths => vgCreateArgs payload.name paths

/-- The command that a plan shows for paths. -/
def DeviceAction.preview (payload : LvmPayload) : DeviceAction → List String → String
  | pvcreate, paths => buildPvCreatePreview (join " " paths) payload.force
  | pvremove, paths => buildPvRemovePreview (join " " paths)
  | vgcreate, paths => buildVgCreatePreview payload.name paths

/-- A request as the routes carry it out: the plan is made from the inventories of the cluster with
the mappings of the client, and executed with the same. -/
structure DeviceRequest where
  action : DeviceAction
  clusterId : String
  body : LvmPayload
  clusterExecution : ClusterLvmExecutionRequest
  execution : Execution

namespace DeviceRequest

variable (r : DeviceRequest)

def primarySanId : String := r.clusterExecution.primarySanId

def diskMappings : List ClusterLvmDiskMapping := r.clusterExecution.diskMappings.getD []

def nodes : List ClusterLvmNodeInventory := r.execution.inventories r.clusterId

variable [CaseMapping]

def plan : Except HttpError ClusterLvmExecutionPlan :=
  match r.action with
  | .pvcreate =>
    buildClusterPvCreatePlan r.nodes r.primarySanId r.clusterId r.body r.diskMappings
  | .pvremove =>
    buildClusterPvRemovePlan r.nodes r.primarySanId r.clusterId r.body r.diskMappings
  | .vgcreate =>
    buildClusterVgCreatePlan r.nodes r.primarySanId r.clusterId r.body r.diskMappings

def sent : List (ClusterLvmNodeResult × List String) :=
  match r.plan with
  | .error _ => []
  | .ok plan => sentCommands r.execution plan r.clusterExecution r.body r.diskMappings

/-- Each command that is run is the planned one of its node, with the same paths. -/
def RunsAsPlanned : Prop :=
  ∀ entry ∈ r.sent, ∃ paths, entry.2 = r.action.args r.body paths ∧
    entry.1.command = some (r.action.preview r.body paths)

def foundPath (sanId : String) : Option String :=
  (findMapping (buildClusterLvmDiskMappings r.primarySanId r.body.path r.nodes []) r.body.path
    sanId).map (·.peerPath)

end DeviceRequest

def DeviceAction.toVolumeAction : DeviceAction → VolumeAction
  | pvcreate => .pvcreate
  | pvremove => .pvremove
  | vgcreate => .vgcreate

theorem DeviceAction.args_injective {action : DeviceAction} {payload : LvmPayload}
    {paths paths' : List String} (h : action.args payload paths = action.args payload paths') :
    paths = paths' := by
  cases action with
  | pvcreate => exact List.append_cancel_left h
  | pvremove => exact List.append_cancel_left h
  | vgcreate => exact List.append_cancel_left h

theorem DeviceAction.preview_injective {action : DeviceAction} {payload : LvmPayload}
    {path path' : String} (hAction : action ≠ .vgcreate)
    (h : action.preview payload [path] = action.preview payload [path']) : path = path' := by
  cases action with
  | vgcreate => exact absurd rfl hAction
  | pvcreate =>
    have hSame : buildPvCreatePreview path payload.force =
      buildPvCreatePreview path' payload.force := h
    cases hForce : payload.force with
    | true =>
      rw [hForce] at hSame
      have hText : "pvcreate -y -v --force " ++ path = "pvcreate -y -v --force " ++ path' :=
        hSame
      exact (String.append_right_inj _).mp hText
    | false =>
      rw [hForce] at hSame
      have hText : "pvcreate -y -v " ++ path = "pvcreate -y -v " ++ path' := hSame
      exact (String.append_right_inj _).mp hText
  | pvremove =>
    have hText : "pvremove -y -f " ++ path = "pvremove -y -f " ++ path' := h
    exact (String.append_right_inj _).mp hText

namespace DeviceRequest

variable [CaseMapping] (r : DeviceRequest)

def planNode (pre : ClusterLvmPreflightResult) (node : ClusterLvmNodeInventory) :
    ClusterLvmNodeResult :=
  let mappings := planMappings pre r.diskMappings
  match r.action with
  | .pvcreate => pvCreateNode r.primarySanId r.body pre mappings node
  | .pvremove => pvRemoveNode r.primarySanId r.body pre mappings node
  | .vgcreate => vgCreateNode r.primarySanId r.body pre node

def plannedPaths (pre : ClusterLvmPreflightResult) (node : ClusterLvmNodeInventory) :
    List String :=
  match r.action with
  | .vgcreate =>
    if node.sanId == r.primarySanId then r.body.pvPaths
    else resolvePeerPvPaths r.primarySanId r.body.pvPaths node.sanId pre.nodes pre.mappings
  | _ =>
    [resolvePvPathOnNode node.sanId r.primarySanId r.body.path
      (planMappings pre r.diskMappings)]

/-- The paths that the execution hands to the command of a node. -/
def sentPaths (sanId : String) : List String :=
  match r.action with
  | .vgcreate =>
    if sanId == r.primarySanId then r.body.pvPaths
    else resolvePeerPvPaths r.primarySanId r.body.pvPaths sanId r.nodes r.diskMappings
  | _ => [resolvePvPathOnNode sanId r.primarySanId r.body.path r.diskMappings]

variable {r}

theorem exists_planOf {plan : ClusterLvmExecutionPlan} (h : r.plan = .ok plan) :
    ∃ pre phrase warnings, runClusterLvmPreflight r.nodes r.primarySanId r.action.toVolumeAction
        r.body r.diskMappings = .ok pre ∧
      plan = planOf r.action.toVolumeAction r.clusterId r.primarySanId phrase pre
        (r.nodes.map (r.planNode pre)) warnings := by
  unfold DeviceRequest.plan at h
  unfold planNode
  cases hAction : r.action with
  | pvcreate =>
    rw [hAction] at h
    obtain ⟨pre, hPre, hPlan⟩ := bind_eq_ok.mp h
    exact ⟨pre, _, _, hPre, (Except.ok.inj hPlan).symm⟩
  | pvremove =>
    rw [hAction] at h
    obtain ⟨pre, hPre, hPlan⟩ := bind_eq_ok.mp h
    exact ⟨pre, _, _, hPre, (Except.ok.inj hPlan).symm⟩
  | vgcreate =>
    rw [hAction] at h
    obtain ⟨pre, hPre, hPlan⟩ := bind_eq_ok.mp h
    exact ⟨pre, _, _, hPre, (Except.ok.inj hPlan).symm⟩

theorem nodeArgs_eq (sanId : String) :
    nodeArgs r.action.toVolumeAction.toLvmAction r.body r.primarySanId r.nodes r.diskMappings
      sanId = some (r.action.args r.body (r.sentPaths sanId)) := by
  unfold sentPaths
  cases r.action with
  | pvcreate => rfl
  | pvremove => rfl
  | vgcreate => rfl

omit [CaseMapping] in
theorem resolvePvPathOnNode_of_resolveNodePvPath {node : ClusterLvmNodeInventory}
    {primarySanId sourcePath path : String} {mappings : List ClusterLvmDiskMapping}
    (h : resolveNodePvPath node primarySanId sourcePath mappings = some path) :
    resolvePvPathOnNode node.sanId primarySanId sourcePath mappings = path := by
  unfold resolveNodePvPath at h
  unfold resolvePvPathOnNode
  split at h
  · rename_i hPrimary
    rw [if_pos hPrimary]
    exact Option.some.inj h
  · rename_i hPeer
    rw [if_neg hPeer, h, Option.getD_some]

theorem command_planNode {pre : ClusterLvmPreflightResult} {node : ClusterLvmNodeInventory}
    (h : (r.planNode pre node).participation = .execute) :
    (r.planNode pre node).sanId = node.sanId ∧ (r.planNode pre node).command =
      some (r.action.preview r.body (r.plannedPaths pre node)) := by
  unfold planNode at h ⊢
  unfold plannedPaths
  cases hAction : r.action with
  | pvcreate =>
    simp only [hAction, pvCreateNode] at h ⊢
    split at h
    · cases h
    · rename_i hReady
      rw [if_neg hReady]
      split at h
      · cases h
      · rename_i path hPath
        obtain ⟨hResolved, -⟩ := Option.filter_eq_some_iff.mp hPath
        rw [resolvePvPathOnNode_of_resolveNodePvPath hResolved]
        exact ⟨rfl, rfl⟩
  | pvremove =>
    simp only [hAction, pvRemoveNode] at h ⊢
    split at h
    · cases h
    · rename_i hReady
      rw [if_neg hReady]
      exact ⟨rfl, rfl⟩
  | vgcreate =>
    simp only [hAction, vgCreateNode] at h ⊢
    split at h
    · cases h
    · rename_i hReady
      rw [if_neg hReady]
      exact ⟨rfl, rfl⟩

theorem exists_of_mem_sent {entry : ClusterLvmNodeResult × List String} (h : entry ∈ r.sent) :
    ∃ pre node, runClusterLvmPreflight r.nodes r.primarySanId r.action.toVolumeAction r.body
        r.diskMappings = .ok pre ∧ entry.1.sanId = node.sanId ∧
      entry.1.command = some (r.action.preview r.body (r.plannedPaths pre node)) ∧
      entry.2 = r.action.args r.body (r.sentPaths node.sanId) := by
  unfold sent at h
  split at h
  · cases h
  · rename_i plan hPlan
    obtain ⟨pre, phrase, warnings, hPre, rfl⟩ := exists_planOf hPlan
    obtain ⟨-, hExecuted, hArgs⟩ := of_mem_sentCommands h
    obtain ⟨hPlanned, hExecute⟩ := List.mem_filter.mp hExecuted
    obtain ⟨node, -, hNode⟩ := List.mem_map.mp hPlanned
    rw [← hNode] at hExecute
    obtain ⟨hSanId, hShown⟩ := command_planNode (by simpa using hExecute)
    rw [hNode] at hSanId hShown
    refine ⟨pre, node, hPre, hSanId, hShown, ?_⟩
    rw [hSanId] at hArgs
    exact (Option.some.inj ((nodeArgs_eq node.sanId).symm.trans hArgs)).symm

theorem planMappings_eq {pre : ClusterLvmPreflightResult} (hAction : r.action ≠ .vgcreate)
    (hPre : runClusterLvmPreflight r.nodes r.primarySanId r.action.toVolumeAction r.body
      r.diskMappings = .ok pre) :
    planMappings pre r.diskMappings =
      if r.diskMappings = [] then
        buildClusterLvmDiskMappings r.primarySanId r.body.path r.nodes []
      else r.diskMappings := by
  have hVolume : r.action.toVolumeAction = .pvcreate ∨ r.action.toVolumeAction = .pvremove := by
    cases hKind : r.action with
    | pvcreate => exact Or.inl rfl
    | pvremove => exact Or.inr rfl
    | vgcreate => exact absurd hKind hAction
  have hMappings : pre.mappings = if r.diskMappings = [] then
      buildClusterLvmDiskMappings r.primarySanId r.body.path r.nodes [] else r.diskMappings := by
    rw [(mappings_runClusterLvmPreflight hPre).1, preflightMappings]
    by_cases hClient : r.diskMappings = []
    · by_cases hPrimary : r.nodes.any (·.sanId == r.primarySanId) = true
      · rw [if_pos ⟨hVolume, hPrimary, hClient⟩, if_pos hClient]
      · have hNone : r.nodes.find? (·.sanId == r.primarySanId) = none := by
          simpa using hPrimary
        rw [if_neg (fun hAll => hPrimary hAll.2.1), if_pos hClient, hClient]
        simp [buildClusterLvmDiskMappings, hNone]
    · rw [if_neg (fun hAll => hClient hAll.2.2), if_neg hClient]
  unfold planMappings
  rw [hMappings]
  by_cases hClient : r.diskMappings = []
  · rw [if_pos hClient, hClient]
    split
    · rfl
    · rename_i hNone
      exact (Classical.not_not.mp hNone).symm
  · rw [if_neg hClient, ite_self]

theorem resolvePvPathOnNode_eq_iff {pre : ClusterLvmPreflightResult} {sanId : String}
    (hAction : r.action ≠ .vgcreate)
    (hPre : runClusterLvmPreflight r.nodes r.primarySanId r.action.toVolumeAction r.body
      r.diskMappings = .ok pre) :
    resolvePvPathOnNode sanId r.primarySanId r.body.path (planMappings pre r.diskMappings) =
        resolvePvPathOnNode sanId r.primarySanId r.body.path r.diskMappings ↔
      r.diskMappings ≠ [] ∨ sanId = r.primarySanId ∨
        ∀ path ∈ r.foundPath sanId, path = r.body.path := by
  rw [planMappings_eq hAction hPre]
  unfold resolvePvPathOnNode foundPath
  by_cases hPrimary : sanId = r.primarySanId
  · simp [hPrimary]
  by_cases hClient : r.diskMappings = []
  · simp only [beq_iff_eq, hPrimary, if_false, hClient, if_true, findMapping, List.find?_nil,
      Option.map_none, Option.getD_none, ne_eq, not_true_eq_false, false_or]
    cases (buildClusterLvmDiskMappings r.primarySanId r.body.path r.nodes []).find? fun m =>
        m.sourcePath == r.body.path && m.peerSanId == sanId with
    | none => simp
    | some m => simp
  · simp [hClient]

end DeviceRequest

/-- The execution of a plan hands the planned paths to the commands exactly if, where the client has
given no mapping for a physical volume, the path that is found for each peer is that of the primary
node; the volume groups always get theirs. -/
theorem DeviceRequest.runsAsPlanned_iff [CaseMapping] (r : DeviceRequest) :
    r.RunsAsPlanned ↔ ∀ entry ∈ r.sent,
      r.action = .vgcreate ∨ r.diskMappings ≠ [] ∨ entry.1.sanId = r.primarySanId ∨
        ∀ path ∈ r.foundPath entry.1.sanId, path = r.body.path := by
  have hEntry (entry : ClusterLvmNodeResult × List String) (h : entry ∈ r.sent) :
      (∃ paths, entry.2 = r.action.args r.body paths ∧
        entry.1.command = some (r.action.preview r.body paths)) ↔
      r.action = .vgcreate ∨ r.diskMappings ≠ [] ∨ entry.1.sanId = r.primarySanId ∨
        ∀ path ∈ r.foundPath entry.1.sanId, path = r.body.path := by
    obtain ⟨pre, node, hPre, hSanId, hShown, hSent⟩ := exists_of_mem_sent h
    rw [hSent, hShown, hSanId]
    by_cases hAction : r.action = .vgcreate
    · refine iff_of_true ⟨r.sentPaths node.sanId, rfl, ?_⟩ (Or.inl hAction)
      obtain ⟨hMappings, hNodes⟩ := mappings_runClusterLvmPreflight hPre
      have hSame : r.plannedPaths pre node = r.sentPaths node.sanId := by
        simp [plannedPaths, sentPaths, hAction, hMappings, hNodes, preflightMappings,
          DeviceAction.toVolumeAction]
      rw [hSame]
    · have hPlanned : r.plannedPaths pre node = [resolvePvPathOnNode node.sanId r.primarySanId
          r.body.path (planMappings pre r.diskMappings)] := by
        cases hKind : r.action with
        | vgcreate => exact absurd hKind hAction
        | pvcreate => simp only [plannedPaths, hKind]
        | pvremove => simp only [plannedPaths, hKind]
      have hExecuted : r.sentPaths node.sanId = [resolvePvPathOnNode node.sanId r.primarySanId
          r.body.path r.diskMappings] := by
        cases hKind : r.action with
        | vgcreate => exact absurd hKind hAction
        | pvcreate => simp only [sentPaths, hKind]
        | pvremove => simp only [sentPaths, hKind]
      rw [← resolvePvPathOnNode_eq_iff hAction hPre, or_iff_right hAction, hPlanned, hExecuted]
      constructor
      · rintro ⟨paths, hArgs, hPreview⟩
        obtain rfl := DeviceAction.args_injective hArgs
        exact DeviceAction.preview_injective hAction (Option.some.inj hPreview)
      · intro hSame
        exact ⟨_, rfl, by rw [hSame]⟩
  unfold RunsAsPlanned
  constructor
  · exact fun hRuns entry h => (hEntry entry h).mp (hRuns entry h)
  · exact fun hCondition entry h => (hEntry entry h).mpr (hCondition entry h)

def diskNode (sanId name : String) : ClusterLvmNodeInventory where
  sanId := sanId
  label := sanId
  overview :=
    { tools := { pvcreate := true }
      candidates := [{ path := "/dev/" ++ name, sizeBytes := 1000000000 }] }
  blockDevices :=
    [{ name := name
       path := "/dev/" ++ name
       sizeBytes := 1000000000
       type := .disk
       serial := some "S1"
       wwn := some "0x5000"
       eligibleForMd := true }]

def renamedDiskRequest : DeviceRequest where
  action := .pvcreate
  clusterId := "c1"
  body := { path := "/dev/sda", confirmation := "PVCREATE CLUSTER /dev/sda" }
  clusterExecution := { primarySanId := "a" }
  execution :=
    { inventories := fun _ => [diskNode "a" "sda", diskNode "b" "sdb"]
      answers := fun _ =>
        { status := some .connected
          exec := fun _ => .error "timeout"
          lvs := .ok [] } }

/-- The plan names the path on the peer, and the peer is sent the path on the primary node. -/
theorem renamedDisk_not_as_planned :
    ¬∀ (mapping : CaseMapping) (r : DeviceRequest), @DeviceRequest.RunsAsPlanned r mapping := by
  intro hAll
  let planned : ClusterLvmNodeResult :=
    { sanId := "b", label := "b", participation := .execute
      command := some "pvcreate -y -v /dev/sdb" }
  have hSent : (planned, ["pvcreate", "-y", "-v", "/dev/sda"]) ∈
      @DeviceRequest.sent renamedDiskRequest ⟨id⟩ := by
    decide +kernel
  obtain ⟨paths, hArgs, hCommand⟩ := hAll ⟨id⟩ renamedDiskRequest _ hSent
  have hPaths : ["/dev/sda"] = paths :=
    @DeviceAction.args_injective .pvcreate renamedDiskRequest.body _ _ hArgs
  subst hPaths
  have hText : some "pvcreate -y -v /dev/sdb" = some "pvcreate -y -v /dev/sda" := hCommand
  exact absurd hText (by decide)

end EsosWebui.Lvm
