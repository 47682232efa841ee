import EsosWebui.Raid.AssemblePlan
import EsosWebui.Raid.CleanupPlan
import EsosWebui.Raid.StopPlan

/-! Nodes that are registered read-only, and whether plans leave them out. -/
namespace EsosWebui.Raid

open Js

/-- No command is planned for a node that is registered read-only. -/
def LeavesOutReadOnly (cluster : Cluster) (results : List ClusterMdNodeResult) : Prop :=
  ∀ node ∈ cluster.nodes, node.readOnly = true →
    node.sanId ∉ (nodesToExecute results).map (·.sanId)

theorem leavesOutReadOnly_iff {cluster : Cluster} {primarySanId : String}
    {results : List ClusterMdNodeResult} {eligible : ClusterStorageNodeInventory → Prop}
    (h : ExecutesWhere eligible (orderNodes cluster.nodes primarySanId) results) :
    LeavesOutReadOnly cluster results ↔
      ∀ node ∈ cluster.nodes, node.readOnly = true → ¬ eligible node := by
  constructor
  · intro hOut node hNode hReadOnly hEligible
    exact hOut node hNode hReadOnly ((h.executes_iff hNode).mpr hEligible)
  · intro hNone node hNode hReadOnly hExecuted
    exact hNone node hNode hReadOnly ((h.executes_iff hNode).mp hExecuted)

section

variable [Host]

theorem cleanup_leavesOutReadOnly_iff {cluster : Cluster} {kind : CleanupKind}
    {clusterExecution : ClusterMdExecutionRequest} {payload : Payload}
    {plan : ClusterMdPlan (Option ClusterMdRecoveryMode)}
    {recoveryModeInput : Option ClusterMdRecoveryMode} {source : ClusterStorageNodeInventory}
    (hCleanup : isCleanupClusterAction kind.action)
    (hSelected : (cleanupPreflight kind clusterExecution payload).selectedPaths = payload.members)
    (hSource : source ∈ cluster.nodes) (hPrimary : source.sanId = clusterExecution.primarySanId)
    (h : buildCleanupClusterExecutionPlan cluster kind clusterExecution payload.members payload
      recoveryModeInput = .ok plan) :
    LeavesOutReadOnly cluster plan.nodeResults ↔ ∀ node ∈ cluster.nodes, node.readOnly = true →
      ¬ Cleanable (cleanupPreflight kind clusterExecution payload) source node := by
  obtain ⟨run, -, hResults, -⟩ := buildCleanupClusterExecutionPlan_eq_ok hCleanup h
  obtain rfl := run.source_eq hSource hPrimary
  exact leavesOutReadOnly_iff (cleanup_executesWhere run hCleanup hSelected hResults)

/-- A plan leaves the read-only nodes out exactly when none of them has the array active (to
stop it), stopped with known members (to assemble it), or removable (to clean it up). -/
theorem plans_leave_out_readOnly_iff (cluster : Cluster) :
    (∀ req plan, buildStopMdClusterExecutionPlan cluster req = .ok plan →
      (LeavesOutReadOnly cluster plan.nodeResults ↔ ∀ node ∈ cluster.nodes, node.readOnly = true →
        (req.report node).state ≠ .active)) ∧
    (∀ req recoveryModeInput plan, ∀ source ∈ cluster.nodes, source.sanId = req.primarySanId →
      buildAssembleMdClusterExecutionPlan cluster req recoveryModeInput = .ok plan →
      (LeavesOutReadOnly cluster plan.nodeResults ↔ ∀ node ∈ cluster.nodes, node.readOnly = true →
        ¬ ((req.report node).assemblable = true ∧ complete (req.membersOn source node) = true))) ∧
    (∀ req plan, ∀ source ∈ cluster.nodes, source.sanId = req.clusterExecution.primarySanId →
      buildZeroMdClusterExecutionPlan cluster req = .ok plan →
      (LeavesOutReadOnly cluster plan.nodeResults ↔ ∀ node ∈ cluster.nodes, node.readOnly = true →
        ¬ Cleanable (cleanupPreflight zeroCleanup req.clusterExecution req.payload) source node)) ∧
    ∀ req plan, ∀ source ∈ cluster.nodes, source.sanId = req.clusterExecution.primarySanId →
      buildWipeMdClusterExecutionPlan cluster req = .ok plan →
      (LeavesOutReadOnly cluster plan.nodeResults ↔ ∀ node ∈ cluster.nodes, node.readOnly = true →
        ¬ Cleanable (cleanupPreflight wipeCleanup req.clusterExecution req.payload) source node) := by
  refine ⟨?stop, ?assemble, ?zero, ?wipe⟩
  case stop =>
    intro req plan h
    exact leavesOutReadOnly_iff (stop_executesWhere h)
  case assemble =>
    intro req recoveryModeInput plan source hSource hPrimary h
    obtain ⟨run, -, -, -, hNodes, -⟩ := buildAssembleMdClusterExecutionPlan_eq_ok h
    obtain rfl := run.source_eq hSource hPrimary
    exact leavesOutReadOnly_iff (assemble_executesWhere hNodes)
  case zero =>
    intro req plan source hSource hPrimary h
    obtain ⟨_, -, hPlan⟩ := bind_eq_ok.mp h
    exact @cleanup_leavesOutReadOnly_iff _ cluster zeroCleanup req.clusterExecution req.payload
      plan _ source rfl rfl hSource hPrimary hPlan
  case wipe =>
    intro req plan source hSource hPrimary h
    exact @cleanup_leavesOutReadOnly_iff _ cluster wipeCleanup req.clusterExecution req.payload
      plan _ source rfl rfl hSource hPrimary h

end

/-- A node that runs one array and has another one stopped, and a read-only node. -/
def readOnlyPeerCluster : Cluster where
  nodes :=
    [{ sanId := "a", label := "A", tools := some { mdadm := true }
       blockDevices :=
         [{ name := "sdb1", path := "/dev/sdb1", type := .part, hasMdSuperblock := true }]
       mdArrays := [{ name := "md0", path := "/dev/md0", members := [⟨some "/dev/sda1", []⟩] }]
       stoppedMdArrays := [{ name := "md1", raidDevices := 1, members := [⟨"/dev/sdb1", true⟩] }] },
      { sanId := "b", label := "B", readOnly := true, tools := some { mdadm := true } }]
  unique := by decide

def onPrimary : ClusterMdExecutionRequest := { primarySanId := "a" }

theorem plans_leave_out_readOnly_iff_peer :
    (∃ plan, @buildStopMdClusterExecutionPlan anyHost readOnlyPeerCluster
        { primarySanId := "a", arrayName := "md0" } = .ok plan ∧
      LeavesOutReadOnly readOnlyPeerCluster plan.nodeResults) ∧
    (∃ plan, @buildAssembleMdClusterExecutionPlan anyHost readOnlyPeerCluster
        { name := "md1", clusterExecution := onPrimary } none = .ok plan ∧
      LeavesOutReadOnly readOnlyPeerCluster plan.nodeResults) ∧
    (∃ plan, @buildZeroMdClusterExecutionPlan anyHost readOnlyPeerCluster
        { members := ["/dev/sdb1"], clusterExecution := onPrimary } = .ok plan ∧
      LeavesOutReadOnly readOnlyPeerCluster plan.nodeResults) ∧
    ∃ plan, @buildWipeMdClusterExecutionPlan anyHost readOnlyPeerCluster
        { members := ["/dev/sdb1"], clusterExecution := onPrimary } = .ok plan ∧
      LeavesOutReadOnly readOnlyPeerCluster plan.nodeResults := by
  obtain ⟨hStop, hAssemble, hZero, hWipe⟩ :=
    @plans_leave_out_readOnly_iff anyHost readOnlyPeerCluster
  have hUnmapped : ∀ kind : CleanupKind, ∀ node ∈ readOnlyPeerCluster.nodes,
      node.readOnly = true → kind = zeroCleanup ∨ kind = wipeCleanup →
      (@ClusterStoragePreflightRequest.membersOn anyHost.toCaseMapping
        (cleanupPreflight kind onPrimary { members := ["/dev/sdb1"] })
        (readOnlyPeerCluster.nodes.head (by decide)) node).length ≠ 1 := by
    rintro kind node hNode hReadOnly (rfl | rfl)
    · revert node
      decide +kernel
    · revert node
      decide +kernel
  refine ⟨?_, ?_, ?_, ?_⟩
  · exact exists_ok_of_isOk (by decide +kernel) fun plan hPlan =>
      (hStop _ _ hPlan).mpr (by decide +kernel)
  · exact exists_ok_of_isOk (by decide +kernel) fun plan hPlan =>
      (hAssemble _ _ _ _ List.mem_cons_self rfl hPlan).mpr (by decide +kernel)
  · exact exists_ok_of_isOk (by decide +kernel) fun plan hPlan =>
      (hZero _ _ _ List.mem_cons_self rfl hPlan).mpr
        fun node hNode hReadOnly hCleanable => hUnmapped zeroCleanup node hNode hReadOnly
          (Or.inl rfl) (@Cleanable.mapped anyHost.toCaseMapping _ _ _ hCleanable)
  · exact exists_ok_of_isOk (by decide +kernel) fun plan hPlan =>
      (hWipe _ _ _ List.mem_cons_self rfl hPlan).mpr
        fun node hNode hReadOnly hCleanable => hUnmapped wipeCleanup node hNode hReadOnly
          (Or.inr rfl) (@Cleanable.mapped anyHost.toCaseMapping _ _ _ hCleanable)

def readOnlyActiveCluster : Cluster where
  nodes :=
    [{ sanId := "a", label := "A", readOnly := true, tools := some { mdadm := true }
       mdArrays := [{ name := "md0", path := "/dev/md0", members := [⟨some "/dev/sda1", []⟩] }] },
      { sanId := "b", label := "B", tools := some { mdadm := true } }]
  unique := by decide

theorem readOnlyActive_not_left_out :
    ∃ plan, @buildStopMdClusterExecutionPlan anyHost readOnlyActiveCluster
        { primarySanId := "a", arrayName := "md0" } = .ok plan ∧
      ¬ LeavesOutReadOnly readOnlyActiveCluster plan.nodeResults := by
  refine exists_ok_of_map (f := fun plan => (nodesToExecute plan.nodeResults).map (·.sanId))
    (c := ["a"]) (by decide +kernel) fun plan _ hIds hOut => hOut _ List.mem_cons_self rfl ?_
  rw [hIds]
  exact List.mem_cons_self

end EsosWebui.Raid
