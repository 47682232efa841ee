import EsosWebui.Lvm.ClusterExecution

/-! What the success of an LVM request says about the exit codes of its commands. -/
namespace EsosWebui.Lvm

open Js

section

variable {action : LvmAction} {payload : LvmPayload} {primarySanId : String}
  {inventories : List ClusterLvmNodeInventory} {diskMappings : List ClusterLvmDiskMapping}
  {answers : NodeAnswers} {node : ClusterLvmNodeResult}

def commandOf [CaseMapping] (action : LvmAction) (payload : LvmPayload) (primarySanId : String)
    (inventories : List ClusterLvmNodeInventory) (diskMappings : List ClusterLvmDiskMapping)
    (answers : NodeAnswers) (sanId : String) : Option (List String) :=
  if answers.status = some .connected then
    nodeArgs action payload primarySanId inventories diskMappings sanId
  else none

structure NodeTurn.Failed (turn : NodeTurn) (node : ClusterLvmNodeResult) : Prop where
  error : ∃ msg, turn.error = some (node.label ++ ": " ++ msg)
  nodeResult : ∃ result, turn.nodeResult = some result ∧ result.sanId = node.sanId ∧
    result.participation = .failed

theorem lvCreateTurn_failed {result : Ssh.ExecResult} (hCode : result.code ≠ 0)
    (args : List String) : (lvCreateTurn node payload answers result args).Failed node := by
  unfold lvCreateTurn
  dsimp only
  rw [if_pos hCode]
  exact ⟨⟨_, rfl⟩, _, rfl, rfl, rfl⟩

theorem exec_of_no_error [CaseMapping] {args : List String}
    (hError : (nodeTurn action payload primarySanId inventories diskMappings answers node).error =
      none)
    (hArgs : nodeArgs action payload primarySanId inventories diskMappings node.sanId =
      some args) :
    answers.status = some .connected ∧ ∃ result, answers.exec (shellCommand args) = .ok result ∧
      (action = .lvcreate → result.code = 0) := by
  unfold nodeTurn at hError
  split at hError
  · cases hError
  · rename_i hStatus
    rw [hArgs] at hError
    dsimp only at hError
    refine ⟨not_not.mp hStatus, ?_⟩
    cases hExec : answers.exec (shellCommand args) with
    | error msg =>
      rw [hExec] at hError
      cases hError
    | ok result =>
      refine ⟨result, rfl, fun hAction => ?_⟩
      rw [hExec] at hError
      dsimp only at hError
      rw [if_pos hAction] at hError
      by_contra hCode
      obtain ⟨msg, hSome⟩ := (lvCreateTurn_failed hCode args).error
      rw [hError] at hSome
      cases hSome

theorem nodeTurn_of_exec [CaseMapping] {args : List String} {result : Ssh.ExecResult}
    (hCommand : commandOf action payload primarySanId inventories diskMappings answers node.sanId =
      some args)
    (hExec : answers.exec (shellCommand args) = .ok result) :
    nodeTurn action payload primarySanId inventories diskMappings answers node =
      if action = .lvcreate then lvCreateTurn node payload answers result args
      else resolvedTurn node result args := by
  unfold commandOf at hCommand
  split at hCommand
  · rename_i hStatus
    unfold nodeTurn
    rw [if_neg (not_not.mpr hStatus), hCommand]
    dsimp only
    rw [hExec]
  · cases hCommand

theorem nodeArgs_isSome [CaseMapping] (hAction : action ≠ .bindScst) (sanId : String) :
    ∃ args, nodeArgs action payload primarySanId inventories diskMappings sanId = some args := by
  cases action <;> first | exact ⟨_, rfl⟩ | exact absurd rfl hAction

theorem nodeTurn_isSome [CaseMapping] (hAction : action ≠ .bindScst) :
    (nodeTurn action payload primarySanId inventories diskMappings answers
      node).nodeResult.isSome := by
  unfold nodeTurn
  split
  · rfl
  · obtain ⟨args, hArgs⟩ := nodeArgs_isSome hAction node.sanId
    rw [hArgs]
    dsimp only
    cases answers.exec (shellCommand args) with
    | error msg => rfl
    | ok result =>
      dsimp only
      split
      · unfold lvCreateTurn
        dsimp only
        split
        · rfl
        · split
          · rfl
          · split <;> rfl
      · rfl

end

section

variable [CaseMapping] {execution : Execution} {plan : ClusterLvmExecutionPlan}
  {clusterExecution : ClusterLvmExecutionRequest} {payload : LvmPayload}
  {diskMappings : List ClusterLvmDiskMapping}

def Execution.collected (execution : Execution) (plan : ClusterLvmExecutionPlan)
    (clusterExecution : ClusterLvmExecutionRequest) : List ClusterLvmNodeInventory :=
  execution.inventories ((plan.clusterId.or clusterExecution.clusterId).getD "")

/-- The executed nodes whose command ran and resolved, each with what it resolved with. -/
def Resolves (execution : Execution) (plan : ClusterLvmExecutionPlan)
    (clusterExecution : ClusterLvmExecutionRequest) (payload : LvmPayload)
    (diskMappings : List ClusterLvmDiskMapping) (i : Nat) (node : ClusterLvmNodeResult)
    (resolved : Ssh.ExecResult) : Prop :=
  plan.executed[i]? = some node ∧ ∃ args,
    commandOf plan.action payload clusterExecution.primarySanId
      (execution.collected plan clusterExecution) diskMappings (execution.answers i) node.sanId =
      some args ∧
    (execution.answers i).exec (shellCommand args) = .ok resolved

/-- What a result has to say about the exit codes of the commands: it is a success only if
each ran and exited with 0, and each that exited with another code is reported. -/
structure TellsExitCodes (execution : Execution) (plan : ClusterLvmExecutionPlan)
    (clusterExecution : ClusterLvmExecutionRequest) (payload : LvmPayload)
    (diskMappings : List ClusterLvmDiskMapping) (result : ClusterLvmExecutionResult) : Prop where
  success : result.success = true → plan.action ≠ .bindScst → ∀ i node,
    plan.executed[i]? = some node → ∃ resolved,
      Resolves execution plan clusterExecution payload diskMappings i node resolved ∧
        resolved.code = 0
  failed : ∀ i node resolved,
    Resolves execution plan clusterExecution payload diskMappings i node resolved →
      resolved.code ≠ 0 →
      (∃ nodeResult, result.nodeResults[i]? = some nodeResult ∧ nodeResult.sanId = node.sanId ∧
        nodeResult.participation = .failed) ∧
      ∃ msg, node.label ++ ": " ++ msg ∈ result.errors

theorem executeClusterLvmPlan_eq_ok {result : ClusterLvmExecutionResult}
    (h : executeClusterLvmPlan execution plan clusterExecution payload diskMappings =
      .ok result) :
    result = executionResult plan clusterExecution
      ((plan.clusterId.or clusterExecution.clusterId).getD "")
      (nodeTurns execution plan clusterExecution payload diskMappings
        ((plan.clusterId.or clusterExecution.clusterId).getD "")) := by
  unfold executeClusterLvmPlan at h
  simp only [bind_eq_ok, pure_eq_ok] at h
  obtain ⟨_, -, _, -, _, -, _, -, rfl⟩ := h
  rfl

theorem nodeTurns_getElem? (clusterId : String) (i : Nat) :
    (nodeTurns execution plan clusterExecution payload diskMappings clusterId)[i]? =
      (plan.executed[i]?).map (nodeTurn plan.action payload clusterExecution.primarySanId
        (execution.inventories clusterId) diskMappings (execution.answers i)) :=
  List.getElem?_mapIdx

theorem nodeResults_getElem? (hAction : plan.action ≠ .bindScst) (clusterId : String) (i : Nat) :
    (executionResult plan clusterExecution clusterId (nodeTurns execution plan clusterExecution
      payload diskMappings clusterId)).nodeResults[i]? =
      (plan.executed[i]?).bind fun node => (nodeTurn plan.action payload
        clusterExecution.primarySanId (execution.inventories clusterId) diskMappings
        (execution.answers i) node).nodeResult := by
  let turns := nodeTurns execution plan clusterExecution payload diskMappings clusterId
  have hSome : ∀ turn ∈ turns, turn.nodeResult.isSome = true := by
    intro turn hTurn
    obtain ⟨j, hj⟩ := List.mem_iff_getElem?.mp hTurn
    rw [nodeTurns_getElem?] at hj
    obtain ⟨node, -, rfl⟩ := Option.map_eq_some_iff.mp hj
    exact nodeTurn_isSome hAction
  show (turns.filterMap (·.nodeResult))[i]? = _
  rw [getElem?_filterMap_of_isSome hSome, nodeTurns_getElem?, Option.bind_map]
  rfl

theorem Resolves.turn {i : Nat} {node : ClusterLvmNodeResult} {resolved : Ssh.ExecResult}
    (h : Resolves execution plan clusterExecution payload diskMappings i node resolved) :
    ∃ args, nodeTurn plan.action payload clusterExecution.primarySanId
      (execution.collected plan clusterExecution) diskMappings (execution.answers i) node =
        if plan.action = .lvcreate then
          lvCreateTurn node payload (execution.answers i) resolved args
        else resolvedTurn node resolved args := by
  obtain ⟨-, args, hCommand, hExec⟩ := h
  exact ⟨args, nodeTurn_of_exec hCommand hExec⟩

theorem Resolves.action_ne {i : Nat} {node : ClusterLvmNodeResult} {resolved : Ssh.ExecResult}
    (h : Resolves execution plan clusterExecution payload diskMappings i node resolved) :
    plan.action ≠ .bindScst := by
  obtain ⟨-, args, hCommand, -⟩ := h
  intro hAction
  rw [hAction, commandOf] at hCommand
  split at hCommand <;> cases hCommand

/-- The condition: no command that resolves exits with another code than 0, except `lvcreate`. -/
def ExitsWithZero (execution : Execution) (plan : ClusterLvmExecutionPlan)
    (clusterExecution : ClusterLvmExecutionRequest) (payload : LvmPayload)
    (diskMappings : List ClusterLvmDiskMapping) : Prop :=
  plan.action = .lvcreate ∨ ∀ i node resolved,
    Resolves execution plan clusterExecution payload diskMappings i node resolved →
      resolved.code = 0

theorem success_of_exitsWithZero
    (hZero : ExitsWithZero execution plan clusterExecution payload diskMappings)
    {clusterId : String}
    (hCluster : clusterId = (plan.clusterId.or clusterExecution.clusterId).getD "")
    (hSuccess : (executionResult plan clusterExecution clusterId (nodeTurns execution plan
      clusterExecution payload diskMappings clusterId)).success)
    (hAction : plan.action ≠ .bindScst) {i : Nat} {node : ClusterLvmNodeResult}
    (hNode : plan.executed[i]? = some node) : ∃ resolved,
      Resolves execution plan clusterExecution payload diskMappings i node resolved ∧
        resolved.code = 0 := by
  subst hCluster
  let turn := nodeTurn plan.action payload clusterExecution.primarySanId
    (execution.collected plan clusterExecution) diskMappings (execution.answers i) node
  have hTurn : turn ∈ nodeTurns execution plan clusterExecution payload diskMappings
      ((plan.clusterId.or clusterExecution.clusterId).getD "") := by
    apply List.mem_of_getElem?
    rw [nodeTurns_getElem?, hNode]
    rfl
  have hError : turn.error = none := by
    have hNil : (nodeTurns execution plan clusterExecution payload diskMappings
        ((plan.clusterId.or clusterExecution.clusterId).getD "")).filterMap (·.error) = [] :=
      List.isEmpty_iff.mp hSuccess
    exact List.filterMap_eq_nil_iff.mp hNil turn hTurn
  obtain ⟨args, hArgs⟩ := nodeArgs_isSome hAction node.sanId
  obtain ⟨hStatus, resolved, hExec, hCode⟩ := exec_of_no_error hError hArgs
  have hResolves : Resolves execution plan clusterExecution payload diskMappings i node resolved := by
    refine ⟨hNode, args, ?_, hExec⟩
    rw [commandOf, if_pos hStatus, hArgs]
  refine ⟨resolved, hResolves, ?_⟩
  rcases hZero with hLvCreate | hAll
  · exact hCode hLvCreate
  · exact hAll i node resolved hResolves

/-- A result tells of the exit codes exactly when the only command that exits with another code
than 0 is `lvcreate`. -/
theorem tellsExitCodes_iff {result : ClusterLvmExecutionResult}
    (h : executeClusterLvmPlan execution plan clusterExecution payload diskMappings =
      .ok result) :
    TellsExitCodes execution plan clusterExecution payload diskMappings result ↔
      ExitsWithZero execution plan clusterExecution payload diskMappings := by
  have hResult := executeClusterLvmPlan_eq_ok h
  constructor
  · intro hTells
    by_cases hAction : plan.action = .lvcreate
    · exact Or.inl hAction
    refine Or.inr fun i node resolved hResolves => ?_
    by_contra hCode
    obtain ⟨⟨nodeResult, hAt, -, hFailed⟩, -⟩ := hTells.failed i node resolved hResolves hCode
    obtain ⟨args, hTurn⟩ := hResolves.turn
    rw [hResult, nodeResults_getElem? hResolves.action_ne, hResolves.1] at hAt
    have hAt : (nodeTurn plan.action payload clusterExecution.primarySanId
        (execution.collected plan clusterExecution) diskMappings (execution.answers i)
        node).nodeResult = some nodeResult := hAt
    rw [hTurn, if_neg hAction] at hAt
    obtain rfl := Option.some.inj hAt
    cases hFailed
  · intro hZero
    refine ⟨fun hSuccess hAction i node hNode =>
      success_of_exitsWithZero hZero rfl (hResult ▸ hSuccess) hAction hNode,
      fun i node resolved hResolves hCode => ?_⟩
    have hAction : plan.action = .lvcreate :=
      hZero.resolve_right fun hAll => hCode (hAll i node resolved hResolves)
    obtain ⟨args, hTurn⟩ := hResolves.turn
    rw [if_pos hAction] at hTurn
    have hReports : (nodeTurn plan.action payload clusterExecution.primarySanId
        (execution.collected plan clusterExecution) diskMappings (execution.answers i)
        node).Failed node := hTurn ▸ lvCreateTurn_failed hCode args
    obtain ⟨⟨msg, hError⟩, nodeResult, hNodeResult, hSanId, hFailed⟩ := hReports
    rw [hResult]
    constructor
    · refine ⟨nodeResult, ?_, hSanId, hFailed⟩
      rw [nodeResults_getElem? hResolves.action_ne, hResolves.1]
      exact hNodeResult
    · refine ⟨msg, List.mem_filterMap.mpr ⟨_, List.mem_of_getElem? (i := i) ?_, hError⟩⟩
      rw [nodeTurns_getElem?, hResolves.1]
      rfl

/-- The success of an LVM request, on a cluster or on a single node, says that its commands
exited with 0 exactly when none of them but `lvcreate` exits with another code. -/
theorem success_tells_exit_codes_iff :
    (∀ (execution : Execution) (plan : ClusterLvmExecutionPlan)
      (clusterExecution : ClusterLvmExecutionRequest) (payload : LvmPayload)
      (diskMappings : List ClusterLvmDiskMapping) (result : ClusterLvmExecutionResult),
      executeClusterLvmPlan execution plan clusterExecution payload diskMappings = .ok result →
      (TellsExitCodes execution plan clusterExecution payload diskMappings result ↔
        ExitsWithZero execution plan clusterExecution payload diskMappings)) ∧
    ∀ (route : StandaloneRoute) (answers : RouteAnswers) (body : LvmPayload),
      (route.handle answers body = .ok () →
        ∃ result, answers.exec (shellCommand (route.args body)) = .ok result ∧
          result.code = 0) ↔
      (route = .lvCreate ∨ ¬ answers.Reaches route ∨
        ∀ result, answers.exec (shellCommand (route.args body)) = .ok result →
          result.code = 0) :=
  ⟨fun _ _ _ _ _ _ h => tellsExitCodes_iff h, StandaloneRoute.success_code_iff⟩

end

/-- The removal of a volume group on two nodes. -/
def vgRemovePlan : ClusterLvmExecutionPlan :=
  { action := .vgremove, clusterId := some "c1", primarySanId := "a"
    confirmationPhrase := "VGREMOVE CLUSTER vg0"
    nodeResults :=
      [{ sanId := "a", label := "A", participation := .execute, command := "vgremove -y -f vg0" },
       { sanId := "b", label := "B", participation := .execute, command := "vgremove -y -f vg0" }]
    okSymmetric := true }

def vgRemovePayload : LvmPayload := { name := "vg0", confirmation := "VGREMOVE CLUSTER vg0" }

def secondExits (code : Nat) : Execution :=
  { inventories := fun _ => []
    answers := fun i =>
      { status := some .connected
        exec := fun _ => .ok ⟨"", "", if i = 1 then code else 0⟩
        lvs := .ok [] } }

def vgRemoved : ClusterLvmExecutionResult :=
  { success := true, action := .vgremove, clusterId := "c1", primarySanId := "a"
    nodeResults :=
      [{ sanId := "a", label := "A", participation := .execute, command := "vgremove -y -f vg0"
         stdout := some "", stderr := some "" },
       { sanId := "b", label := "B", participation := .execute, command := "vgremove -y -f vg0"
         stdout := some "", stderr := some "" }]
    refreshedSanIds := ["a", "b"]
    errors := [] }

theorem success_tells_exit_codes_iff_vgRemove :
    @TellsExitCodes ⟨String.toLower⟩ (secondExits 0) vgRemovePlan { primarySanId := "a" }
        vgRemovePayload [] vgRemoved ↔
      @ExitsWithZero ⟨String.toLower⟩ (secondExits 0) vgRemovePlan { primarySanId := "a" }
        vgRemovePayload [] :=
  (@success_tells_exit_codes_iff ⟨String.toLower⟩).1 (secondExits 0) vgRemovePlan
    { primarySanId := "a" } vgRemovePayload [] vgRemoved (by decide +kernel)

/-- The volume group could not be removed from the second node, and the result is a success. -/
theorem vgRemove_success_not_told :
    @executeClusterLvmPlan ⟨String.toLower⟩ (secondExits 5) vgRemovePlan { primarySanId := "a" }
        vgRemovePayload [] = .ok vgRemoved ∧
      ¬ @TellsExitCodes ⟨String.toLower⟩ (secondExits 5) vgRemovePlan { primarySanId := "a" }
        vgRemovePayload [] vgRemoved := by
  refine ⟨by decide +kernel, fun hTells => ?_⟩
  have hResolves : @Resolves ⟨String.toLower⟩ (secondExits 5) vgRemovePlan
      { primarySanId := "a" } vgRemovePayload [] 1
      { sanId := "b", label := "B", participation := .execute, command := "vgremove -y -f vg0" }
      ⟨"", "", 5⟩ :=
    ⟨by decide +kernel, vgRemoveArgs "vg0", by decide +kernel, by decide +kernel⟩
  obtain ⟨-, msg, hMember⟩ := @TellsExitCodes.failed ⟨String.toLower⟩ _ _ _ _ _ _ hTells 1 _ _
    hResolves (by decide)
  exact absurd hMember List.not_mem_nil

end EsosWebui.Lvm
