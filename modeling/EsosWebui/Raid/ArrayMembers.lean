import EsosWebui.Raid.AssemblePlan

/-! Of which array the members are that an assembly passes to `mdadm`, by what the
inventory of the node says about their superblocks. -/
namespace EsosWebui.Raid

open Js

def AssembleMdArrayRequest.knownUuid (req : AssembleMdArrayRequest)
    (node : ClusterStorageNodeInventory) : Option String :=
  if isSet req.uuid then req.uuid
  else (findStoppedMdArray node.stoppedMdArrays (trimString req.name) req.uuid).bind (·.uuid)

def AssembleMdArrayRequest.isRequested (req : AssembleMdArrayRequest)
    (node : ClusterStorageNodeInventory) (arr : StoppedMdArray) : Bool :=
  let name := trimString req.name
  if isSet (req.knownUuid node) then arr.uuid == req.knownUuid node
  else arr.name == name || arr.path == some s!"/dev/{name}"

def RaidBlockDevice.examinedUuid (dev : RaidBlockDevice) : Option String :=
  dev.mdExamine.bind (·.uuid)

def AssembleMdArrayRequest.superblockOn (req : AssembleMdArrayRequest)
    (node : ClusterStorageNodeInventory) (path : String) : Bool :=
  (node.stoppedMdArrays.any fun arr => req.isRequested node arr && arr.presentPaths.contains path) ||
  (isSet (req.knownUuid node) && node.blockDevices.any fun dev =>
    dev.path == path && dev.examinedUuid == req.knownUuid node)

def AssembleMdArrayRequest.otherSuperblockOn (req : AssembleMdArrayRequest)
    (node : ClusterStorageNodeInventory) (path : String) : Bool :=
  (node.stoppedMdArrays.any fun arr =>
    !req.isRequested node arr && arr.presentPaths.contains path) ||
  (isSet (req.knownUuid node) && node.blockDevices.any fun dev =>
    dev.path == path && isSet dev.examinedUuid && dev.examinedUuid != req.knownUuid node)

def AssembleMdArrayRequest.carries (req : AssembleMdArrayRequest)
    (node : ClusterStorageNodeInventory) (path : String) : Bool :=
  req.superblockOn node path && !req.otherSuperblockOn node path

/-- All that a plan assembles on a node are members of the requested array. -/
def NeverMixes (cluster : Cluster) (req : AssembleMdArrayRequest)
    (results : List ClusterMdNodeResult) : Prop :=
  ∀ result ∈ nodesToExecute results, ∀ node ∈ cluster.nodes, node.sanId = result.sanId →
    (∃ command, buildMdAssembleCommand req.effectiveName result.members = .ok command ∧
      result.command = some command) ∧
    ∀ path ∈ result.members, req.carries node path = true

/-- What the members have to be for a node to get those of the requested array only, by
where they come from: a selection, a stopped array or the first partition with metadata. -/
structure RequestedOnly [CaseMapping] (req : AssembleMdArrayRequest)
    (source node : ClusterStorageNodeInventory) : Prop where
  /-- The members are selected, or mapped from a selection. -/
  selected : complete (req.selection source node) = true →
    ∀ path ∈ req.selection source node, req.carries node path = true
  /-- The members are those of the stopped array that the name, path or identifier matches. -/
  stopped : complete (req.selection source node) = false → ∀ arr,
    findStoppedMdArray node.stoppedMdArrays (trimString req.name) req.uuid = some arr →
      ∀ path ∈ arr.memberPaths, req.carries node path = true
  /-- The member is the first partition that has metadata, of whichever array. -/
  scanned : complete (req.selection source node) = false →
    findStoppedMdArray node.stoppedMdArrays (trimString req.name) req.uuid = none →
      ∀ dev, node.blockDevices.find? RaidBlockDevice.hasMdSignal = some dev → dev.path ≠ "" →
        isSet req.uuid = true ∧
          (∃ examined ∈ node.blockDevices, examined.path = dev.path ∧
            examined.examinedUuid = req.uuid) ∧
          req.otherSuperblockOn node dev.path = false

theorem members_of_assemblable {node : ClusterStorageNodeInventory}
    {req : AssembleMdArrayRequest} (h : (req.report node).assemblable) :
    (∃ arr, findStoppedMdArray node.stoppedMdArrays (trimString req.name) req.uuid = some arr ∧
      (req.report node).members = arr.memberPaths) ∨
    findStoppedMdArray node.stoppedMdArrays (trimString req.name) req.uuid = none ∧
      (req.report node).members =
        ((node.blockDevices.find? RaidBlockDevice.hasMdSignal).map (·.path)).toList := by
  unfold AssembleMdArrayRequest.report classifyMdArrayNodeState at h ⊢
  dsimp only at h ⊢
  split at h
  · cases h
  split at h
  · cases h
  split at h
  · cases h
  rename_i hSsh hTools _ _
  rw [if_neg hSsh, if_neg hTools]
  split at h
  · rename_i arr hStopped
    exact Or.inl ⟨arr, hStopped, rfl⟩
  rename_i hStopped
  refine Or.inr ⟨hStopped, ?_⟩
  split at h
  · cases h
  split at h
  · rename_i members reasons hSignal
    unfold hasMetadataOnlySignal at hSignal
    rw [hStopped] at hSignal
    simp only [Option.map_none, Option.getD_none, ne_eq, not_true_eq_false, if_false] at hSignal
    cases hFound : node.blockDevices.find? RaidBlockDevice.hasMdSignal with
    | some dev =>
      rw [hFound] at hSignal
      cases hSignal
      rfl
    | none =>
      rw [hFound] at hSignal
      obtain ⟨_, -, hSome⟩ := Option.map_eq_some_iff.mp hSignal
      cases hSome
      rfl
  · cases h

theorem ne_empty_of_memberPaths {arr : StoppedMdArray} {path : String}
    (h : path ∈ arr.memberPaths) : path ≠ "" := by
  obtain ⟨-, hPath⟩ := List.mem_filter.mp h
  simp only [Bool.and_eq_true, bne_iff_ne, ne_eq] at hPath
  exact hPath.1

theorem carries_of_not_found {node : ClusterStorageNodeInventory} {req : AssembleMdArrayRequest}
    (h : findStoppedMdArray node.stoppedMdArrays (trimString req.name) req.uuid = none)
    (path : String) :
    req.carries node path = true ↔ isSet req.uuid = true ∧
      (∃ examined ∈ node.blockDevices, examined.path = path ∧ examined.examinedUuid = req.uuid) ∧
      req.otherSuperblockOn node path = false := by
  have hNone : ∀ arr ∈ node.stoppedMdArrays,
      matchesArray (trimString req.name) req.uuid arr.name arr.path arr.uuid = false :=
    fun arr hArr => by simpa using List.find?_eq_none.mp h arr hArr
  have hKnown : req.knownUuid node = if isSet req.uuid then req.uuid else none := by
    rw [AssembleMdArrayRequest.knownUuid, h]
    rfl
  have hRequested : ∀ arr ∈ node.stoppedMdArrays, req.isRequested node arr = false := by
    intro arr hArr
    have hMatch := hNone arr hArr
    rw [AssembleMdArrayRequest.isRequested, hKnown]
    cases hUuid : isSet req.uuid with
    | true =>
      rw [matchesArray, hUuid] at hMatch
      simp_all
    | false =>
      rw [matchesArray, hUuid] at hMatch
      simpa [isSet] using hMatch
  have hStopped : (node.stoppedMdArrays.any fun arr =>
      req.isRequested node arr && arr.presentPaths.contains path) = false := by
    rw [List.any_eq_false]
    intro arr hArr
    simp [hRequested arr hArr]
  unfold AssembleMdArrayRequest.carries AssembleMdArrayRequest.superblockOn
  rw [hStopped, hKnown]
  cases hUuid : isSet req.uuid with
  | true => simp [hUuid]
  | false => simp [isSet]

section

variable [CaseMapping] {req : AssembleMdArrayRequest} {source node : ClusterStorageNodeInventory}

theorem carries_membersOn_iff (h : (req.report node).assemblable) :
    (complete (req.membersOn source node) = true →
      ∀ path ∈ req.membersOn source node, req.carries node path = true) ↔
      RequestedOnly req source node := by
  unfold AssembleMdArrayRequest.membersOn
  cases hSelection : complete (req.selection source node) with
  | true =>
    simp only [if_true, hSelection, forall_const]
    constructor
    · intro hCarries
      exact ⟨fun _ => hCarries, by simp [hSelection], by simp [hSelection]⟩
    · intro hOnly
      exact hOnly.selected hSelection
  | false =>
    simp only [Bool.false_eq_true, if_false]
    rcases members_of_assemblable h with ⟨arr, hArr, hMembers⟩ | ⟨hArr, hMembers⟩
    · rw [hMembers]
      constructor
      · intro hCarries
        refine ⟨by simp [hSelection], ?_, by simp [hArr]⟩
        intro _ other hOther path hPath
        obtain rfl := Option.some.inj (hArr.symm.trans hOther)
        have hComplete : complete arr.memberPaths = true :=
          complete_iff.mpr ⟨List.ne_nil_of_mem hPath, fun m => ne_empty_of_memberPaths⟩
        exact hCarries hComplete path hPath
      · intro hOnly _
        exact hOnly.stopped hSelection arr hArr
    · rw [hMembers]
      constructor
      · intro hCarries
        refine ⟨by simp [hSelection], by simp [hArr], ?_⟩
        intro _ _ dev hDev hPath
        have hComplete : complete [dev.path] = true := by simp [complete_iff, hPath]
        rw [hDev] at hCarries
        exact (carries_of_not_found hArr dev.path).mp
          (hCarries hComplete dev.path List.mem_cons_self)
      · intro hOnly hComplete path hPath
        cases hFound : node.blockDevices.find? RaidBlockDevice.hasMdSignal with
        | none => simp [hFound] at hPath
        | some dev =>
          rw [hFound] at hPath hComplete
          obtain rfl : path = dev.path := List.mem_singleton.mp hPath
          have hSet : dev.path ≠ "" := (complete_iff.mp hComplete).2 _ List.mem_cons_self
          exact (carries_of_not_found hArr dev.path).mpr
            (hOnly.scanned hSelection hArr dev hFound hSet)

end

/-- A plan assembles members of the requested array only exactly when, on each node where the
array can be assembled, they are so where they come from. -/
theorem assembly_never_mixes_iff [Host] {cluster : Cluster} {req : AssembleMdArrayRequest}
    {recoveryModeInput : Option ClusterMdRecoveryMode} {plan : ClusterMdPlan ClusterMdRecoveryMode}
    {source : ClusterStorageNodeInventory} (hSource : source ∈ cluster.nodes)
    (hPrimary : source.sanId = req.primarySanId)
    (h : buildAssembleMdClusterExecutionPlan cluster req recoveryModeInput = .ok plan) :
    NeverMixes cluster req plan.nodeResults ↔
      ∀ node ∈ cluster.nodes, (req.report node).assemblable = true → RequestedOnly req source node := by
  obtain ⟨run, -, -, -, hNodes, -⟩ := buildAssembleMdClusterExecutionPlan_eq_ok h
  obtain rfl := run.source_eq hSource hPrimary
  have hPerm := orderNodes_perm cluster.nodes req.primarySanId
  constructor
  · intro hNever node hNode hAssemblable
    rw [← carries_membersOn_iff hAssemblable]
    intro hComplete path hPath
    obtain ⟨result, hResult, hOn⟩ := exists_of_forall₂_left hNodes (hPerm.symm.subset hNode)
    have hExecute := hOn.execute_iff.mpr ⟨hAssemblable, hComplete⟩
    have hMem : result ∈ nodesToExecute plan.nodeResults :=
      List.mem_filter.mpr ⟨hResult, by simp [hExecute]⟩
    apply (hNever result hMem node hNode hOn.sanId.symm).2
    rw [hOn.members hExecute]
    exact hPath
  · intro hOnly result hMem node hNode hId
    obtain ⟨hResult, hExecutes⟩ := List.mem_filter.mp hMem
    have hExecute : result.participation = .execute := by simpa using hExecutes
    obtain ⟨other, hOther, hOn⟩ := exists_of_forall₂_right hNodes hResult
    obtain rfl := cluster.eq_of_sanId hNode (hPerm.subset hOther) (hId.trans hOn.sanId)
    obtain ⟨hAssemblable, hComplete⟩ := hOn.execute_iff.mp hExecute
    rw [hOn.members hExecute]
    exact ⟨hOn.command hExecute,
      (carries_membersOn_iff hAssemblable).mpr (hOnly node hNode hAssemblable) hComplete⟩

def examinedPeerCluster : Cluster where
  nodes :=
    [{ sanId := "a", label := "A", tools := some { mdadm := true }
       stoppedMdArrays :=
         [{ name := "md0", uuid := some "u0", members := [⟨"/dev/sda1", true⟩] }] },
      { sanId := "b", label := "B", tools := some { mdadm := true }
        blockDevices :=
          [{ name := "sdb1", path := "/dev/sdb1", type := .part, hasMdSuperblock := true
             mdExamine := some { uuid := some "u0" } }] }]
  unique := by decide

def examinedPeerRequest : AssembleMdArrayRequest where
  name := "md0"
  uuid := some "u0"
  clusterExecution := { primarySanId := "a" }

theorem assembly_never_mixes_iff_examinedPeer :
    ∃ plan, @buildAssembleMdClusterExecutionPlan anyHost examinedPeerCluster examinedPeerRequest
        none = .ok plan ∧
      NeverMixes examinedPeerCluster examinedPeerRequest plan.nodeResults := by
  refine exists_ok_of_isOk (by decide +kernel) fun plan hPlan =>
    (@assembly_never_mixes_iff anyHost _ _ _ _ _ List.mem_cons_self rfl hPlan).mpr ?_
  intro node hNode hAssemblable
  obtain rfl | hNode := List.mem_cons.mp hNode
  · exact @RequestedOnly.mk anyHost.toCaseMapping _ _ _ (fun _ => by decide +kernel)
      (fun hFalse => absurd hFalse (by decide +kernel))
      (fun hFalse => absurd hFalse (by decide +kernel))
  · obtain rfl := List.mem_singleton.mp hNode
    refine @RequestedOnly.mk anyHost.toCaseMapping _ _ _
      (fun hTrue => absurd hTrue (by decide +kernel)) (fun _ arr hArr => ?_)
      (fun _ _ dev hDev _ => ?_)
    · exact absurd (List.mem_of_find?_eq_some hArr) List.not_mem_nil
    · obtain rfl := List.mem_singleton.mp (List.mem_of_find?_eq_some hDev)
      decide +kernel

def foreignMemberCluster : Cluster where
  nodes :=
    [{ sanId := "a", label := "A", tools := some { mdadm := true }
       mdArrays :=
         [{ name := "md0", path := "/dev/md0", uuid := some "u0",
            members := [⟨some "/dev/sda1", []⟩] }] },
      { sanId := "b", label := "B", tools := some { mdadm := true }
        blockDevices :=
          [{ name := "sdb1", path := "/dev/sdb1", type := .part, hasMdSuperblock := true
             mdExamine := some { uuid := some "u5" } }]
        stoppedMdArrays :=
          [{ name := "md5", uuid := some "u5", members := [⟨"/dev/sdb1", true⟩] }] }]
  unique := by decide

/-- The first node's array is assembled on the second one from the member of the other array. -/
theorem foreignMember_mixed :
    ∃ plan, @buildAssembleMdClusterExecutionPlan anyHost foreignMemberCluster examinedPeerRequest
        none = .ok plan ∧
      (nodesToExecute plan.nodeResults).map (fun result => (result.sanId, result.command)) =
        [("b", some "mdadm --assemble /dev/md0 /dev/sdb1")] ∧
      ¬ NeverMixes foreignMemberCluster examinedPeerRequest plan.nodeResults := by
  refine exists_ok_of_map
    (f := fun plan => (nodesToExecute plan.nodeResults).map fun result =>
      (result.sanId, result.command, result.members))
    (c := [("b", some "mdadm --assemble /dev/md0 /dev/sdb1", ["/dev/sdb1"])])
    (by decide +kernel) fun plan _ hResults => ?_
  refine ⟨?_, fun hNever => ?_⟩
  · simpa using congrArg (List.map fun result => (result.1, result.2.1)) hResults
  · obtain ⟨result, hMem, hResult⟩ := List.mem_map.mp (hResults ▸ List.mem_cons_self)
    obtain ⟨hId, hRest⟩ := Prod.mk.inj hResult
    obtain ⟨-, hMembers⟩ := Prod.mk.inj hRest
    have hCarries := (hNever result hMem _ (List.mem_cons_of_mem _ List.mem_cons_self)
      hId.symm).2 "/dev/sdb1" (hMembers ▸ List.mem_cons_self)
    exact absurd hCarries (by decide +kernel)

end EsosWebui.Raid
