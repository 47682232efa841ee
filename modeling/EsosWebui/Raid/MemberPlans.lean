import EsosWebui.Raid.PlanToken
import EsosWebui.Raid.Targets

/-! Plans for preparing disks, creating an array and adding a member to it on all
nodes of a cluster. -/
namespace EsosWebui.Raid

open Js

def resolveDevice (mappings : List ClusterDiskMapping) (node : ClusterStorageNodeInventory)
    (sourcePath : String) : String × List String :=
  let label := node.label
  match findMapping mappings sourcePath node.sanId with
  | none => ("", [s!"{label} : mapping manquant pour {sourcePath}"])
  | some mapping =>
    if !isSet mapping.targetPath then
      ("", [s!"{label} : mapping manquant pour {sourcePath}"])
    else
      (mapping.targetPath.getD "",
        if mapping.confidence == .none || mapping.blockers.length > 0 then
          [s!"{label} : mapping invalide pour {sourcePath}"]
        else [])

def resolveDevices (preflight : ClusterStoragePreflightResult) (primarySanId : String)
    (selectedPaths : List String) (node : ClusterStorageNodeInventory) :
    List String × List String :=
  if node.sanId = primarySanId then (selectedPaths, [])
  else
    let resolved := selectedPaths.map (resolveDevice preflight.mappings node)
    (resolved.map (·.1), resolved.flatMap (·.2))

def passedPreflight (preflight : ClusterStoragePreflightResult)
    (node : ClusterStorageNodeInventory) : Option RaidPreflightResult :=
  (preflight.perNodePreflights.lookup node.sanId).filter (·.ok)

def unpassedBlocker (node : ClusterStorageNodeInventory) : String :=
  let label := node.label
  s!"{label} : préflight nœud indisponible ou bloquant"

def nodeSource (primarySanId : String) (node : ClusterStorageNodeInventory) : Source :=
  if node.sanId = primarySanId then .primary else .peer

section

variable {plan : Type}

/-- The plans of the nodes, when each has one and nothing is wrong. -/
def collectPlans (statusCode : List String → Nat) (incomplete : String)
    (firstBlockers : List String) (outcomes : List (Option plan × List String)) :
    Except HttpError (List plan) := do
  let plans := outcomes.filterMap (·.1)
  let blockers := firstBlockers ++ outcomes.flatMap (·.2) ++
    if plans.length ≠ outcomes.length then [incomplete] else []
  throwIf (blockers.length > 0) ⟨statusCode blockers, join "; " blockers⟩
  return plans

end

structure ClusterExecution where
  primarySanId : String

def requirePrimary (preflight : ClusterStoragePreflightResult)
    (clusterExecution : Option ClusterExecution) : Except HttpError String := do
  let clusterExecution ← orThrow ⟨400, "clusterExecution.primarySanId requis"⟩
    (clusterExecution.filter (·.primarySanId != ""))
  throwIf (preflight.sourceSanId ≠ clusterExecution.primarySanId)
    ⟨400, "Le préflight cluster ne correspond pas au nœud source demandé"⟩
  return clusterExecution.primarySanId

structure PrepareMdPartitionsRequest where
  disks : List String
  partitionTable : Option String := none
  allowOverwriteSignatures : Bool := false
  clusterExecution : Option ClusterExecution := none

def prepareMdPartitionsPayload (req : PrepareMdPartitionsRequest) : Payload :=
  { disks := req.disks
    partitionTable := req.partitionTable
    allowOverwriteSignatures := req.allowOverwriteSignatures }

structure PrepareMdPartitionsNodePlan where
  sanId : String
  label : String
  role : Option String
  source : Source
  disks : List String
  commands : List String
  preparedPartitions : List String
  preflight : RaidPreflightResult
  status : NodeStatus := .pending

/-- `commandPreview?.split('\n').filter(Boolean) ?? []` -/
def previewedCommands (preflight : RaidPreflightResult) : List String :=
  ((preflight.commandPreview.map fun text =>
    (text.toList.splitOn '\n').map String.ofList).getD []).filter (· != "")

def prepareNodePlan (preflight : ClusterStoragePreflightResult) (primarySanId : String)
    (selectedPaths : List String) (node : ClusterStorageNodeInventory) :
    Option PrepareMdPartitionsNodePlan × List String :=
  let (disks, blockers) := resolveDevices preflight primarySanId selectedPaths node
  if disks.any (· == "") then (none, blockers)
  else
    match passedPreflight preflight node with
    | none => (none, blockers ++ [unpassedBlocker node])
    | some nodePreflight =>
      (some
        { sanId := node.sanId
          label := node.label
          role := node.role
          source := nodeSource primarySanId node
          disks
          commands := previewedCommands nodePreflight
          preparedPartitions := nodePreflight.preparedPartitionPreview.map (·.2)
          preflight := nodePreflight },
        blockers)

def buildPrepareMdPartitionsNodePlans (preflight : ClusterStoragePreflightResult)
    (req : PrepareMdPartitionsRequest) : Except HttpError (List PrepareMdPartitionsNodePlan) := do
  let primarySanId ← requirePrimary preflight req.clusterExecution
  let selectedPaths :=
    selectedStoragePaths .prepareMdPartitions (prepareMdPartitionsPayload req)
  collectPlans (fun _ => 409)
    "Plan multi-nœud incomplet : tous les nœuds du cluster doivent être planifiés" []
    ((orderNodes preflight.nodes primarySanId).map
      (prepareNodePlan preflight primarySanId selectedPaths))

structure CreateMdArrayRequest where
  name : String
  level : String
  devices : List String
  chunkKb : Nat
  clusterExecution : Option ClusterExecution := none

def createMdPayload (req : CreateMdArrayRequest) : Payload :=
  { name := some req.name
    level := some req.level
    chunkKb := some req.chunkKb
    devices := req.devices }

structure CreateMdArrayNodeResult where
  sanId : String
  label : String
  role : Option String
  source : Source
  devices : List String
  command : String
  status : NodeStatus := .pending

def createNodeResult (preflight : ClusterStoragePreflightResult) (primarySanId : String)
    (req : CreateMdArrayRequest) (selectedPaths : List String)
    (node : ClusterStorageNodeInventory) : Option CreateMdArrayNodeResult × List String :=
  let label := node.label
  let (devices, blockers) := resolveDevices preflight primarySanId selectedPaths node
  let found := devices.length
  let selected := selectedPaths.length
  if found = 0 then (none, blockers ++ [s!"{label} : {mdCreateEmptyMembersMessage}"])
  else if devices.any (· == "") then (none, blockers)
  else if found ≠ selected then
    (none, blockers ++
      [s!"{label} : nombre de membres mappés incohérent ({found}/{selected})"])
  else
    match passedPreflight preflight node with
    | none => (none, blockers ++ [unpassedBlocker node])
    | some _ =>
      match buildMdCreateCommand req.name req.level devices req.chunkKb with
      | .error err =>
        let message := err.statusMessage
        (none, blockers ++ [s!"{label} : {message}"])
      | .ok command =>
        (some
          { sanId := node.sanId
            label
            role := node.role
            source := nodeSource primarySanId node
            devices
            command },
          blockers)

def isCreateValidationFailure (blocker : String) : Bool :=
  includes blocker "Au moins un device membre" ||
    includes blocker mdCreateEmptyMembersMessage ||
    includes blocker "nombre de membres mappés incohérent" ||
    includes blocker "commande mdadm invalide" || includes blocker "RAID"

def buildCreateMdArrayNodeResults (preflight : ClusterStoragePreflightResult)
    (req : CreateMdArrayRequest) : Except HttpError (List CreateMdArrayNodeResult) := do
  let primarySanId ← requirePrimary preflight req.clusterExecution
  let selectedPaths := selectedStoragePaths .createMd (createMdPayload req)
  collectPlans (fun blockers => if blockers.any isCreateValidationFailure then 400 else 409)
    "Plan création MD multi-nœud incomplet : tous les nœuds du cluster doivent être planifiés"
    (if selectedPaths.length = 0 then [mdCreateEmptyMembersMessage] else [])
    ((orderNodes preflight.nodes primarySanId).map
      (createNodeResult preflight primarySanId req selectedPaths))

structure AddMdMemberInput where
  primarySanId : String
  arrayName : String
  device : String
  intent : MdAddMemberIntent

structure AddMdMemberClusterNodeResult where
  sanId : String
  label : String
  role : Option String
  source : Source
  arrayPath : String
  device : String
  command : String
  status : NodeStatus := .pending
  participation : Participation := .execute

/-- The name without `/dev/` in front. -/
def withoutDevPrefix (name : String) : String :=
  ((afterLiteral "/dev/" name).map String.ofList).getD name

def addMemberNodeResult (preflight : ClusterStoragePreflightResult) (input : AddMdMemberInput)
    (arrayPath : String) (node : ClusterStorageNodeInventory) :
    Except HttpError (Option AddMdMemberClusterNodeResult × List String) :=
  let (device, blockers) :=
    if node.sanId = input.primarySanId then (input.device, [])
    else resolveDevice preflight.mappings node input.device
  if device = "" then .ok (none, blockers)
  else
    match passedPreflight preflight node with
    | none => .ok (none, blockers ++ [unpassedBlocker node])
    | some _ =>
      (buildMdAddDeviceCommand arrayPath device).map fun command =>
        (some
          { sanId := node.sanId
            label := node.label
            role := node.role
            source := nodeSource input.primarySanId node
            arrayPath
            device
            command },
          blockers)

def buildAddMdMemberNodeResults (preflight : ClusterStoragePreflightResult)
    (input : AddMdMemberInput) : Except HttpError (List AddMdMemberClusterNodeResult) := do
  let selectedPaths := selectedStoragePaths .mdAddDevice
    { name := some input.arrayName, device := some input.device, intent := some input.intent }
  throwIf (selectedPaths.length = 0) ⟨400, "Partition membre requise"⟩
  let arrayName := withoutDevPrefix input.arrayName
  let arrayPath := s!"/dev/{arrayName}"
  let outcomes ← (orderNodes preflight.nodes input.primarySanId).mapM
    (addMemberNodeResult preflight input arrayPath)
  collectPlans (fun _ => 409)
    "Plan ajout membre MD incomplet : tous les nœuds du cluster doivent être planifiés" []
    outcomes

def MappedTo (mappings : List ClusterDiskMapping) (node : ClusterStorageNodeInventory)
    (sourcePath device : String) : Prop :=
  ∃ mapping ∈ mappings, mapping.sourcePath = sourcePath ∧ mapping.targetSanId = node.sanId ∧
    mapping.targetPath = some device ∧ device ≠ "" ∧ mapping.confidence ≠ .none ∧
    mapping.blockers = []

/-- A node's devices: the selection itself, or its counterparts in the same order. -/
def DevicesOf (preflight : ClusterStoragePreflightResult) (primarySanId : String)
    (selectedPaths : List String) (node : ClusterStorageNodeInventory) (devices : List String) :
    Prop :=
  if node.sanId = primarySanId then devices = selectedPaths
  else List.Forall₂ (MappedTo preflight.mappings node) selectedPaths devices

variable {node : ClusterStorageNodeInventory}

theorem mappedTo_of_resolveDevice {mappings : List ClusterDiskMapping} {sourcePath device : String}
    (h : resolveDevice mappings node sourcePath = (device, [])) :
    MappedTo mappings node sourcePath device := by
  unfold resolveDevice at h
  dsimp only at h
  split at h
  · cases h
  · rename_i mapping hFound
    obtain ⟨hPath, hId⟩ : mapping.sourcePath = sourcePath ∧ mapping.targetSanId = node.sanId := by
      simpa using List.find?_some hFound
    split at h
    · cases h
    · rename_i hSet
      obtain ⟨hDevice, hUsable⟩ := Prod.mk.inj h
      have hUsable : mapping.confidence ≠ .none ∧ mapping.blockers = [] := by
        split_ifs at hUsable with hUnusable
        simpa [not_or] using hUnusable
      refine ⟨mapping, List.mem_of_find?_eq_some hFound, hPath, hId, ?_, ?_, hUsable⟩
      · cases hTarget : mapping.targetPath with
        | none => simp [hTarget, isSet] at hSet
        | some target => simpa [hTarget] using hDevice
      · cases hTarget : mapping.targetPath with
        | none => simp [hTarget, isSet] at hSet
        | some target =>
          have hSame : target = device := by simpa [hTarget] using hDevice
          simpa [hTarget, isSet, hSame] using hSet

variable {preflight : ClusterStoragePreflightResult} {primarySanId : String}

theorem devicesOf_of_resolveDevices {selectedPaths devices : List String}
    (h : resolveDevices preflight primarySanId selectedPaths node = (devices, [])) :
    DevicesOf preflight primarySanId selectedPaths node devices := by
  unfold resolveDevices at h
  unfold DevicesOf
  split at h
  · rename_i hPrimary
    rw [if_pos hPrimary]
    exact (Prod.mk.inj h).1.symm
  · rename_i hPeer
    rw [if_neg hPeer]
    obtain ⟨hDevices, hBlockers⟩ := Prod.mk.inj h
    rw [← hDevices, List.map_map, List.forall₂_map_right_iff, List.forall₂_same]
    intro sourcePath hSelected
    have hNone := List.flatMap_eq_nil_iff.mp hBlockers _ (List.mem_map_of_mem hSelected)
    apply mappedTo_of_resolveDevice
    rw [← hNone]
    rfl

private theorem forall₂_filterMap {plan : Type} {outcomes : List (Option plan × List String)}
    (hNone : outcomes.flatMap (·.2) = [])
    (hCount : (outcomes.filterMap (·.1)).length = outcomes.length) :
    List.Forall₂ (fun outcome plan => outcome = (some plan, [])) outcomes
      (outcomes.filterMap (·.1)) := by
  induction outcomes with
  | nil => exact .nil
  | cons outcome outcomes ih =>
    obtain ⟨found, blockers⟩ := outcome
    obtain ⟨hHead, hTail⟩ := List.append_eq_nil_iff.mp (List.flatMap_cons ▸ hNone)
    have hLength := List.length_filterMap_le (fun o : Option plan × List String => o.1) outcomes
    cases found with
    | none =>
      simp only [List.filterMap_cons, List.length_cons] at hCount
      omega
    | some found =>
      simp only [List.filterMap_cons, List.length_cons, Nat.add_right_cancel_iff] at hCount
      exact .cons (by rw [show blockers = [] from hHead]) (ih hTail hCount)

/-- Plans are returned only if none is missing and nothing was found wrong with any. -/
theorem forall₂_of_collectPlans {plan : Type} {statusCode : List String → Nat}
    {incomplete : String} {firstBlockers : List String}
    {outcomes : List (Option plan × List String)} {plans : List plan}
    (h : collectPlans statusCode incomplete firstBlockers outcomes = .ok plans) :
    List.Forall₂ (fun outcome plan => outcome = (some plan, [])) outcomes plans := by
  obtain ⟨_, hBlockers, h⟩ := bind_eq_ok.mp h
  cases pure_eq_ok.mp h
  have hNil := List.length_eq_zero_iff.mp (Nat.eq_zero_of_not_pos (throwIf_eq_ok.mp hBlockers))
  obtain ⟨hAll, hIncomplete⟩ := List.append_eq_nil_iff.mp hNil
  have hCount : (outcomes.filterMap (·.1)).length = outcomes.length := by
    by_contra hDiffers
    rw [if_pos hDiffers] at hIncomplete
    cases hIncomplete
  exact forall₂_filterMap (List.append_eq_nil_iff.mp hAll).2 hCount

/-- Every node is planned once, the primary one first, with a device for each selected
one, and only where the node's own preflight is passed. -/
structure CompletePlan (preflight : ClusterStoragePreflightResult) (primarySanId : String)
    (selectedPaths : List String) (plans : List (String × List String)) : Prop where
  once : (plans.map (·.1)).Perm (preflight.nodes.map (·.sanId))
  primary_first : primarySanId ∈ preflight.nodes.map (·.sanId) →
    (plans.map (·.1)).head? = some primarySanId
  nodes : List.Forall₂ (fun node plan => plan.1 = node.sanId ∧
    DevicesOf preflight primarySanId selectedPaths node plan.2 ∧
    ∃ nodePreflight, preflight.perNodePreflights.lookup node.sanId = some nodePreflight ∧
      nodePreflight.ok = true) (orderNodes preflight.nodes primarySanId) plans

variable {selectedPaths : List String}

theorem completePlan_of_forall₂ {plan : Type} {entry : plan → String × List String}
    {plans : List plan}
    (h : List.Forall₂ (fun node p => (entry p).1 = node.sanId ∧
      DevicesOf preflight primarySanId selectedPaths node (entry p).2 ∧ ∃ nodePreflight,
        preflight.perNodePreflights.lookup node.sanId = some nodePreflight ∧
          nodePreflight.ok = true) (orderNodes preflight.nodes primarySanId) plans) :
    CompletePlan preflight primarySanId selectedPaths (plans.map entry) := by
  have hIds : (plans.map entry).map (·.1) =
      (orderNodes preflight.nodes primarySanId).map (·.sanId) := by
    rw [List.map_map]
    exact map_eq_of_forall₂ h fun _ _ hOn => hOn.1
  refine ⟨hIds ▸ (orderNodes_perm _ _).map _, fun hPrimary => hIds ▸ head_orderNodes hPrimary, ?_⟩
  exact List.forall₂_map_right_iff.mpr h

theorem passedPreflight_eq_some {nodePreflight : RaidPreflightResult}
    (h : passedPreflight preflight node = some nodePreflight) :
    preflight.perNodePreflights.lookup node.sanId = some nodePreflight ∧
      nodePreflight.ok = true :=
  Option.filter_eq_some_iff.mp h

section

variable {preflight : ClusterStoragePreflightResult}

theorem requirePrimary_eq_ok {clusterExecution : Option ClusterExecution}
    (h : requirePrimary preflight clusterExecution = .ok primarySanId) :
    (∃ execution, clusterExecution = some execution ∧ execution.primarySanId = primarySanId) ∧
      preflight.sourceSanId = primarySanId := by
  obtain ⟨execution, hExecution, h⟩ := bind_eq_ok.mp h
  obtain ⟨_, hSource, h⟩ := bind_eq_ok.mp h
  cases pure_eq_ok.mp h
  have hSome := (Option.filter_eq_some_iff.mp (orThrow_eq_ok.mp hExecution)).1
  exact ⟨⟨execution, hSome, rfl⟩, not_not.mp (throwIf_eq_ok.mp hSource)⟩

theorem prepareNodePlan_eq_some {plan : PrepareMdPartitionsNodePlan}
    (h : prepareNodePlan preflight primarySanId selectedPaths node = (some plan, [])) :
    plan.sanId = node.sanId ∧
      DevicesOf preflight primarySanId selectedPaths node plan.disks ∧
      ∃ nodePreflight, preflight.perNodePreflights.lookup node.sanId = some nodePreflight ∧
        nodePreflight.ok = true := by
  unfold prepareNodePlan at h
  generalize hDevices : resolveDevices preflight primarySanId selectedPaths node = resolved at h
  obtain ⟨disks, blockers⟩ := resolved
  dsimp only at h
  split at h
  · cases h
  · split at h
    · cases h
    · rename_i nodePreflight hPassed
      cases h
      exact ⟨rfl, devicesOf_of_resolveDevices hDevices, _, passedPreflight_eq_some hPassed⟩

theorem completePlan_of_prepare {req : PrepareMdPartitionsRequest}
    {plans : List PrepareMdPartitionsNodePlan}
    (h : buildPrepareMdPartitionsNodePlans preflight req = .ok plans) :
    CompletePlan preflight preflight.sourceSanId req.disks
      (plans.map fun plan => (plan.sanId, plan.disks)) := by
  obtain ⟨primarySanId, hPrimary, h⟩ := bind_eq_ok.mp h
  obtain rfl := (requirePrimary_eq_ok hPrimary).2
  have hPlans := List.forall₂_map_left_iff.mp (forall₂_of_collectPlans h)
  exact completePlan_of_forall₂ (hPlans.imp fun _ _ hPlan => prepareNodePlan_eq_some hPlan)

theorem createNodeResult_eq_some {req : CreateMdArrayRequest} {plan : CreateMdArrayNodeResult}
    (h : createNodeResult preflight primarySanId req selectedPaths node = (some plan, [])) :
    plan.sanId = node.sanId ∧
      DevicesOf preflight primarySanId selectedPaths node plan.devices ∧
      ∃ nodePreflight, preflight.perNodePreflights.lookup node.sanId = some nodePreflight ∧
        nodePreflight.ok = true := by
  unfold createNodeResult at h
  generalize hDevices : resolveDevices preflight primarySanId selectedPaths node = resolved at h
  obtain ⟨devices, blockers⟩ := resolved
  dsimp only at h
  split at h
  · cases h
  · split at h
    · cases h
    · split at h
      · cases h
      · split at h
        · cases h
        · rename_i nodePreflight hPassed
          split at h
          · cases h
          · cases h
            exact ⟨rfl, devicesOf_of_resolveDevices hDevices, _, passedPreflight_eq_some hPassed⟩

theorem completePlan_of_create {req : CreateMdArrayRequest}
    {results : List CreateMdArrayNodeResult}
    (h : buildCreateMdArrayNodeResults preflight req = .ok results) :
    CompletePlan preflight preflight.sourceSanId req.devices
      (results.map fun result => (result.sanId, result.devices)) := by
  obtain ⟨primarySanId, hPrimary, h⟩ := bind_eq_ok.mp h
  obtain rfl := (requirePrimary_eq_ok hPrimary).2
  have hResults := List.forall₂_map_left_iff.mp (forall₂_of_collectPlans h)
  exact completePlan_of_forall₂ (hResults.imp fun _ _ hResult => createNodeResult_eq_some hResult)

theorem addMemberNodeResult_eq_some {input : AddMdMemberInput} {arrayPath : String}
    {result : AddMdMemberClusterNodeResult}
    (h : addMemberNodeResult preflight input arrayPath node = .ok (some result, [])) :
    result.sanId = node.sanId ∧
      DevicesOf preflight input.primarySanId [input.device] node [result.device] ∧
      ∃ nodePreflight, preflight.perNodePreflights.lookup node.sanId = some nodePreflight ∧
        nodePreflight.ok = true := by
  unfold addMemberNodeResult at h
  generalize hDevice : (if node.sanId = input.primarySanId then (input.device, [])
    else resolveDevice preflight.mappings node input.device) = resolved at h
  obtain ⟨device, blockers⟩ := resolved
  dsimp only at h
  split at h
  · cases h
  · split at h
    · cases h
    · rename_i nodePreflight hPassed
      obtain ⟨command, -, hResult⟩ := map_eq_ok.mp h
      obtain ⟨hResult, hBlockers⟩ := Prod.mk.inj hResult
      cases hResult
      subst hBlockers
      refine ⟨rfl, ?_, _, passedPreflight_eq_some hPassed⟩
      unfold DevicesOf
      split
      · rename_i hPrimary
        rw [if_pos hPrimary] at hDevice
        rw [(Prod.mk.inj hDevice).1]
      · rename_i hPeer
        rw [if_neg hPeer] at hDevice
        exact .cons (mappedTo_of_resolveDevice hDevice) .nil

theorem completePlan_of_addMember {input : AddMdMemberInput}
    {results : List AddMdMemberClusterNodeResult}
    (h : buildAddMdMemberNodeResults preflight input = .ok results) :
    CompletePlan preflight input.primarySanId [input.device]
      (results.map fun result => (result.sanId, [result.device])) := by
  obtain ⟨_, -, h⟩ := bind_eq_ok.mp h
  obtain ⟨outcomes, hOutcomes, h⟩ := bind_eq_ok.mp h
  have hResults := forall₂_comp (mapM_eq_ok.mp hOutcomes) (forall₂_of_collectPlans h)
  apply completePlan_of_forall₂
  apply hResults.imp
  rintro node result ⟨outcome, hOutcome, rfl⟩
  exact addMemberNodeResult_eq_some hOutcome

end

section

variable [CaseMapping] {cluster : Cluster} {req : ClusterStoragePreflightRequest}
  {preflight : ClusterStoragePreflightResult}

theorem source_mem_of_preflight (h : runClusterStoragePreflight cluster req = .ok preflight) :
    preflight.sourceSanId ∈ preflight.nodes.map (·.sanId) := by
  obtain ⟨run, rfl⟩ := exists_preflightRun h
  exact run.primary_mem

theorem targetSanId_ne_source (h : runClusterStoragePreflight cluster req = .ok preflight) :
    ∀ mapping ∈ preflight.mappings, mapping.targetSanId ≠ preflight.sourceSanId := by
  obtain ⟨run, rfl⟩ := exists_preflightRun h
  intro mapping hMapping
  rw [run.mappings_result] at hMapping
  split at hMapping
  · obtain ⟨peer, hPeer, hMapping⟩ := List.mem_flatMap.mp hMapping
    have hOther : peer.sanId ≠ run.source.sanId := by simpa using (List.mem_filter.mp hPeer).2
    rw [(mem_peerMappings hMapping).1]
    exact fun hSame => hOther (hSame.trans run.sanId.symm)
  · cases hMapping

theorem primary_of_completePlan (h : runClusterStoragePreflight cluster req = .ok preflight)
    {primarySanId device : String} {plans : List (String × List String)}
    (hPlan : CompletePlan preflight primarySanId [device] plans) :
    primarySanId = preflight.sourceSanId := by
  by_contra hDiffers
  obtain ⟨source, hSource, hId⟩ := List.mem_map.mp (source_mem_of_preflight h)
  have hOrdered := (orderNodes_perm preflight.nodes primarySanId).symm.subset hSource
  obtain ⟨plan, -, -, hDevices, -⟩ := exists_of_forall₂_left hPlan.nodes hOrdered
  have hPeer : source.sanId ≠ primarySanId := fun hSame => hDiffers (hSame.symm.trans hId)
  rw [DevicesOf, if_neg hPeer] at hDevices
  obtain ⟨target, -, mapping, hMapping, -, hTarget, -⟩ :=
    exists_of_forall₂_left hDevices List.mem_cons_self
  exact targetSanId_ne_source h mapping hMapping (hTarget.trans hId)

end

/-- A plan that a builder returns covers every node once, with a device for each selected one
that a usable mapping names, where the node's own preflight is passed. The node that a
preflight of a cluster comes from is one of its nodes, and comes first. -/
theorem member_plans_complete [CaseMapping] (preflight : ClusterStoragePreflightResult) :
    (∀ req plans, buildPrepareMdPartitionsNodePlans preflight req = .ok plans →
      CompletePlan preflight preflight.sourceSanId req.disks
        (plans.map fun plan => (plan.sanId, plan.disks))) ∧
    (∀ req results, buildCreateMdArrayNodeResults preflight req = .ok results →
      CompletePlan preflight preflight.sourceSanId req.devices
        (results.map fun result => (result.sanId, result.devices))) ∧
    (∀ input results, buildAddMdMemberNodeResults preflight input = .ok results →
      CompletePlan preflight input.primarySanId [input.device]
        (results.map fun result => (result.sanId, [result.device])) ∧
      ∀ cluster req, runClusterStoragePreflight cluster req = .ok preflight →
        input.primarySanId = preflight.sourceSanId) ∧
    ∀ cluster req, runClusterStoragePreflight cluster req = .ok preflight →
      preflight.sourceSanId ∈ preflight.nodes.map (·.sanId) :=
  ⟨fun _ _ h => completePlan_of_prepare h, fun _ _ h => completePlan_of_create h,
    fun _ _ h => ⟨completePlan_of_addMember h,
      fun _ _ hPreflight => primary_of_completePlan hPreflight (completePlan_of_addMember h)⟩,
    fun _ _ hPreflight => source_mem_of_preflight hPreflight⟩

/-- Two nodes with the same disk, the same partitions and an array that runs. -/
def twinCluster : Cluster where
  nodes := ["a", "b"].map fun sanId =>
    { sanId, label := sanId
      tools := some { mdadm := true, parted := true }
      blockDevices :=
        { name := "sdb", path := "/dev/sdb", type := .disk, wwn := some "w"
          eligibleForMdPartitionPrep := true } ::
        ["sdc1", "sdd1"].map fun name =>
          { name, path := "/dev/" ++ name, type := .part, serial := some name
            partitionTypeCode := some "fd", eligibleForMd := true }
      mdArrays :=
        [{ name := "md0", path := "/dev/md0", raidLevel := .raid1, state := .clean
           raidDevices := 1, activeDevices := 1, members := [⟨some "/dev/sda1", [.active]⟩] }] }
  unique := by decide

def twinPrepareRequest : PrepareMdPartitionsRequest where
  disks := ["/dev/sdb"]
  clusterExecution := some ⟨"b"⟩

def twinCreateRequest : CreateMdArrayRequest where
  name := "md1"
  level := "1"
  devices := ["/dev/sdd1", "/dev/sdc1"]
  chunkKb := 64
  clusterExecution := some ⟨"b"⟩

def twinAddInput : AddMdMemberInput where
  primarySanId := "b"
  arrayName := "md0"
  device := "/dev/sdc1"
  intent := .spare

def twinPreflight (action : ClusterStorageAction) (payload : Payload) :
    Except HttpError ClusterStoragePreflightResult :=
  @runClusterStoragePreflight anyHost.toCaseMapping twinCluster
    { primarySanId := "b", action, payload }

theorem member_plans_complete_twin :
    (∃ preflight plans, buildPrepareMdPartitionsNodePlans preflight twinPrepareRequest = .ok plans ∧
      CompletePlan preflight preflight.sourceSanId ["/dev/sdb"]
        (plans.map fun plan => (plan.sanId, plan.disks))) ∧
    (∃ preflight results, buildCreateMdArrayNodeResults preflight twinCreateRequest = .ok results ∧
      CompletePlan preflight preflight.sourceSanId ["/dev/sdd1", "/dev/sdc1"]
        (results.map fun result => (result.sanId, result.devices))) ∧
    ∃ preflight results, buildAddMdMemberNodeResults preflight twinAddInput = .ok results ∧
      CompletePlan preflight "b" ["/dev/sdc1"]
        (results.map fun result => (result.sanId, [result.device])) ∧
      preflight.sourceSanId = "b" ∧ "b" ∈ preflight.nodes.map (·.sanId) := by
  refine ⟨?_, ?_, ?_⟩
  · obtain ⟨plans, h⟩ := exists_of_isOk (x := do
      let preflight ← twinPreflight .prepareMdPartitions
        (prepareMdPartitionsPayload twinPrepareRequest)
      buildPrepareMdPartitionsNodePlans preflight twinPrepareRequest) (by decide +kernel)
    obtain ⟨preflight, -, hPlans⟩ := bind_eq_ok.mp h
    exact ⟨preflight, plans, hPlans,
      (@member_plans_complete anyHost.toCaseMapping preflight).1 _ _ hPlans⟩
  · obtain ⟨results, h⟩ := exists_of_isOk (x := do
      let preflight ← twinPreflight .createMd (createMdPayload twinCreateRequest)
      buildCreateMdArrayNodeResults preflight twinCreateRequest) (by decide +kernel)
    obtain ⟨preflight, -, hResults⟩ := bind_eq_ok.mp h
    exact ⟨preflight, results, hResults,
      (@member_plans_complete anyHost.toCaseMapping preflight).2.1 _ _ hResults⟩
  · obtain ⟨results, h⟩ := exists_of_isOk (x := do
      let preflight ← twinPreflight .mdAddDevice
        { name := some "md0", device := some "/dev/sdc1", intent := some .spare }
      buildAddMdMemberNodeResults preflight twinAddInput) (by decide +kernel)
    obtain ⟨preflight, hPreflight, hResults⟩ := bind_eq_ok.mp h
    obtain ⟨-, -, hAdd, hSource⟩ := @member_plans_complete anyHost.toCaseMapping preflight
    obtain ⟨hComplete, hPrimary⟩ := hAdd _ _ hResults
    have hSame : "b" = preflight.sourceSanId := hPrimary _ _ hPreflight
    exact ⟨preflight, results, hResults, hComplete, hSame.symm,
      hSame ▸ hSource _ _ hPreflight⟩

end EsosWebui.Raid
