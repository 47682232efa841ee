import EsosWebui.Raid.MemberPlans
import EsosWebui.Raid.Plans

/-! Which devices of a peer the selected devices lay claim to, and when no two of them
are mapped to one. -/
namespace EsosWebui.Raid

open Js

section

variable [CaseMapping]

/-- A device of a peer that stands for a device of the source node: the one the operator
named, else the first one with a shared identifier, else the only one of the same shape,
else the only one of the same size. -/
inductive Claims (manualMappings : List ClusterDiskMappingInput)
    (source peer : ClusterStorageNodeInventory) (sourcePath : String) : RaidBlockDevice → Prop where
  | manual {device target : RaidBlockDevice} {choice : ClusterDiskMappingInput}
      (found : source.blockDevices.find? (·.path == sourcePath) = some device)
      (chosen : findManualMapping manualMappings sourcePath peer = some choice)
      (there : peer.blockDevices.find? (·.path == choice.targetPath) = some target)
      (sameType : target.type = device.type) : Claims manualMappings source peer sourcePath target
  | identifier {device target : RaidBlockDevice}
      (found : source.blockDevices.find? (·.path == sourcePath) = some device)
      (unchosen : findManualMapping manualMappings sourcePath peer = none)
      (shares : findStableMatch device (peer.blockDevices.filter (·.type == device.type)) =
        some target) : Claims manualMappings source peer sourcePath target
  | shape {device target : RaidBlockDevice}
      (found : source.blockDevices.find? (·.path == sourcePath) = some device)
      (unchosen : findManualMapping manualMappings sourcePath peer = none)
      (unshared : findStableMatch device (peer.blockDevices.filter (·.type == device.type)) = none)
      (only : (peer.blockDevices.filter (·.type == device.type)).filter
        (compatibleByShape device) = [target]) :
      Claims manualMappings source peer sourcePath target
  | size {device target : RaidBlockDevice}
      (found : source.blockDevices.find? (·.path == sourcePath) = some device)
      (unchosen : findManualMapping manualMappings sourcePath peer = none)
      (unshared : findStableMatch device (peer.blockDevices.filter (·.type == device.type)) = none)
      (several : ∀ other, (peer.blockDevices.filter (·.type == device.type)).filter
        (compatibleByShape device) ≠ [other])
      (only : (peer.blockDevices.filter (·.type == device.type)).filter
        (·.sizeBytes == device.sizeBytes) = [target]) :
      Claims manualMappings source peer sourcePath target

theorem targetPath_mapDeviceToPeer_iff {sourcePath path : String}
    {source peer : ClusterStorageNodeInventory} {action : ClusterStorageAction}
    {manualMappings : List ClusterDiskMappingInput} :
    (mapDeviceToPeer sourcePath source peer action manualMappings).targetPath = some path ↔
      ∃ target, Claims manualMappings source peer sourcePath target ∧ target.path = path := by
  constructor
  · intro h
    unfold mapDeviceToPeer at h
    split at h
    · cases h
    · rename_i device hFound
      split at h
      · rename_i choice hChosen
        unfold manualDeviceMapping at h
        dsimp only at h
        split at h
        · cases h
        · rename_i target hThere
          split at h
          · cases h
          · rename_i hType
            refine ⟨target, .manual hFound hChosen hThere (not_not.mp hType), ?_⟩
            split at h <;> exact Option.some.inj h
      · rename_i hUnchosen
        unfold automaticDeviceMapping at h
        dsimp only at h
        split at h
        · rename_i target hShares
          exact ⟨target, .identifier hFound hUnchosen hShares, Option.some.inj h⟩
        · rename_i hUnshared
          split at h
          · rename_i target hOnly
            exact ⟨target, .shape hFound hUnchosen hUnshared hOnly, Option.some.inj h⟩
          · rename_i target hOnly hSeveral
            exact ⟨target, .size hFound hUnchosen hUnshared hSeveral hOnly, Option.some.inj h⟩
          · cases h
  · rintro ⟨target, hClaims, rfl⟩
    unfold mapDeviceToPeer
    cases hClaims with
    | manual hFound hChosen hThere hType =>
      rw [hFound]
      dsimp only
      rw [hChosen]
      unfold manualDeviceMapping
      dsimp only
      rw [hThere]
      dsimp only
      rw [if_neg (not_not.mpr hType)]
      split <;> rfl
    | identifier hFound hUnchosen hShares =>
      rw [hFound]
      dsimp only
      rw [hUnchosen]
      unfold automaticDeviceMapping
      dsimp only
      rw [hShares]
    | shape hFound hUnchosen hUnshared hOnly =>
      rw [hFound]
      dsimp only
      rw [hUnchosen]
      unfold automaticDeviceMapping
      dsimp only
      rw [hUnshared, hOnly]
    | @size device _ hFound hUnchosen hUnshared hSeveral hOnly =>
      rw [hFound]
      dsimp only
      rw [hUnchosen]
      unfold automaticDeviceMapping
      dsimp only
      rw [hUnshared, hOnly]
      generalize (peer.blockDevices.filter (·.type == device.type)).filter
        (compatibleByShape device) = sameShape at hSeveral
      match sameShape with
      | [] => rfl
      | [other] => exact absurd rfl (hSeveral other)
      | _ :: _ :: _ => rfl

end

theorem eq_of_nodup_filterMap {α β : Type} {f : α → Option β} {l : List α}
    (h : (l.filterMap f).Nodup) {a b : α} {d : β} (ha : a ∈ l) (hb : b ∈ l) (hfa : f a = some d)
    (hfb : f b = some d) : a = b := by
  induction l with
  | nil => cases ha
  | cons x l ih =>
    have hRest : (l.filterMap f).Nodup := by
      rw [List.filterMap_cons] at h
      cases hx : f x with
      | none => simpa [hx] using h
      | some y => exact (List.nodup_cons.mp (by simpa [hx] using h)).2
    have hNew : f x = some d → d ∉ l.filterMap f := by
      intro hx
      rw [List.filterMap_cons, hx] at h
      exact (List.nodup_cons.mp h).1
    have hMem : ∀ c ∈ l, f c = some d → d ∈ l.filterMap f := fun c hc hfc =>
      List.mem_filterMap.mpr ⟨c, hc, hfc⟩
    rcases List.mem_cons.mp ha with rfl | hInA
    · rcases List.mem_cons.mp hb with rfl | hInB
      · rfl
      · exact absurd (hMem b hInB hfb) (hNew hfa)
    · rcases List.mem_cons.mp hb with rfl | hInB
      · exact absurd (hMem a hInA hfa) (hNew hfb)
      · exact ih hRest hInA hInB

section

variable {blockDevices : List RaidBlockDevice}

theorem nodup_cons_of_new {seen devices : List String} {device : String} (hSeen : device ∉ seen)
    (h : devices.Nodup ∧ ∀ other ∈ devices, other ∉ device :: seen) :
    (device :: devices).Nodup ∧ ∀ other ∈ device :: devices, other ∉ seen := by
  obtain ⟨hNodup, hNew⟩ := h
  refine ⟨List.nodup_cons.mpr ⟨fun hIn => hNew device hIn List.mem_cons_self, hNodup⟩, ?_⟩
  intro other hOther
  rcases List.mem_cons.mp hOther with rfl | hOther
  · exact hSeen
  · exact fun hIn => hNew other hOther (List.mem_cons_of_mem _ hIn)

theorem nodup_of_createDeviceBlockers [CaseMapping] {seen devices : List String}
    (h : createDeviceBlockers blockDevices seen devices = []) :
    devices.Nodup ∧ ∀ device ∈ devices, device ∉ seen := by
  induction devices generalizing seen with
  | nil => exact ⟨List.nodup_nil, fun _ hd => absurd hd List.not_mem_nil⟩
  | cons device devices ih =>
    unfold createDeviceBlockers at h
    split at h
    · cases h
    · split at h
      · cases h
      · rename_i hSeen
        exact nodup_cons_of_new (by simpa using hSeen) (ih (List.append_eq_nil_iff.mp h).2)

theorem nodup_of_prepareDiskBlockers {allowOverwriteSignatures : Bool} {seen disks : List String}
    (h : prepareDiskBlockers blockDevices allowOverwriteSignatures seen disks = []) :
    disks.Nodup ∧ ∀ disk ∈ disks, disk ∉ seen := by
  induction disks generalizing seen with
  | nil => exact ⟨List.nodup_nil, fun _ hd => absurd hd List.not_mem_nil⟩
  | cons disk disks ih =>
    unfold prepareDiskBlockers at h
    split at h
    · cases h
    · split at h
      · cases h
      · rename_i hSeen
        exact nodup_cons_of_new (by simpa using hSeen) (ih (List.append_eq_nil_iff.mp h).2)

theorem nodup_of_validateMdCreateRequest [CaseMapping] {req : Payload}
    {mdArrays : List MdArray} {validation : Validation}
    (h : validateMdCreateRequest req blockDevices mdArrays = .ok validation)
    (hOk : validation.blockers = []) : req.devices.Nodup := by
  unfold validateMdCreateRequest at h
  dsimp only at h
  -- The command is previewed or not; the blockers are the same.
  rcases eq_ok_of_ite h with h | h
  all_goals
    obtain ⟨preview, -, h⟩ := bind_eq_ok.mp h
    cases pure_eq_ok.mp h
    have hAll := unique_eq_nil_iff.mp hOk
    have hDevices := (List.append_eq_nil_iff.mp (List.append_eq_nil_iff.mp
      (List.append_eq_nil_iff.mp hAll).1).1).2
    exact (nodup_of_createDeviceBlockers hDevices).1

theorem nodup_of_runNodePreflight [CaseMapping] {action : ClusterStorageAction} {payload : Payload}
    {node : ClusterStorageNodeInventory} {preflight : RaidPreflightResult}
    (hAction : action = .prepareMdPartitions ∨ action = .createMd)
    (h : runNodePreflight action payload node = .ok preflight) (hOk : preflight.blockers = []) :
    (selectedStoragePaths action payload).Nodup := by
  obtain ⟨validation, hValidation, hRest⟩ := bind_eq_ok.mp h
  obtain ⟨confirmation, -, hResult⟩ := bind_eq_ok.mp hRest
  cases pure_eq_ok.mp hResult
  rcases hAction with rfl | rfl
  · have hValid : validatePrepareMdPartitionsRequest payload node.blockDevices
        (node.tools.getD emptyTools) = validation := Except.ok.inj hValidation
    have hNone : validation.blockers = [] := hOk
    rw [← hValid] at hNone
    have hAll := unique_eq_nil_iff.mp hNone
    exact (nodup_of_prepareDiskBlockers (List.append_eq_nil_iff.mp hAll).2).1
  · exact nodup_of_validateMdCreateRequest hValidation hOk

end

/-- No device of a peer stands for two selected devices, and the devices that a plan
takes for the selected ones are not repeated. -/
structure MapsOnce (selectedPaths : List String) (mappings : List ClusterDiskMapping) : Prop where
  mapped : ∀ m ∈ mappings, ∀ m' ∈ mappings, m.targetSanId = m'.targetSanId →
    isSet m.targetPath = true → m.targetPath = m'.targetPath → m.sourcePath = m'.sourcePath
  listed : ∀ sanId, (selectedPaths.filterMap fun sourcePath =>
    mappedTarget mappings sourcePath sanId).Nodup

theorem mappedTarget_eq_some {mappings : List ClusterDiskMapping} {sourcePath sanId path : String}
    (h : mappedTarget mappings sourcePath sanId = some path) :
    ∃ m ∈ mappings, m.sourcePath = sourcePath ∧ m.targetSanId = sanId ∧
      m.targetPath = some path ∧ path ≠ "" := by
  obtain ⟨hBind, hSet⟩ := Option.filter_eq_some_iff.mp h
  obtain ⟨m, hFind, hTarget⟩ := Option.bind_eq_some_iff.mp hBind
  have hKeys : m.sourcePath = sourcePath ∧ m.targetSanId = sanId := by
    simpa using List.find?_some hFind
  exact ⟨m, List.mem_of_find?_eq_some hFind, hKeys.1, hKeys.2, hTarget, by simpa using hSet⟩

theorem mapsOnce_of_mapped {selectedPaths : List String} {mappings : List ClusterDiskMapping}
    (hSelected : selectedPaths.Nodup)
    (h : ∀ m ∈ mappings, ∀ m' ∈ mappings, m.targetSanId = m'.targetSanId →
      isSet m.targetPath = true → m.targetPath = m'.targetPath → m.sourcePath = m'.sourcePath) :
    MapsOnce selectedPaths mappings := by
  refine ⟨h, fun sanId => ?_⟩
  apply hSelected.filterMap
  intro s s' path hPath hPath'
  obtain ⟨m, hm, rfl, hId, hTarget, hSet⟩ := mappedTarget_eq_some hPath
  obtain ⟨m', hm', rfl, hId', hTarget', -⟩ := mappedTarget_eq_some hPath'
  exact h m hm m' hm' (hId.trans hId'.symm) (by simp [hTarget, isSet, hSet])
    (hTarget.trans hTarget'.symm)

theorem labelled_eq_nil_iff {node : ClusterStorageNodeInventory} {messages : List String} :
    labelled node messages = [] ↔ messages = [] :=
  List.map_eq_nil_iff

section

variable [CaseMapping] {cluster : Cluster} {req : ClusterStoragePreflightRequest}

/-- No two selected devices claim one device of a peer. -/
def NoSharedClaim (cluster : Cluster) (req : ClusterStoragePreflightRequest)
    (source : ClusterStorageNodeInventory) : Prop :=
  source.ready = true → ∀ peer ∈ cluster.nodes, peer.sanId ≠ req.primarySanId →
    peer.ready = true → ∀ s ∈ req.selectedPaths, ∀ s' ∈ req.selectedPaths, ∀ target target',
      Claims req.diskMappings source peer s target →
      Claims req.diskMappings source peer s' target' →
      target.path = target'.path → target.path ≠ "" → s = s'

variable (run : PreflightRun cluster req)

theorem mem_mappings_result {m : ClusterDiskMapping} :
    m ∈ run.result.mappings ↔ run.source.ready = true ∧ ∃ peer ∈ cluster.nodes,
      peer.sanId ≠ req.primarySanId ∧ peer.ready = true ∧ ∃ s ∈ req.selectedPaths,
        m = mapDeviceToPeer s run.source peer req.action req.diskMappings := by
  rw [run.mappings_result]
  cases hSource : run.source.ready with
  | false => simp
  | true =>
    simp only [if_true, List.mem_flatMap, true_and]
    constructor
    · rintro ⟨peer, hPeer, hMapping⟩
      obtain ⟨hNode, hOther⟩ := List.mem_filter.mp hPeer
      unfold peerMappings at hMapping
      split at hMapping
      · rename_i hReady
        exact ⟨peer, hNode, by simpa [run.sanId] using hOther, hReady,
          mem_mappingsToPeer.mp hMapping⟩
      · cases hMapping
    · rintro ⟨peer, hNode, hOther, hReady, hMapping⟩
      refine ⟨peer, List.mem_filter.mpr ⟨hNode, by simpa [run.sanId] using hOther⟩, ?_⟩
      rw [peerMappings, if_pos hReady]
      exact mem_mappingsToPeer.mpr hMapping

theorem mapsOnce_of_targetPath (hSelected : req.selectedPaths.Nodup)
    (h : run.source.ready = true → ∀ peer ∈ cluster.nodes, peer.sanId ≠ req.primarySanId →
      peer.ready = true → ∀ s ∈ req.selectedPaths, ∀ s' ∈ req.selectedPaths, ∀ path ≠ "",
        (mapDeviceToPeer s run.source peer req.action req.diskMappings).targetPath = some path →
        (mapDeviceToPeer s' run.source peer req.action req.diskMappings).targetPath = some path →
        s = s') : MapsOnce req.selectedPaths run.result.mappings := by
  apply mapsOnce_of_mapped hSelected
  intro m hm m' hm' hId hSet hSame
  obtain ⟨hSource, peer, hPeer, hOther, hReady, s, hs, rfl⟩ := (mem_mappings_result run).mp hm
  obtain ⟨-, peer', hPeer', -, -, s', hs', rfl⟩ := (mem_mappings_result run).mp hm'
  simp only [targetSanId_mapDeviceToPeer] at hId
  obtain rfl := Cluster.eq_of_sanId hPeer hPeer' hId
  cases hTarget : (mapDeviceToPeer s run.source peer req.action req.diskMappings).targetPath with
  | none => simp [hTarget, isSet] at hSet
  | some path =>
    simpa using h hSource peer hPeer hOther hReady s hs s' hs' path
      (by simpa [hTarget, isSet] using hSet) hTarget (hSame.symm.trans hTarget)

theorem mapsOnce_iff (hSelected : req.selectedPaths.Nodup) :
    MapsOnce req.selectedPaths run.result.mappings ↔ NoSharedClaim cluster req run.source := by
  constructor
  · intro h hSource peer hPeer hOther hReady s hs s' hs' target target' hClaims hClaims' hSame hSet
    have hTarget : (mapDeviceToPeer s run.source peer req.action req.diskMappings).targetPath =
        some target.path := targetPath_mapDeviceToPeer_iff.mpr ⟨target, hClaims, rfl⟩
    have hTarget' : (mapDeviceToPeer s' run.source peer req.action req.diskMappings).targetPath =
        some target.path := targetPath_mapDeviceToPeer_iff.mpr ⟨target', hClaims', hSame.symm⟩
    have hMapped := h.mapped _ ((mem_mappings_result run).mpr
      ⟨hSource, peer, hPeer, hOther, hReady, s, hs, rfl⟩) _ ((mem_mappings_result run).mpr
      ⟨hSource, peer, hPeer, hOther, hReady, s', hs', rfl⟩) (by simp)
      (by simp [hTarget, isSet, hSet]) (hTarget.trans hTarget'.symm)
    simpa using hMapped
  · intro h
    apply mapsOnce_of_targetPath run hSelected
    intro hSource peer hPeer hOther hReady s hs s' hs' path hSet hTarget hTarget'
    obtain ⟨target, hClaims, hPath⟩ := targetPath_mapDeviceToPeer_iff.mp hTarget
    obtain ⟨target', hClaims', hPath'⟩ := targetPath_mapDeviceToPeer_iff.mp hTarget'
    exact h hSource peer hPeer hOther hReady s hs s' hs' target target' hClaims hClaims'
      (hPath.trans hPath'.symm) (hPath ▸ hSet)

theorem nodup_of_checkPeer {source peer : ClusterStorageNodeInventory} {check : NodeCheck}
    (hAction : req.action = .prepareMdPartitions ∨ req.action = .createMd)
    (hReady : peer.ready) (h : checkPeer req source peer = .ok check)
    (hNone : check.blockers = []) : (mappedPaths (mappingsToPeer req source peer)).Nodup := by
  unfold checkPeer at h
  dsimp only at h
  split at h
  · rename_i hNotReady
    rw [not_ready_iff.mp hNotReady] at hReady
    cases hReady
  · split at h
    · rename_i hPathless
      rcases hAction with hAction | hAction <;>
        simp [hAction, isPathlessClusterAction] at hPathless
    · split at h
      · cases h
        exact absurd (List.append_eq_nil_iff.mp hNone).2 (by simp [labelled])
      · split at h
        · obtain ⟨preflight, hPreflight, rfl⟩ := map_eq_ok.mp h
          have hOk : preflight.blockers = [] := by
            simpa using labelled_eq_nil_iff.mp (List.append_eq_nil_iff.mp hNone).2
          have hPaths := nodup_of_runNodePreflight hAction hPreflight hOk
          have hSelected : selectedStoragePaths req.action (remapPayload req.action req.payload
              (mappedPaths (mappingsToPeer req source peer))) =
                mappedPaths (mappingsToPeer req source peer) := by
            rcases hAction with hAction | hAction <;> rw [hAction] <;> rfl
          rwa [hSelected] at hPaths
        · cases h
          exact absurd (List.append_eq_nil_iff.mp hNone).2 (by simp [labelled])

theorem mapsOnce_of_ok (hSelected : req.selectedPaths.Nodup)
    (hAction : req.action = .prepareMdPartitions ∨ req.action = .createMd)
    (hOk : run.result.ok = true ∨ run.result.okDegraded = true) :
    MapsOnce req.selectedPaths run.result.mappings := by
  have hDegraded : isDegradedRecoveryAction req.action = false := by
    rcases hAction with h | h <;> rw [h] <;> rfl
  have hChecks : run.checks.flatMap (·.blockers) = [] := run.checks_unblocked hDegraded hOk
  apply mapsOnce_of_targetPath run hSelected
  intro hSource peer hPeer hOther hReady s hs s' hs' path hSet hTarget hTarget'
  obtain ⟨check, hCheck, hMem⟩ := run.exists_check hSource hPeer hOther
  have hNodup := nodup_of_checkPeer hAction hReady hCheck
    (List.flatMap_eq_nil_iff.mp hChecks check hMem)
  rw [mappedPaths, mappingsToPeer, List.filterMap_map] at hNodup
  exact eq_of_nodup_filterMap hNodup hs hs' (d := path) (by simp [hTarget, hSet])
    (by simp [hTarget', hSet])

/-- In a preflight that is passed, the selected devices are mapped to different devices of each
peer exactly when they are to be prepared or used for a new array, or when no two of them
claim one device. -/
theorem peer_mapping_injective_iff {source : ClusterStorageNodeInventory}
    {r : ClusterStoragePreflightResult} (hSource : source ∈ cluster.nodes)
    (hPrimary : source.sanId = req.primarySanId) (hSelected : req.selectedPaths.Nodup)
    (h : runClusterStoragePreflight cluster req = .ok r)
    (hOk : r.ok = true ∨ r.okDegraded = true) :
    MapsOnce req.selectedPaths r.mappings ↔
      (req.action = .prepareMdPartitions ∨ req.action = .createMd) ∨
        NoSharedClaim cluster req source := by
  obtain ⟨run, rfl⟩ := exists_preflightRun h
  obtain rfl := run.source_eq hSource hPrimary
  constructor
  · exact fun hOnce => Or.inr ((mapsOnce_iff run hSelected).mp hOnce)
  · rintro (hAction | hClaims)
    · exact mapsOnce_of_ok run hSelected hAction hOk
    · exact (mapsOnce_iff run hSelected).mpr hClaims

end

theorem peer_mapping_injective_iff_twin :
    ∃ r, twinPreflight .createMd (createMdPayload twinCreateRequest) = .ok r ∧
      MapsOnce ["/dev/sdd1", "/dev/sdc1"] r.mappings := by
  refine exists_ok_of_map (f := (·.ok)) (c := true) (by decide +kernel) fun r h hOk => ?_
  have hOnce := @peer_mapping_injective_iff anyHost.toCaseMapping twinCluster
    { primarySanId := "b", action := .createMd, payload := createMdPayload twinCreateRequest }
    (twinCluster.nodes.getLast (by decide)) r (List.getLast_mem _) rfl (by decide +kernel) h
    (Or.inl hOk)
  exact hOnce.mpr (Or.inl (Or.inr rfl))

/-- Two members on one node, and a peer with a single partition of their size. -/
def oneCandidateCluster : Cluster where
  nodes :=
    [{ sanId := "a", label := "A", tools := some { mdadm := true }
       blockDevices := ["sda1", "sdb1"].map fun name =>
         { name, path := "/dev/" ++ name, type := .part, hasMdSuperblock := true } },
      { sanId := "b", label := "B", tools := some { mdadm := true }
        blockDevices :=
          [{ name := "sdc1", path := "/dev/sdc1", type := .part, hasMdSuperblock := true }] }]
  unique := by decide

/-- Both members are mapped to the one partition, and its metadata is removed twice. -/
theorem oneCandidate_mapped_twice :
    ∃ plan, @buildZeroMdClusterExecutionPlan anyHost oneCandidateCluster
        { members := ["/dev/sda1", "/dev/sdb1"], clusterExecution := { primarySanId := "a" } } =
          .ok plan ∧
      plan.preflight.ok = true ∧
      (∃ result ∈ plan.nodeResults, result.participation = .execute ∧
        result.members = ["/dev/sdc1", "/dev/sdc1"]) ∧
      ¬ MapsOnce ["/dev/sda1", "/dev/sdb1"] plan.preflight.mappings := by
  refine exists_ok_of_map
    (f := fun plan =>
      (plan.preflight.ok, plan.nodeResults.map (fun n => (n.participation, n.members)),
        ["/dev/sda1", "/dev/sdb1"].filterMap fun s => mappedTarget plan.preflight.mappings s "b"))
    (c := (true, [(.execute, ["/dev/sda1", "/dev/sdb1"]),
      (.execute, ["/dev/sdc1", "/dev/sdc1"])], ["/dev/sdc1", "/dev/sdc1"]))
    (by decide +kernel) fun plan _ hFound => ?_
  obtain ⟨hOk, hRest⟩ := Prod.mk.inj hFound
  obtain ⟨hResults, hListed⟩ := Prod.mk.inj hRest
  refine ⟨hOk, ?_, fun hOnce => ?_⟩
  · have hMem : (Participation.execute, ["/dev/sdc1", "/dev/sdc1"]) ∈
        plan.nodeResults.map fun n => (n.participation, n.members) := by simp [hResults]
    obtain ⟨result, hResult, hSame⟩ := List.mem_map.mp hMem
    exact ⟨result, hResult, (Prod.mk.inj hSame).1, (Prod.mk.inj hSame).2⟩
  · have hNodup := hOnce.listed "b"
    rw [hListed] at hNodup
    exact absurd hNodup (by decide)

end EsosWebui.Raid
