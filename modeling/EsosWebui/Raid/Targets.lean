import EsosWebui.Raid.ClusterPreflight

/-! Which device of a peer a preflight maps a selected device to. -/
namespace EsosWebui.Raid

open Js

theorem findMapping_eq_none {l : List ClusterDiskMapping} {sourcePath targetSanId : String}
    (h : ∀ m ∈ l, m.sourcePath ≠ sourcePath ∨ m.targetSanId ≠ targetSanId) :
    findMapping l sourcePath targetSanId = none := by
  apply List.find?_eq_none.mpr
  intro m hm
  rcases h m hm with hPath | hId
  · simp [hPath]
  · simp [hId]

variable [CaseMapping] {cluster : Cluster} {req : ClusterStoragePreflightRequest}

def targetOnPeer (req : ClusterStoragePreflightRequest)
    (source peer : ClusterStorageNodeInventory) (sourcePath : String) : Option String :=
  if source.ready && peer.ready && req.selectedPaths.contains sourcePath then
    (mapDeviceToPeer sourcePath source peer req.action req.diskMappings).targetPath.filter (· != "")
  else none

def peerMappings (req : ClusterStoragePreflightRequest)
    (source peer : ClusterStorageNodeInventory) : List ClusterDiskMapping :=
  if peer.ready then mappingsToPeer req source peer else []

@[simp] theorem sourcePath_mapDeviceToPeer (sourcePath : String)
    (source peer : ClusterStorageNodeInventory) (action : ClusterStorageAction)
    (manualMappings : List ClusterDiskMappingInput) :
    (mapDeviceToPeer sourcePath source peer action manualMappings).sourcePath = sourcePath := by
  unfold mapDeviceToPeer manualDeviceMapping automaticDeviceMapping
  dsimp only
  split
  · rfl
  · split
    · split
      · rfl
      · split
        · rfl
        · split <;> rfl
    · split
      · rfl
      · split <;> rfl

@[simp] theorem targetSanId_mapDeviceToPeer (sourcePath : String)
    (source peer : ClusterStorageNodeInventory) (action : ClusterStorageAction)
    (manualMappings : List ClusterDiskMappingInput) :
    (mapDeviceToPeer sourcePath source peer action manualMappings).targetSanId = peer.sanId := by
  unfold mapDeviceToPeer manualDeviceMapping automaticDeviceMapping
  dsimp only
  split
  · rfl
  · split
    · split
      · rfl
      · split
        · rfl
        · split <;> rfl
    · split
      · rfl
      · split <;> rfl

variable {source peer : ClusterStorageNodeInventory}

theorem mem_mappingsToPeer {m : ClusterDiskMapping} :
    m ∈ mappingsToPeer req source peer ↔ ∃ sourcePath ∈ req.selectedPaths,
      m = mapDeviceToPeer sourcePath source peer req.action req.diskMappings := by
  simp [mappingsToPeer, eq_comm]

theorem mappings_checkPeer {check : NodeCheck} (h : checkPeer req source peer = .ok check) :
    check.mappings = peerMappings req source peer := by
  unfold checkPeer at h
  dsimp only at h
  split at h
  · rename_i hReady
    cases h
    rw [peerMappings, not_ready_iff.mp hReady]
    rfl
  · rename_i hReady
    have hReady : peer.ready = true :=
      Bool.not_eq_false _ ▸ fun hNot => hReady (not_ready_iff.mpr hNot)
    rw [peerMappings, if_pos hReady]
    split at h
    · rename_i hPathless
      obtain ⟨preflight, -, rfl⟩ := map_eq_ok.mp h
      have hNone : req.selectedPaths = [] := by
        rcases Bool.or_eq_true .. ▸ hPathless with hStop | hEmpty
        · have hAction : req.action = .stopMd := by simpa [isPathlessClusterAction] using hStop
          simp [ClusterStoragePreflightRequest.selectedPaths, hAction, selectedStoragePaths]
        · simp only [Bool.and_eq_true, beq_iff_eq, List.length_eq_zero_iff] at hEmpty
          exact hEmpty.2
      simp [mappingsToPeer, hNone, nodeCheck]
    · split at h
      · cases h
        rfl
      · split at h
        · obtain ⟨preflight, -, rfl⟩ := map_eq_ok.mp h
          rfl
        · cases h
          rfl

theorem findMapping_mappingsToPeer {sourcePath : String} (h : sourcePath ∈ req.selectedPaths) :
    findMapping (mappingsToPeer req source peer) sourcePath peer.sanId =
      some (mapDeviceToPeer sourcePath source peer req.action req.diskMappings) := by
  unfold findMapping mappingsToPeer
  generalize req.selectedPaths = paths at h
  induction paths with
  | nil => cases h
  | cons first paths ih =>
    rw [List.map_cons, List.find?_cons]
    by_cases hSame : first = sourcePath
    · subst hSame
      simp
    · simp only [sourcePath_mapDeviceToPeer, beq_eq_false_iff_ne.mpr hSame, Bool.false_and]
      exact ih ((List.mem_cons.mp h).resolve_left (Ne.symm hSame))

theorem mem_peerMappings {m : ClusterDiskMapping} (h : m ∈ peerMappings req source peer) :
    m.targetSanId = peer.sanId ∧ m.sourcePath ∈ req.selectedPaths := by
  unfold peerMappings at h
  split at h
  · obtain ⟨sourcePath, hSelected, rfl⟩ := mem_mappingsToPeer.mp h
    exact ⟨targetSanId_mapDeviceToPeer .., (sourcePath_mapDeviceToPeer ..).symm ▸ hSelected⟩
  · cases h

theorem findMapping_flatMap {nodes : List ClusterStorageNodeInventory}
    (hUnique : (nodes.map (·.sanId)).Nodup) (hPeer : peer ∈ nodes) (sourcePath : String) :
    findMapping (nodes.flatMap (peerMappings req source)) sourcePath peer.sanId =
      findMapping (peerMappings req source peer) sourcePath peer.sanId := by
  induction nodes with
  | nil => cases hPeer
  | cons first nodes ih =>
    obtain ⟨hFirst, hUnique⟩ := List.nodup_cons.mp hUnique
    rw [List.flatMap_cons]
    unfold findMapping at ih ⊢
    rw [List.find?_append]
    rcases List.mem_cons.mp hPeer with rfl | hPeer
    · -- What the other nodes are mapped with is for another identifier.
      have hOthers : findMapping (nodes.flatMap (peerMappings req source)) sourcePath
          peer.sanId = none := by
        apply findMapping_eq_none
        intro m hm
        obtain ⟨other, hOther, hm⟩ := List.mem_flatMap.mp hm
        refine Or.inr fun hSame => hFirst (List.mem_map.mpr ⟨other, hOther, ?_⟩)
        exact (mem_peerMappings hm).1.symm.trans hSame
      unfold findMapping at hOthers
      rw [hOthers, Option.or_none]
    · have hHere : findMapping (peerMappings req source first) sourcePath peer.sanId = none := by
        apply findMapping_eq_none
        intro m hm
        refine Or.inr fun hSame => hFirst (List.mem_map.mpr ⟨peer, hPeer, ?_⟩)
        exact hSame.symm.trans (mem_peerMappings hm).1
      unfold findMapping at hHere
      rw [hHere, Option.none_or]
      exact ih hUnique hPeer

namespace PreflightRun

variable (run : PreflightRun cluster req)

def peers : List ClusterStorageNodeInventory :=
  cluster.nodes.filter (·.sanId != run.source.sanId)

theorem mappings_result : run.result.mappings =
    if run.source.ready then run.peers.flatMap (peerMappings req run.source) else [] := by
  change run.checks.flatMap (·.mappings) = _
  rcases run.checked with ⟨hReady, -, hChecks⟩ | ⟨hReady, -, hChecks⟩
  · rw [hChecks, hReady]
    rfl
  · obtain ⟨sourceCheck, hSource, hRest⟩ := bind_eq_ok.mp hChecks
    obtain ⟨peerChecks, hPeers, hAll⟩ := bind_eq_ok.mp hRest
    obtain ⟨preflight, -, rfl⟩ := map_eq_ok.mp hSource
    rw [if_pos hReady, ← pure_eq_ok.mp hAll, List.flatMap_cons]
    exact flatMap_of_mapM hPeers fun peer check hCheck => mappings_checkPeer hCheck

theorem mappedTarget_result {peer : ClusterStorageNodeInventory} (hPeer : peer ∈ cluster.nodes)
    (hOther : peer.sanId ≠ req.primarySanId) (sourcePath : String) :
    mappedTarget run.result.mappings sourcePath peer.sanId =
      targetOnPeer req run.source peer sourcePath := by
  unfold mappedTarget targetOnPeer
  rw [run.mappings_result]
  by_cases hSource : run.source.ready = true
  · have hMem : peer ∈ run.peers :=
      List.mem_filter.mpr ⟨hPeer, by simpa [run.sanId] using hOther⟩
    have hUnique : (run.peers.map (·.sanId)).Nodup :=
      cluster.unique.sublist (List.filter_sublist.map _)
    rw [if_pos hSource, findMapping_flatMap hUnique hMem, peerMappings]
    by_cases hReady : peer.ready = true
    · rw [if_pos hReady]
      by_cases hSelected : sourcePath ∈ req.selectedPaths
      · rw [findMapping_mappingsToPeer hSelected]
        simp [hSource, hReady, hSelected]
      · have hNone : findMapping (mappingsToPeer req run.source peer) sourcePath peer.sanId =
            none := by
          apply findMapping_eq_none
          intro m hm
          obtain ⟨path, hPath, rfl⟩ := mem_mappingsToPeer.mp hm
          refine Or.inl fun hSame => hSelected ?_
          rwa [← hSame, sourcePath_mapDeviceToPeer]
        simp [hNone, hSelected]
    · simp [hReady, findMapping]
  · simp [hSource, findMapping]

end PreflightRun

end EsosWebui.Raid
