import EsosWebui.Lvm.ClusterLvmPlans
import EsosWebui.Lvm.PvEvidence

/-! The requests that make physical volumes, on a single node and on a cluster, and what the scans
of the nodes say of the devices that they are made on. -/
namespace EsosWebui.Lvm

open Js
open Raid (HttpError)
open Candidates

structure StandalonePvCreation where
  scan : NodeScan
  clusterId : Option String
  body : LvmPayload
  answers : NodeAnswers

/-- A request on a cluster, with the scans that its plan is made from and the execution of the
plan. -/
structure ClusterPvCreation where
  scans : List NodeScan
  sanId : String
  clusterId : Option String
  body : LvmPayload
  clusterExecution : Option ClusterLvmExecutionRequest
  execution : Execution

variable (localeCompare : Text → Text → Ordering)

/-- The checks of a request on one node, which end with its confirmation. -/
def requirePreflightOk (scan : NodeScan) (clusterId : Option String) (action : VolumeAction)
    (payload : LvmPayload) : Except HttpError Unit := do
  throwIf scan.readOnly ⟨403, "SAN is read-only"⟩
  let _ ← assertClusteredSanAllowsLvmMutation clusterId scan.sanId none
  throwIf (!scan.sshReady) ⟨503, sshNotConnected⟩
  let pre := runLvmPreflight action payload (scan.overview localeCompare)
  let blockers := join " · " pre.blockers
  let confirmation := pre.requiredConfirmation
  throwIf (!pre.ok) ⟨422, if blockers ≠ "" then blockers else "Préflight échoué"⟩
  throwIf (trimString payload.confirmation ≠ confirmation)
    ⟨400, s!"Confirmation requise : {confirmation}"⟩

def assertNotEsosProtected (scan : NodeScan) (path : String) : Except HttpError Unit :=
  (Esos.assertBlockPathNotEsosProtectedForDestructive path.toList scan.systemProtection
    (scan.rows.map ScannedDevice.toEsos)).mapError fun e =>
      ⟨e.statusCode, String.ofList e.statusMessage⟩

namespace StandalonePvCreation

variable (c : StandalonePvCreation)

def routeAnswers : RouteAnswers :=
  { c.answers with
    preflight := requirePreflightOk localeCompare c.scan c.clusterId .pvcreate c.body
    hasManager := c.scan.sshReady
    protection := assertNotEsosProtected c.scan c.body.path }

def commands : List (String × List String) :=
  let answers := c.routeAnswers localeCompare
  match answers.preflight, answers.hasManager, answers.protection with
  | .ok _, true, .ok _ => [(c.scan.sanId, StandaloneRoute.args .pvCreate c.body)]
  | _, _, _ => []

end StandalonePvCreation

variable [CaseMapping]

namespace ClusterPvCreation

variable (c : ClusterPvCreation)

def primarySanId : String := (c.clusterExecution.map (·.primarySanId)).getD ""

def diskMappings : List ClusterLvmDiskMapping := (c.clusterExecution.bind (·.diskMappings)).getD []

def inventories : List ClusterLvmNodeInventory := c.scans.map (·.inventory localeCompare)

def plan : Except HttpError ClusterLvmExecutionPlan := do
  throwIf (c.clusterId.filter (· ≠ "") = none)
    ⟨400, "Exécution cluster requise pour un SAN clusterisé"⟩
  let own ← assertClusteredSanAllowsLvmMutation c.clusterId c.sanId c.clusterExecution
  let clusterId := ((c.clusterExecution.bind (·.clusterId)).or own).getD ""
  buildClusterPvCreatePlan (c.inventories localeCompare) c.primarySanId clusterId c.body
    c.diskMappings

def commands : List (String × List String) :=
  match c.plan localeCompare, c.clusterExecution with
  | .ok plan, some clusterExecution =>
    (sentCommands c.execution plan clusterExecution c.body c.diskMappings).map
      fun (node, args) => (node.sanId, args)
  | _, _ => []

end ClusterPvCreation

inductive PvCreation where
  | standalone (c : StandalonePvCreation)
  | cluster (c : ClusterPvCreation)

namespace PvCreation

def commands : PvCreation → List (String × List String)
  | standalone c => c.commands localeCompare
  | cluster c => c.commands localeCompare

def scans : PvCreation → List NodeScan
  | standalone c => [c.scan]
  | cluster c => c.scans

def force : PvCreation → Bool
  | standalone c => c.body.force
  | cluster c => c.body.force

/-- The path that a node is sent: on a cluster that of the client's mappings, or else the path on
the primary node. -/
def sentPath (sanId : String) : PvCreation → String
  | standalone c => c.body.path
  | cluster c => resolvePvPathOnNode sanId c.primarySanId c.body.path c.diskMappings

/-- The path that is checked on a node: on a cluster that of the client's mappings, or else of those
that are found for the device. -/
def checkedPathOn (scan : NodeScan) : PvCreation → Option String
  | standalone c => some (trimString c.body.path)
  | cluster c =>
    checkedPath c.primarySanId c.body.path
      (preflightMappings .pvcreate c.primarySanId c.body (c.inventories localeCompare)
        c.diskMappings) (scan.inventory localeCompare)

def kind : PvCreation → CheckKind
  | standalone c => ⟨false, c.body.force⟩
  | cluster c => ⟨true, c.body.force⟩

/-- The checks of the request look at a fact about the path that a node is sent: the path is the
one that is checked, and the fact is seen through the source that puts the path forward. Alone,
the path is always looked up among the devices of the ESOS system. -/
def Looks (request : PvCreation) (scan : NodeScan) (path : String) (e : Evidence) : Prop :=
  (request.kind.cluster = false ∧ e = .system) ∨
    (request.checkedPathOn localeCompare scan = some path ∧ trimString path = path ∧
      ∃ source, scan.candidateInput.sources.find?
        (scan.candidateInput.pathOf · = some path.toList) = some source ∧
          Sees scan.candidateInput request.kind source e)

/-- Physical volumes are made on free devices only. -/
def Safe (request : PvCreation) : Prop :=
  ∀ sent ∈ request.commands localeCompare, ∃ path, sent.2 = pvCreateArgs path request.force ∧
    ∀ scan ∈ request.scans, scan.sanId = sent.1 → scan.IsFree path

end PvCreation

end EsosWebui.Lvm

namespace EsosWebui.Lvm

open Js
open Raid (HttpError)
open Candidates

theorem pvCreateArgs_injective {path path' : String} {force : Bool}
    (h : pvCreateArgs path force = pvCreateArgs path' force) : path = path' := by
  simpa [pvCreateArgs] using h

variable {sent : String × List String} {scan : NodeScan}

section

variable {localeCompare : Text → Text → Ordering}

theorem mem_commands_standalone {c : StandalonePvCreation} :
    sent ∈ c.commands localeCompare ↔
      (c.routeAnswers localeCompare).Reaches .pvCreate ∧
        sent = (c.scan.sanId, pvCreateArgs c.body.path c.body.force) := by
  simp only [StandalonePvCreation.commands]
  constructor
  · intro hSent
    split at hSent
    · rename_i hPreflight hManager hProtection
      exact ⟨⟨hPreflight, hManager, fun _ => hProtection⟩, List.mem_singleton.mp hSent⟩
    · cases hSent
  · rintro ⟨⟨hPreflight, hManager, hProtection⟩, rfl⟩
    rw [hPreflight, hManager, hProtection rfl]
    exact List.mem_singleton.mpr rfl

theorem preflight_of_requirePreflightOk {clusterId : Option String} {action : VolumeAction}
    {payload : LvmPayload} {u : Unit}
    (h : requirePreflightOk localeCompare scan clusterId action payload = .ok u) :
    (runLvmPreflight action payload (scan.overview localeCompare)).ok := by
  obtain ⟨_, -, h⟩ := bind_eq_ok.mp h
  obtain ⟨_, -, h⟩ := bind_eq_ok.mp h
  obtain ⟨_, -, h⟩ := bind_eq_ok.mp h
  obtain ⟨_, hOk, -⟩ := bind_eq_ok.mp h
  simpa using throwIf_eq_ok.mp hOk

theorem candidate_of_overview {path : String} {cand : LvmCandidateDevice}
    (h : (scan.overview localeCompare).candidates.find? (·.path == path) = some cand) :
    ∃ c ∈ scan.candidateInput.candidates, c.path = path.toList ∧ toCandidateDevice c = cand := by
  obtain ⟨c, hc, rfl⟩ := List.mem_map.mp (List.mem_of_find?_eq_some h)
  refine ⟨c, mem_buildLvmCandidates.mp hc, ?_, rfl⟩
  have hPath : String.ofList c.path = path := by simpa [toCandidateDevice] using List.find?_some h
  rw [← hPath, String.toList_ofList]

theorem accepted_of_mayCreatePv {payload : LvmPayload} {kind : CheckKind} {path : String}
    (h : MayCreatePv payload (scan.overview localeCompare)) (hTrim : trimString payload.path = path)
    (hForce : payload.force = kind.force)
    (hCluster : kind.cluster = true → MayInitialise (scan.inventory localeCompare) kind.force path)
    (hAlone : kind.cluster = false → scan.protection path = none) :
    ∃ c, Accepted scan kind path c := by
  obtain ⟨-, -, ⟨cand, hFind, hFine⟩, hPv⟩ := h
  rw [hTrim] at hFind hPv
  obtain ⟨c, hc, hPath, rfl⟩ := candidate_of_overview hFind
  refine ⟨c, hc, hPath, ?_, ?_, ?_, hAlone⟩
  · rcases hFine with hEligible | hForced | hNoReason
    · exact Or.inl hEligible
    · exact Or.inr (hForce ▸ hForced)
    · obtain ⟨source, -, hCandidate⟩ := (mem_candidates_iff c).mp hc
      exact Or.inl ((eligible_iff_reasons hCandidate).mpr (List.map_eq_nil_iff.mp hNoReason))
  · intro hIsCluster
    obtain ⟨-, hMounted, hReasons, hScst, hLvm⟩ := (hCluster hIsCluster).candidate _ hFind
    exact ⟨hMounted, fun r hr => hReasons _ (List.mem_map_of_mem hr), hScst, hLvm⟩
  · intro hMem
    obtain ⟨pv, hPvMem, hSame⟩ := List.mem_map.mp hMem
    exact hPv pv hPvMem (String.toList_injective hSame)

end

section

variable {localeCompare : Text → Text → Ordering} [CaseMapping]

theorem accepted_of_cluster {c : ClusterPvCreation} {pre : ClusterLvmPreflightResult}
    (hPre : runClusterLvmPreflight (c.inventories localeCompare) c.primarySanId .pvcreate c.body
      c.diskMappings = .ok pre)
    (hOk : pre.ok) (hScan : scan ∈ c.scans) {path : String} (hTrim : trimString path = path)
    (hPath : (PvCreation.cluster c).checkedPathOn localeCompare scan = some path) :
    ∃ cand, Accepted scan (PvCreation.cluster c).kind path cand := by
  obtain ⟨hNodes, -, hChecks⟩ := checks_of_runClusterLvmPreflight hPre hOk
  have hMem : scan.inventory localeCompare ∈ c.inventories localeCompare :=
    List.mem_map_of_mem hScan
  have hReady := (hNodes _ hMem).1
  simp only [actionValidation, List.append_eq_nil_iff, List.flatMap_eq_nil_iff,
    List.mem_map, forall_exists_index, and_imp, forall_apply_eq_imp_iff₂] at hChecks
  obtain ⟨hPaths, hEach⟩ := hChecks
  obtain ⟨path', hPath', hMay⟩ := mayInitialise_of_validate hPaths hMem
  obtain rfl : path' = path := Option.some.inj (hPath'.symm.trans hPath)
  have hHere := hEach _ hMem
  have hResolve : (resolveNodePvPath (scan.inventory localeCompare) c.primarySanId c.body.path
      (preflightMappings .pvcreate c.primarySanId c.body (c.inventories localeCompare)
        c.diskMappings)).filter (· ≠ "") = some path' := by
    simpa [checkedPath, hReady] using hPath'
  simp only [pvCreateOnNode, hResolve, nodePreflight, hReady, Bool.not_true, Bool.false_eq_true,
    if_false, List.map_eq_nil_iff, blockers_runLvmPreflight_eq_nil_iff] at hHere
  have hCreate := mayCreatePv_of_ok hHere
  exact accepted_of_mayCreatePv hCreate hTrim rfl (fun _ => hMay) (fun hAlone => by cases hAlone)

theorem mem_commands_cluster {c : ClusterPvCreation} (h : sent ∈ c.commands localeCompare) :
    (∃ pre, runClusterLvmPreflight (c.inventories localeCompare) c.primarySanId .pvcreate c.body
      c.diskMappings = .ok pre ∧ pre.ok = true) ∧
    sent.2 = pvCreateArgs (resolvePvPathOnNode sent.1 c.primarySanId c.body.path c.diskMappings)
      c.body.force := by
  unfold ClusterPvCreation.commands at h
  split at h
  · rename_i plan clusterExecution hPlan hExecution
    obtain ⟨_, -, hPlan⟩ := bind_eq_ok.mp hPlan
    obtain ⟨own, -, hBuild⟩ := bind_eq_ok.mp hPlan
    obtain ⟨pre, hPre, hPlanOf⟩ := bind_eq_ok.mp hBuild
    obtain rfl := Except.ok.inj hPlanOf
    obtain ⟨⟨node, args⟩, hEntry, rfl⟩ := List.mem_map.mp h
    obtain ⟨hExecutable, -, hArgs⟩ := of_mem_sentCommands hEntry
    refine ⟨⟨pre, hPre, preflight_of_executable hExecutable⟩, ?_⟩
    have hPrimary : c.primarySanId = clusterExecution.primarySanId := by
      rw [ClusterPvCreation.primarySanId, hExecution]
      rfl
    rw [hPrimary]
    exact (Option.some.inj hArgs).symm
  · cases h

end

section

variable {localeCompare : Text → Text → Ordering} [CaseMapping]

theorem args_of_mem_commands {request : PvCreation} (h : sent ∈ request.commands localeCompare) :
    sent.2 = pvCreateArgs (request.sentPath sent.1) request.force := by
  cases request with
  | standalone c =>
    obtain ⟨-, rfl⟩ := mem_commands_standalone.mp h
    rfl
  | cluster c => exact (mem_commands_cluster h).2

theorem not_against_of_looks {request : PvCreation} (hSent : sent ∈ request.commands localeCompare)
    (hScan : scan ∈ request.scans) (hNode : scan.sanId = sent.1) {e : Evidence}
    (hLooks : request.Looks localeCompare scan (request.sentPath sent.1) e) :
    ¬e.Against scan (request.sentPath sent.1) := by
  have hSystem (hAlone : request.kind.cluster = false) :
      scan.protection (request.sentPath sent.1) = none := by
    cases request with
    | cluster c => cases hAlone
    | standalone c =>
      obtain ⟨hReaches, -⟩ := mem_commands_standalone.mp hSent
      obtain rfl : scan = c.scan := List.mem_singleton.mp hScan
      have hCheck := mapError_eq_ok.mp (hReaches.protection rfl)
      exact (Esos.assertBlockPathNotEsosProtectedForDestructive_eq_ok.mp hCheck).2
  rcases hLooks with ⟨hAlone, rfl⟩ | ⟨hChecked, hTrim, source, hFirst, hSees⟩
  · exact fun hAgainst => hAgainst (hSystem hAlone)
  · obtain ⟨cand, hAccepted⟩ :
        ∃ cand, Accepted scan request.kind (request.sentPath sent.1) cand := by
      cases request with
      | standalone c =>
        obtain ⟨hReaches, -⟩ := mem_commands_standalone.mp hSent
        obtain rfl : scan = c.scan := List.mem_singleton.mp hScan
        have hCreate := mayCreatePv_of_ok (preflight_of_requirePreflightOk hReaches.preflight)
        exact accepted_of_mayCreatePv hCreate hTrim rfl (fun hCluster => by cases hCluster)
          hSystem
      | cluster c =>
        obtain ⟨⟨pre, hPre, hOk⟩, -⟩ := mem_commands_cluster hSent
        exact accepted_of_cluster hPre hOk hScan hTrim hChecked
    obtain ⟨source', hFirst', hCandidate⟩ := (mem_candidates_iff cand).mp hAccepted.candidate
    rw [hAccepted.samePath] at hFirst'
    obtain rfl : source = source' := Option.some.inj (hFirst.symm.trans hFirst')
    exact not_against_of_sees hAccepted (List.mem_of_find?_eq_some hFirst) hCandidate hSees

end

def mountedArrayScan : NodeScan where
  sanId := "san1"
  label := "Node 1"
  tools := { pvcreate := true }
  rows :=
    [{ name := "md0"
       path := "/dev/md0"
       type := .raid
       mountpoint := some "/data"
       usedBy := [.mounted, .filesystem, .md] }]

def forcedCreation : StandalonePvCreation where
  scan := mountedArrayScan
  clusterId := none
  body := { path := "/dev/md0", force := true, confirmation := "PVCREATE /dev/md0" }
  answers :=
    { status := some .connected, exec := fun _ => .error "timeout", lvs := .ok [] }

end EsosWebui.Lvm
