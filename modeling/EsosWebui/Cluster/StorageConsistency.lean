import EsosWebui.Raid.NodeState
import Mathlib.Data.Multiset.Lattice
import Mathlib.Order.BoundedOrder.Basic

/-! The health verdict of a cluster's storage: a loop over the array names that raises one mutable
value by the findings of each array, or by an evaluation that throws. -/
namespace EsosWebui.Cluster

open Js Raid

/-- The values of `overall` while the loop runs. -/
inductive ClusterHealth where
  | ok
  | warning
  | critical
  deriving DecidableEq

def ClusterHealth.rank : ClusterHealth → Nat
  | .ok => 0
  | .warning => 1
  | .critical => 2

instance : LinearOrder ClusterHealth :=
  LinearOrder.lift' ClusterHealth.rank fun a b h => by
    cases a <;> cases b <;> first | rfl | exact absurd h (by decide)

instance : OrderBot ClusterHealth where
  bot := .ok
  bot_le a := by cases a <;> decide

structure MdLvmSymmetryIssue where
  severity : Severity
  message : String

/-- A letter under the flag `i`. -/
def foldCase (c : Char) : Char := if c = 'É' then 'é' else c.toLower

/-- `/est utilisé par LVM/i` -/
def isMdLvmUsageBlocker (message : String) : Bool :=
  contains (message.toList.map foldCase) "est utilisé par lvm".toList

def filterMdClusterAsymmetryHardBlockers (hardBlockers : List String)
    (lvmIssues : List MdLvmSymmetryIssue) : List String :=
  if hardBlockers = [] then hardBlockers
  else if hardBlockers.filter (fun b => !isMdLvmUsageBlocker b) ≠ [] then hardBlockers
  else if !lvmIssues.any fun i => i.severity == .critical then []
  else hardBlockers

def isMdUuidMismatchMessage (message : String) : Bool :=
  includes message "UUID MD différents" ||
    contains (message.toList.map Char.toLower) "different md uuid".toList

def filterMdHealthWarnings (warnings : List String) (mode : Option ClusterMdStorageMode) :
    List String :=
  if resolveClusterMdStorageMode mode ≠ .localSymmetric then warnings
  else warnings.filter fun w => !isMdUuidMismatchMessage w

structure ArrayEvaluation where
  assessment : ClusterMdRecoveryAssessment
  mdLvmIssues : List MdLvmSymmetryIssue

namespace ArrayEvaluation

variable (evaluation : ArrayEvaluation)

def healthBlockers : List String :=
  filterMdClusterAsymmetryHardBlockers evaluation.assessment.hardBlockers evaluation.mdLvmIssues

def healthWarnings : List String := filterMdHealthWarnings evaluation.assessment.warnings none

def hasCriticalLvmAsymmetry : Bool :=
  evaluation.mdLvmIssues.any fun i => i.severity == .critical

end ArrayEvaluation

structure ConsistencyArray where
  arrayName : String
  okSymmetric : Bool
  okDegraded : Bool
  hardBlockers : List String
  warnings : List String

def clusterArrayNames (inventories : List ClusterStorageNodeInventory) : List String :=
  unique (inventories.flatMap fun inv =>
    inv.mdArrays.map (·.name) ++
      (inv.stoppedMdArrays.map (·.name)).filter fun name => name != "" && name != "unknown")

def reportArray (name : String) : Option ArrayEvaluation → ConsistencyArray
  | some evaluation =>
    { arrayName := name
      okSymmetric := evaluation.assessment.structurallySymmetric
      okDegraded := evaluation.assessment.okDegraded
      hardBlockers := evaluation.healthBlockers
      warnings := evaluation.healthWarnings }
  | none =>
    { arrayName := name
      okSymmetric := false
      okDegraded := false
      hardBlockers := ["Évaluation symétrie impossible"]
      warnings := [] }

/-- The value of `overall` after one more array; `none` is an evaluation that throws. -/
def nextOverall (overall : ClusterHealth) : Option ArrayEvaluation → ClusterHealth
  | some evaluation =>
    if evaluation.healthBlockers ≠ [] ∨ evaluation.hasCriticalLvmAsymmetry then .critical
    else if !evaluation.assessment.structurallySymmetric && overall == .ok then .warning
    else if evaluation.healthWarnings ≠ [] ∧ overall = .ok then .warning
    else overall
  | none => .warning

/-- What the inventory of each node is reported as. -/
structure ConsistencyNode where
  sanId : String
  label : String
  sshReady : Bool
  mdActiveCount : Nat
  stoppedMdCount : Nat
  hasMdDetection : Bool
  error : Option String

def consistencyNode (inv : ClusterStorageNodeInventory) : ConsistencyNode :=
  { sanId := inv.sanId
    label := inv.label
    sshReady := inv.sshReady
    mdActiveCount := inv.mdArrays.length
    stoppedMdCount := inv.stoppedMdArrays.length
    hasMdDetection := inv.mdArrays.length > 0 || inv.stoppedMdArrays.length > 0
    error := inv.error }

def consistencySummary (mdArrays : List ConsistencyArray) : String :=
  let count := mdArrays.length
  let asymmetricCount := (mdArrays.filter fun a => !a.okSymmetric).length
  if count = 0 then "Aucun tableau MD détecté sur le cluster"
  else if asymmetricCount = 0 then s!"{count} tableau(x) MD symétrique(s)"
  else s!"{asymmetricCount} tableau(x) MD avec écart structurel entre nœuds"

structure ClusterStorageConsistency where
  /-- `none` is `'unknown'`. -/
  overall : Option ClusterHealth
  mdSummary : String
  mdArrays : List ConsistencyArray
  nodes : List ConsistencyNode

section

variable (evaluate : String → Option ArrayEvaluation)
  (inventories : List ClusterStorageNodeInventory)

/-- `overall` after the arrays with these names, in this order. -/
def overallAfter (names : List String) : ClusterHealth :=
  names.foldl (fun overall name => nextOverall overall (evaluate name)) .ok

/-- `overall` after the loop and the test of the connections. -/
def overallOf (names : List String) : ClusterHealth :=
  let overall := overallAfter evaluate names
  if inventories.any fun i => !i.sshReady then
    if overall = .critical then .critical else .warning
  else overall

def buildClusterStorageConsistency : ClusterStorageConsistency :=
  let arrayNames := clusterArrayNames inventories
  let mdArrays := arrayNames.map fun name => reportArray name (evaluate name)
  { overall := if inventories = [] then none else some (overallOf evaluate inventories arrayNames)
    mdSummary := consistencySummary mdArrays
    mdArrays
    nodes := inventories.map consistencyNode }

/-- How bad an array is found to be, on its own. -/
def findingOf (name : String) : ClusterHealth :=
  match evaluate name with
  | some evaluation =>
    if evaluation.healthBlockers ≠ [] ∨ evaluation.hasCriticalLvmAsymmetry then .critical
    else if evaluation.assessment.structurallySymmetric = false ∨
        evaluation.healthWarnings ≠ [] then .warning
    else .ok
  | none => .warning

def arrayFindings (names : List String) : Multiset ClusterHealth := names.map (findingOf evaluate)

def nodeFindings : Multiset ClusterHealth :=
  inventories.map fun i => if i.sshReady then ClusterHealth.ok else .warning

/-- The verdict is the worst finding, it grows along the loop, and the order is no matter. -/
structure VerdictIsWorst : Prop where
  worst : inventories ≠ [] → (buildClusterStorageConsistency evaluate inventories).overall =
    some (arrayFindings evaluate (clusterArrayNames inventories) + nodeFindings inventories).sup
  grows : ∀ visited name, visited ++ [name] <+: clusterArrayNames inventories →
    overallAfter evaluate visited ≤ overallAfter evaluate (visited ++ [name])
  anyOrder : ∀ names, names.Perm (clusterArrayNames inventories) →
    overallOf evaluate inventories names =
      overallOf evaluate inventories (clusterArrayNames inventories)

/-- Some array is found critical, and the evaluation of some array throws. -/
def CriticalAndThrown (names : List String) : Prop :=
  (∃ name ∈ names, findingOf evaluate name = .critical) ∧ ∃ name ∈ names, evaluate name = none

end

section

variable {evaluate : String → Option ArrayEvaluation}
  {inventories : List ClusterStorageNodeInventory} {names visited : List String} {name : String}
  {overall : ClusterHealth}

theorem le_warning_iff : overall ≤ .warning ↔ overall ≠ .critical := by
  cases overall <;> decide

/-- One array raises the verdict to its finding, unless it takes a critical verdict back. -/
theorem nextOverall_eq_sup (h : evaluate name = none → overall ≠ .critical) :
    nextOverall overall (evaluate name) = overall ⊔ findingOf evaluate name := by
  unfold findingOf
  cases hEval : evaluate name with
  | none =>
    have hLe : overall ≤ .warning := le_warning_iff.mpr (h hEval)
    exact (sup_eq_right.mpr hLe).symm
  | some evaluation =>
    simp only [nextOverall]
    by_cases hCritical : evaluation.healthBlockers ≠ [] ∨ evaluation.hasCriticalLvmAsymmetry
    · simp only [hCritical, if_true]
      cases overall <;> rfl
    · simp only [hCritical, if_false]
      cases hSymmetric : evaluation.assessment.structurallySymmetric <;>
        by_cases hWarnings : evaluation.healthWarnings = [] <;>
        cases overall <;> simp [hWarnings] <;> decide

theorem overallAfter_concat :
    overallAfter evaluate (visited ++ [name]) =
      nextOverall (overallAfter evaluate visited) (evaluate name) := by
  simp [overallAfter]

theorem sup_nodeFindings : (nodeFindings inventories).sup =
    if inventories.any fun i => !i.sshReady then ClusterHealth.warning else .ok := by
  induction inventories with
  | nil => rfl
  | cons inv inventories ih =>
    have hCons : (nodeFindings (inv :: inventories)).sup =
        (if inv.sshReady then ClusterHealth.ok else .warning) ⊔
          (nodeFindings inventories).sup := by
      rw [← Multiset.sup_cons]
      rfl
    rw [hCons, ih]
    cases hReady : inv.sshReady <;>
      cases hAny : inventories.any (fun i => !i.sshReady) <;> simp [hReady, hAny] <;> decide

theorem overallOf_eq_sup : overallOf evaluate inventories names =
    overallAfter evaluate names ⊔ (nodeFindings inventories).sup := by
  rw [sup_nodeFindings, overallOf]
  cases inventories.any (fun i => !i.sshReady) <;> cases overallAfter evaluate names <;> decide

theorem overallOf_eq_critical_iff :
    overallOf evaluate inventories names = .critical ↔
      overallAfter evaluate names = .critical := by
  rw [overallOf]
  cases inventories.any (fun i => !i.sshReady) <;> cases overallAfter evaluate names <;> decide

theorem CriticalAndThrown.mono (h : CriticalAndThrown evaluate visited)
    (hSub : visited ⊆ names) : CriticalAndThrown evaluate names := by
  obtain ⟨⟨a, hA, hCritical⟩, b, hB, hThrown⟩ := h
  exact ⟨⟨a, hSub hA, hCritical⟩, b, hSub hB, hThrown⟩

theorem arrayFindings_concat : (arrayFindings evaluate (visited ++ [name])).sup =
    (arrayFindings evaluate visited).sup ⊔ findingOf evaluate name := by
  have hAppend : arrayFindings evaluate (visited ++ [name]) =
      arrayFindings evaluate visited + {findingOf evaluate name} := by
    rw [arrayFindings, List.map_append, ← Multiset.coe_add]
    rfl
  rw [hAppend, Multiset.sup_add, Multiset.sup_singleton]

theorem findingOf_le_sup (h : name ∈ names) :
    findingOf evaluate name ≤ (arrayFindings evaluate names).sup :=
  Multiset.le_sup (Multiset.mem_coe.mpr (List.mem_map_of_mem h))

theorem findingOf_le_all (h : name ∈ names) : findingOf evaluate name ≤
    (arrayFindings evaluate names + nodeFindings inventories).sup :=
  (findingOf_le_sup h).trans (le_sup_left.trans_eq (Multiset.sup_add _ _).symm)

theorem exists_critical_of_sup (h : (arrayFindings evaluate names).sup = .critical) :
    ∃ name ∈ names, findingOf evaluate name = .critical := by
  by_contra hNone
  push Not at hNone
  have hLe : (arrayFindings evaluate names).sup ≤ .warning := by
    refine Multiset.sup_le.mpr fun found hFound => ?_
    obtain ⟨name, hName, rfl⟩ := List.mem_map.mp (Multiset.mem_coe.mp hFound)
    exact le_warning_iff.mpr (hNone name hName)
  exact le_warning_iff.mp hLe h

theorem overallAfter_eq_sup (h : ¬ CriticalAndThrown evaluate names) :
    overallAfter evaluate names = (arrayFindings evaluate names).sup := by
  induction names using List.reverseRecOn with
  | nil => rfl
  | append_singleton visited name ih =>
    have hVisited := ih fun hBoth => h (hBoth.mono (List.subset_append_left _ _))
    have hNext : evaluate name = none → overallAfter evaluate visited ≠ .critical := by
      intro hThrown hCritical
      rw [hVisited] at hCritical
      obtain ⟨critical, hMem, hFinding⟩ := exists_critical_of_sup hCritical
      exact h ⟨⟨critical, List.mem_append_left _ hMem, hFinding⟩,
        name, List.mem_append_right _ (List.mem_singleton_self _), hThrown⟩
    rw [overallAfter_concat, nextOverall_eq_sup hNext, hVisited, arrayFindings_concat]

theorem CriticalAndThrown.perm (h : names.Perm visited) :
    CriticalAndThrown evaluate names ↔ CriticalAndThrown evaluate visited :=
  ⟨fun hBoth => hBoth.mono h.subset, fun hBoth => hBoth.mono h.symm.subset⟩

/-- An evaluation that throws and comes last takes every verdict back. -/
theorem overallAfter_thrown_last (hThrown : evaluate name = none) :
    overallAfter evaluate (visited ++ [name]) = .warning := by
  rw [overallAfter_concat, hThrown]
  rfl

theorem verdict_is_worst_iff (evaluate : String → Option ArrayEvaluation)
    (inventories : List ClusterStorageNodeInventory) :
    VerdictIsWorst evaluate inventories ↔
      ¬ CriticalAndThrown evaluate (clusterArrayNames inventories) := by
  constructor
  · rintro ⟨hWorst, -, hOrder⟩ ⟨⟨critical, hCritical, hFinding⟩, thrown, hMem, hThrown⟩
    have hNe : inventories ≠ [] := by
      rintro rfl
      simp [clusterArrayNames, unique] at hCritical
    have hOverall : overallOf evaluate inventories (clusterArrayNames inventories) = .critical := by
      have hWorst := hWorst hNe
      simp only [buildClusterStorageConsistency, if_neg hNe, Option.some.injEq] at hWorst
      have hLe := @findingOf_le_all evaluate inventories _ _ hCritical
      rw [hWorst, ← not_ne_iff, ← le_warning_iff, not_le]
      rw [hFinding] at hLe
      exact lt_of_lt_of_le (by decide) hLe
    have hPerm := (List.perm_cons_erase hMem).trans (List.perm_append_singleton thrown _).symm
    have hLast := hOrder _ hPerm.symm
    rw [hOverall, overallOf_eq_critical_iff, overallAfter_thrown_last hThrown] at hLast
    cases hLast
  · intro hNot
    refine ⟨fun hNe => ?_, fun visited name hPrefix => ?_, fun names hPerm => ?_⟩
    · rw [buildClusterStorageConsistency, if_neg hNe, overallOf_eq_sup, overallAfter_eq_sup hNot,
        Multiset.sup_add]
    · have hNext : ¬ CriticalAndThrown evaluate (visited ++ [name]) := fun hBoth =>
        hNot (hBoth.mono hPrefix.subset)
      have hVisited : ¬ CriticalAndThrown evaluate visited := fun hBoth =>
        hNext (hBoth.mono (List.subset_append_left _ _))
      rw [overallAfter_eq_sup hVisited, overallAfter_eq_sup hNext, arrayFindings_concat]
      exact le_sup_left
    · have hNames : ¬ CriticalAndThrown evaluate names :=
        (CriticalAndThrown.perm hPerm).not.mpr hNot
      have hSame : arrayFindings evaluate names =
          arrayFindings evaluate (clusterArrayNames inventories) :=
        Multiset.coe_eq_coe.mpr (hPerm.map _)
      rw [overallOf_eq_sup, overallOf_eq_sup, overallAfter_eq_sup hNames, overallAfter_eq_sup hNot,
        hSame]

end

def twoArrayNodes : List ClusterStorageNodeInventory :=
  ["a", "b"].map fun id =>
    { sanId := id
      label := id
      mdArrays := [{ name := "md0", path := "/dev/md0" }, { name := "md1", path := "/dev/md1" }] }

def mountedThenThrown (name : String) : Option ArrayEvaluation :=
  if name = "md0" then
    some ⟨{ hardBlockers := ["a : /dev/md0 est monté"], structurallySymmetric := true }, []⟩
  else none

theorem mounted_reported_warning :
    (buildClusterStorageConsistency mountedThenThrown twoArrayNodes).overall = some .warning ∧
      ¬ VerdictIsWorst mountedThenThrown twoArrayNodes := by
  have hOverall :
      (buildClusterStorageConsistency mountedThenThrown twoArrayNodes).overall = some .warning := by
    decide
  refine ⟨hOverall, fun hLaw => ?_⟩
  have hWorst := hLaw.worst (by decide)
  rw [hOverall, Option.some.injEq] at hWorst
  have hMember : "md0" ∈ clusterArrayNames twoArrayNodes := by decide
  have hLe := @findingOf_le_all mountedThenThrown twoArrayNodes _ _ hMember
  rw [← hWorst] at hLe
  revert hLe
  decide

end EsosWebui.Cluster
