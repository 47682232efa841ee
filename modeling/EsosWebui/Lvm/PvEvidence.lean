import EsosWebui.Lvm.NodeScan

/-! Which facts of a scan the checks of a new physical volume look at. -/
namespace EsosWebui.Lvm

open Js
open Candidates
open LvmCandidateInventoryInput
open Raid.Inventory (BlockDevice)

def rowOf (input : LvmCandidateInventoryInput) : Source → Option BlockDevice
  | .array _ => none
  | .drive _ ld => (hwLdPath ld).bind (findBlockDeviceByPath input.blockDevices)
  | .device dev => some dev

/-- How a request is checked: alone, with a lookup of the path among the devices of the ESOS
system, or on a cluster, with a look at the usages of the candidate. -/
structure CheckKind where
  cluster : Bool
  force : Bool

/-- The usages of a candidate are looked at. -/
def CheckKind.SeesUsages (kind : CheckKind) : Prop := kind.force = false ∨ kind.cluster = true

/-- The checks look at a fact, for a path that a source has put forward. -/
def Sees (input : LvmCandidateInventoryInput) (kind : CheckKind) (source : Source) :
    Evidence → Prop
  | .unlisted => kind.force = false ∨ ∀ ctrl ld, source = .drive ctrl ld → rowOf input source ≠ none
  | .row dev .member => rowOf input source = some dev ∧ kind.force = false ∧
      ∀ row, source = .device row → candidateKind row ≠ .md
  | .row dev _ => rowOf input source = some dev ∧ kind.SeesUsages
  -- of an array that is offered, only these usages are looked at
  | .array arr use => source = .array arr ∧ (use = .volume ∨ use = .exported) ∧ kind.SeesUsages
  | .physicalVolume => True
  -- no check compares the path with the members of the arrays
  | .memberOf _ => False
  | .system => kind.cluster = false ∨ (kind.force = false ∧ rowOf input source ≠ none)

/-- What the checks find in a scan for an accepted path: the candidate of the path, and by the kind
of the request what is looked at beside it. -/
structure Accepted (scan : NodeScan) (kind : CheckKind) (path : String) (c : Candidate) :
    Prop where
  candidate : c ∈ scan.candidateInput.candidates
  samePath : c.path = path.toList
  eligible : c.eligible = true ∨ kind.force = true
  usages : kind.cluster = true →
    .mounted ∉ c.usedBy ∧ (∀ r ∈ c.reasons, mentions "monté" (String.ofList r) = false) ∧
      .scst ∉ c.usedBy ∧ .lvm ∉ c.usedBy
  notPv : path.toList ∉ scan.candidateInput.pvPaths
  notSystem : kind.cluster = false → scan.protection path = none

variable {dev : BlockDevice}

theorem mem_mapUsedBy_of_mem {used : LvmUsedBy} (h : usageOf used ∈ dev.usedBy) :
    used ∈ mapUsedBy dev := by
  simp only [mapUsedBy, mem_unique, List.mem_append, List.mem_filterMap]
  exact Or.inl ⟨usageOf used, h, (lvmUsage_eq_some_iff _ _).mpr rfl⟩

theorem mentions_mountedOn (mountPoint : Text) :
    mentions "monté" (String.ofList (mountedOn mountPoint)) := by
  have hText : (mountedOn mountPoint).map foldCase =
      ("Monté sur ".toList).map foldCase ++ mountPoint.map foldCase := List.map_append
  have hWord : "monté".toList <+: ("Monté sur ".toList).map foldCase := ⟨" sur ".toList, rfl⟩
  rw [mentions, String.toList_ofList, hText, contains_iff]
  exact (hWord.trans (List.prefix_append _ _)).isInfix

variable {input : LvmCandidateInventoryInput} {c : Candidate} {source : Source}

theorem candidate_of_row (h : input.candidate source = some c)
    (hRow : rowOf input source = some dev) :
    c.usedBy = mapUsedBy dev ∧
      (Esos.isSetText dev.mountpoint = true → mountedOn (dev.mountpoint.getD []) ∈ c.reasons) := by
  cases source with
  | array arr => cases hRow
  | drive ctrl ld =>
    simp only [candidate, driveCandidate] at h
    split at h
    · cases h
    next hUsable =>
    cases hPath : hwLdPath ld with
    | none => simp [rowOf, hPath] at hRow
    | some path =>
      have hFind : findBlockDeviceByPath input.blockDevices path = some dev := by
        simpa [rowOf, hPath] using hRow
      simp only [hPath, hFind, evaluateHwRaidLdFromBlockDevice] at h
      split at h
      · cases h
      split at h
      · cases h
      obtain rfl := Option.some.inj h
      refine ⟨rfl, ?_⟩
      intro hMounted
      have hSome : mountedOn (dev.mountpoint.getD []) ∈ collectBlockDevReasons dev := by
        simp only [collectBlockDevReasons, if_pos hMounted, List.mem_append, List.mem_singleton,
          true_or]
      have hNe : collectBlockDevReasons dev ≠ [] := List.ne_nil_of_mem hSome
      simpa only [Candidate.judged, evaluateHwBackendEligibility, if_neg hUsable, hNe,
        decide_false, Bool.false_eq_true, if_false] using hSome
  | device row =>
    obtain rfl : row = dev := Option.some.inj hRow
    simp only [candidate, evaluateBlockDevice] at h
    split at h
    · cases h
    split at h
    · cases h
    obtain rfl := Option.some.inj h
    refine ⟨rfl, ?_⟩
    intro hMounted
    simp only [Candidate.judged, blockDeviceReasons, hMounted, Bool.true_or, if_true,
      List.mem_append, List.mem_singleton, true_or, or_true]

theorem candidate_of_array {arr : Raid.Inventory.MdArray}
    (h : input.candidate (.array arr) = some c) :
    (Raid.Usage.lvm ∈ arr.usedBy → .lvm ∈ c.usedBy) ∧
      (Raid.Usage.scst ∈ arr.usedBy → .scst ∈ c.usedBy) := by
  simp only [candidate, arrayCandidate] at h
  split at h
  · cases h
  obtain rfl := Option.some.inj h
  constructor
  · intro hLvm
    simp [Candidate.judged, hLvm]
  · intro hScst
    simp [Candidate.judged, hScst]

theorem eligible_iff_reasons (h : input.candidate source = some c) :
    c.eligible = true ↔ c.reasons = [] := by
  have hJudged : ∃ d : Candidate, c = d.judged := by
    cases source with
    | array arr =>
      simp only [candidate, arrayCandidate] at h
      split at h
      · cases h
      exact ⟨_, (Option.some.inj h).symm⟩
    | drive ctrl ld =>
      simp only [candidate, driveCandidate] at h
      split at h
      · cases h
      split at h
      · exact ⟨_, (Option.some.inj h).symm⟩
      split at h
      · cases h
      split at h
      · simp only [evaluateHwRaidLdFromBlockDevice] at h
        split at h
        · cases h
        exact ⟨_, (Option.some.inj h).symm⟩
      · exact ⟨_, (Option.some.inj h).symm⟩
    | device dev =>
      simp only [candidate, evaluateBlockDevice] at h
      split at h
      · cases h
      split at h
      · cases h
      exact ⟨_, (Option.some.inj h).symm⟩
  obtain ⟨d, rfl⟩ := hJudged
  exact judged_eligible d

theorem row_of_eligible (h : input.candidate source = some c) (hEligible : c.eligible)
    {ctrl ld} (hDrive : source = .drive ctrl ld) : rowOf input source ≠ none := by
  subst hDrive
  intro hNone
  apply (eligible_candidate h).mp hEligible
  intro path hPath dev hDev
  rw [Option.mem_def] at hPath hDev
  simp [rowOf, hPath, hDev] at hNone

theorem row_listed (hSource : source ∈ input.sources) (h : input.candidate source = some c)
    (hRow : rowOf input source = some dev) : dev ∈ input.blockDevices ∧ dev.path = c.path := by
  have hPathOf : input.pathOf source = some c.path := by
    rw [← map_path_candidate, h]
    rfl
  cases source with
  | array arr => cases hRow
  | drive ctrl ld =>
    cases hPath : hwLdPath ld with
    | none => simp [rowOf, hPath] at hRow
    | some path =>
      have hFind : findBlockDeviceByPath input.blockDevices path = some dev := by
        simpa [rowOf, hPath] using hRow
      constructor
      · unfold findBlockDeviceByPath at hFind
        split at hFind
        · cases hFind
        · exact List.mem_of_find?_eq_some hFind
      · simp only [pathOf, hPath, hFind] at hPathOf
        split at hPathOf
        · cases hPathOf
        split at hPathOf
        · cases hPathOf
        split at hPathOf
        · cases hPathOf
        exact Option.some.inj hPathOf
  | device row =>
    obtain rfl : row = dev := Option.some.inj hRow
    constructor
    · simp only [sources, List.mem_append, List.mem_map, List.mem_flatMap] at hSource
      obtain (⟨arr, -, hArr⟩ | ⟨ctrl, -, ld, -, hLd⟩) | ⟨dev, hDev, hSame⟩ := hSource
      · cases hArr
      · cases hLd
      · obtain rfl := Source.device.inj hSame
        exact (List.mem_filter.mp hDev).1
    · simp only [pathOf] at hPathOf
      split at hPathOf
      · cases hPathOf
      split at hPathOf
      · cases hPathOf
      exact Option.some.inj hPathOf

variable {scan : NodeScan} {kind : CheckKind} {path : String} {c : Candidate} {source : Source}

theorem usages_of_accepted (h : Accepted scan kind path c) (hSees : kind.SeesUsages)
    (hCandidate : scan.candidateInput.candidate source = some c)
    (hRow : rowOf scan.candidateInput source = some dev) :
    ¬dev.IsMounted ∧ Raid.Usage.lvm ∉ dev.usedBy ∧ Raid.Usage.scst ∉ dev.usedBy := by
  by_cases hCluster : kind.cluster = true
  · obtain ⟨hMounted, hReasons, hScst, hLvm⟩ := h.usages hCluster
    obtain ⟨hUsed, hSays⟩ := candidate_of_row hCandidate hRow
    rw [hUsed] at hMounted hScst hLvm
    refine ⟨?_, ?_, ?_⟩
    · rintro (hUsage | hMountPoint)
      · exact hMounted (mem_mapUsedBy_of_mem hUsage)
      · have hNot := hReasons _ (hSays hMountPoint)
        rw [mentions_mountedOn] at hNot
        cases hNot
    · exact fun hUsage => hLvm (mem_mapUsedBy_of_mem hUsage)
    · exact fun hUsage => hScst (mem_mapUsedBy_of_mem hUsage)
  · have hForce : kind.force = false := hSees.resolve_right hCluster
    have hEligible : c.eligible = true := h.eligible.resolve_right (by simp [hForce])
    have hFine := (eligible_candidate hCandidate).mp hEligible
    cases source with
    | array arr => cases hRow
    | drive ctrl ld =>
      have hNot : ¬AgainstDrive dev := by
        intro hAgainst
        apply hFine
        intro osPath hPath row hFind
        rw [Option.mem_def] at hPath hFind
        obtain rfl : row = dev := by simpa [rowOf, hPath, hFind] using hRow
        exact hAgainst
      simp only [AgainstDrive, not_or] at hNot
      exact ⟨hNot.1, hNot.2.1, hNot.2.2.1⟩
    | device row =>
      obtain rfl : row = dev := Option.some.inj hRow
      simp only [Rejects, not_or] at hFine
      exact ⟨hFine.2.2.1, hFine.2.2.2.1, hFine.2.2.2.2.1⟩

theorem unprotected_of_eligible (hCandidate : scan.candidateInput.candidate source = some c)
    (hEligible : c.eligible) (hRow : rowOf scan.candidateInput source = some dev) :
    dev.esosSystemProtected = false := by
  have hFine := (eligible_candidate hCandidate).mp hEligible
  cases source with
  | array arr => cases hRow
  | drive ctrl ld =>
    by_contra hProtected
    apply hFine
    intro osPath hPath row hFind
    rw [Option.mem_def] at hPath hFind
    obtain rfl : row = dev := by simpa [rowOf, hPath, hFind] using hRow
    have hMarked : row.esosSystemProtected = true := by simpa using hProtected
    simp only [AgainstDrive, hMarked, or_true]
  | device row =>
    obtain rfl : row = dev := Option.some.inj hRow
    simp only [Rejects, not_or] at hFine
    simpa using hFine.2.2.2.2.2.2.2

theorem marked_of_protection (hDev : dev ∈ scan.candidateInput.blockDevices)
    (hPath : dev.path = path.toList) (hSystem : scan.protection path ≠ none) :
    dev.esosSystemProtected := by
  simp only [NodeScan.candidateInput, NodeScan.blockDevices, List.map_map, List.mem_map,
    Function.comp_apply] at hDev
  obtain ⟨row, -, rfl⟩ := hDev
  have hRowPath : (scan.marked row).path = row.path := by
    unfold NodeScan.marked
    split <;> rfl
  have hSame : row.path = path := by
    apply String.toList_injective
    rw [← hPath, ← hRowPath]
    rfl
  cases hFind : scan.protection row.path with
  | none => exact absurd (hSame ▸ hFind) hSystem
  | some info => simp [ScannedDevice.toInventory, NodeScan.marked, hFind]

theorem not_against_of_sees (h : Accepted scan kind path c)
    (hSource : source ∈ scan.candidateInput.sources)
    (hCandidate : scan.candidateInput.candidate source = some c) {e : Evidence}
    (hSees : Sees scan.candidateInput kind source e) : ¬e.Against scan path := by
  have hEligible (hForce : kind.force = false) : c.eligible = true :=
    h.eligible.resolve_right (by simp [hForce])
  cases e with
  | unlisted =>
    rintro ⟨hRows, hArrays⟩
    have hRow (ctrl ld) (hDrive : source = .drive ctrl ld) :
        rowOf scan.candidateInput source ≠ none := by
      rcases hSees with hForce | hListed
      · exact row_of_eligible hCandidate (hEligible hForce) hDrive
      · exact hListed ctrl ld hDrive
    cases hRowOf : rowOf scan.candidateInput source with
    | some dev =>
      obtain ⟨hDev, hPath⟩ := row_listed hSource hCandidate hRowOf
      exact hRows dev hDev (hPath.trans h.samePath)
    | none =>
      cases source with
      | drive ctrl ld => exact hRow ctrl ld rfl hRowOf
      | device dev => cases hRowOf
      | array arr =>
        simp only [sources, List.mem_append, List.mem_map, List.mem_flatMap] at hSource
        obtain (⟨arr', hArr, hSame⟩ | ⟨_, -, _, -, hLd⟩) | ⟨_, -, hDev⟩ := hSource
        · obtain rfl := Source.array.inj hSame
          have hPathOf := @map_path_candidate scan.candidateInput (.array arr')
          rw [hCandidate] at hPathOf
          simp only [pathOf, Option.map_some] at hPathOf
          split at hPathOf
          · exact hArrays arr' hArr ((Option.some.inj hPathOf).symm.trans h.samePath)
          · cases hPathOf
        · cases hLd
        · cases hDev
  | row dev use =>
    rintro ⟨-, -, hUse⟩
    cases use with
    | mounted => exact (usages_of_accepted h hSees.2 hCandidate hSees.1).1 hUse
    | volume => exact (usages_of_accepted h hSees.2 hCandidate hSees.1).2.1 hUse
    | exported => exact (usages_of_accepted h hSees.2 hCandidate hSees.1).2.2 hUse
    | member =>
      obtain ⟨hRow, hForce, hKind⟩ := hSees
      apply (eligible_candidate hCandidate).mp (hEligible hForce)
      cases source with
      | array arr => cases hRow
      | device row => exact Or.inl (hKind row rfl)
      | drive ctrl ld =>
        intro osPath hPath row hFind
        rw [Option.mem_def] at hPath hFind
        obtain rfl : row = dev := by simpa [rowOf, hPath, hFind] using hRow
        exact Or.inr (Or.inr (Or.inr (Or.inl hUse.1)))
  | array arr use =>
    rintro ⟨-, -, hUse⟩
    obtain ⟨rfl, hKind, hUsages⟩ := hSees
    obtain ⟨hLvm, hScst⟩ := candidate_of_array hCandidate
    by_cases hCluster : kind.cluster = true
    · obtain ⟨-, -, hNoScst, hNoLvm⟩ := h.usages hCluster
      rcases hKind with rfl | rfl
      · exact hNoLvm (hLvm hUse)
      · exact hNoScst (hScst hUse)
    · have hForce : kind.force = false := hUsages.resolve_right hCluster
      apply (eligible_candidate hCandidate).mp (hEligible hForce)
      rcases hKind with rfl | rfl
      · exact Or.inl hUse
      · exact Or.inr hUse
  | physicalVolume => exact h.notPv
  | memberOf arr => exact absurd hSees id
  | system =>
    intro hSystem
    rcases hSees with hAlone | ⟨hForce, hRowOf⟩
    · exact hSystem (h.notSystem hAlone)
    · obtain ⟨dev, hRow⟩ := Option.ne_none_iff_exists'.mp hRowOf
      obtain ⟨hDev, hPath⟩ := row_listed hSource hCandidate hRow
      have hMarked := marked_of_protection hDev (hPath.trans h.samePath) hSystem
      rw [unprotected_of_eligible hCandidate (hEligible hForce) hRow] at hMarked
      cases hMarked

end EsosWebui.Lvm
