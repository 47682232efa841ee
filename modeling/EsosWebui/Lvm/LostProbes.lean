import EsosWebui.Lvm.Overview

/-! Whether the removal of a volume is refused when the scan that it is checked against has lost a
part of what is on the node. -/
namespace EsosWebui.Lvm

open Js

/-- A logical volume: how it is reported, every path that its device can be opened by, and whether
it is mounted. -/
structure TrueVolume where
  row : ParsedLvRow
  devicePaths : List Text
  mounted : Bool

/-- The volumes of a node, and the files of its SCST devices, configured or live. -/
structure TrueNode where
  pvs : List ParsedPv
  vgs : List ParsedVg
  lvs : List TrueVolume
  exports : List Text
  pvUnique : (pvs.map (·.path)).Nodup
  lvUnique : (lvs.map fun v => (v.row.vgName, v.row.name)).Nodup

/-- What a probe reads: what is there; or nothing, from an output that is empty, cut off or not
readable; or it throws. -/
def Reads {α : Type} (there : List α) (parsed : Option (List α)) : Prop :=
  parsed = some there ∨ parsed = some [] ∨ parsed = none

/-- A node with the probes of a scan. What is printed of the SCST devices and of the block devices
is not bound to anything. -/
structure ScannedNode where
  truth : TrueNode
  probes : LvmProbes
  pvs : Reads truth.pvs probes.pvsReport
  vgs : Reads truth.vgs probes.vgsReport
  lvs : Reads (truth.lvs.map (·.row)) probes.lvsReport

inductive Removal where
  | pv (path : String)
  | vg (name : String)
  | lv (vgName name : String)

namespace Removal

def action : Removal → VolumeAction
  | pv _ => .pvremove
  | vg _ => .vgremove
  | lv _ _ => .lvremove

def payload : Removal → LvmPayload
  | pv path => { path }
  | vg name => { name }
  | lv vgName name => { vgName, name }

end Removal

/-- Nothing on the node is against the removal: the physical volume is in no group, the group holds
no volume, the volume is neither mounted nor exported. -/
def TrueNode.Allows (truth : TrueNode) : Removal → Prop
  | .pv path => ∀ pv ∈ truth.pvs, pv.path = (trimString path).toList → pv.vgName = []
  | .vg name => ∀ v ∈ truth.lvs, v.row.vgName ≠ (trimString name).toList
  | .lv vgName name => ∀ v ∈ truth.lvs, v.row.vgName = (trimString vgName).toList →
      v.row.name = (trimString name).toList →
      v.mounted = false ∧ ∀ file ∈ truth.exports, file ∉ v.devicePaths

namespace ScannedNode

variable (node : ScannedNode)

def Accepts (localeCompare : Text → Text → Ordering) (removal : Removal) : Prop :=
  ∃ scan, node.probes.collectLvmOverview = some scan ∧
    (runLvmPreflight removal.action removal.payload (scan.overview localeCompare)).ok = true

/-- The report of the logical volumes was read as it is. -/
def LvsAnswered : Prop :=
  node.probes.lvsReport =
    some (node.truth.lvs.map (·.row))

/-- Neither a report throws nor a tool is missing, and the group is shown as one that may be
removed. -/
structure ShowsGroup (name : String) : Prop where
  scan : node.probes.collectLvmOverview ≠ none
  tool : node.probes.tools.vgcreate = true
  group : ∃ vgs vg, node.probes.vgsReport = some vgs ∧
    vgs.find? (·.name = (trimString name).toList) = some vg ∧ vg.clustered = false

/-- Neither a report throws nor a tool is missing, and the volumes are shown. -/
structure ShowsVolumes : Prop where
  scan : node.probes.collectLvmOverview ≠ none
  tool : node.probes.tools.lvcreate = true
  volumes : node.LvsAnswered

/-- The SCST commands of the scan print a device on one of the paths that are tried for a volume. -/
def SeesExport (v : TrueVolume) : Prop :=
  ∃ path ∈ buildLvPathCandidates v.row.vgName v.row.name v.row.lvPath v.row.lvDmPath,
    node.probes.index.devicesOf path ≠ []

/-- The removal is refused wherever the node is against it. -/
def FailsClosed (localeCompare : Text → Text → Ordering) (removal : Removal) : Prop :=
  node.Accepts localeCompare removal → node.truth.Allows removal

/-- What a removal depends on: a physical volume on nothing; a group that is shown, on the report of
the logical volumes if it holds any; and a volume that is mounted or exported, on an export that is
seen. -/
def Condition : Removal → Prop
  | .pv _ => True
  | .vg name => node.ShowsGroup name → node.LvsAnswered ∨ node.truth.Allows (.vg name)
  | .lv vgName name => node.ShowsVolumes → ∀ v ∈ node.truth.lvs,
      v.row.vgName = (trimString vgName).toList → v.row.name = (trimString name).toList →
        (v.mounted = false ∧ ∀ file ∈ node.truth.exports, file ∉ v.devicePaths) ∨
          node.SeesExport v

end ScannedNode

theorem ofList_eq_iff {t : Text} {s : String} : String.ofList t = s ↔ t = s.toList := by
  constructor
  · rintro rfl
    exact String.toList_ofList.symm
  · rintro rfl
    exact String.ofList_toList

variable {overview : LvmOverviewResponse}

theorem pvRemove_ok_iff {path : String} :
    (runLvmPreflight .pvremove { path } overview).ok = true ↔
      overview.tools.pvcreate = true ∧ ∃ pv,
        overview.pvs.find? (·.path == trimString path) = some pv ∧ pv.vgName = "" := by
  rw [runLvmPreflight_ok_iff]
  simp only [toolBlockers, validate, validatePvRemove, List.append_eq_nil_iff, blockIf_eq_nil_iff]
  cases overview.pvs.find? (·.path == trimString path) with
  | none => simp
  | some pv => simp

theorem vgRemove_ok_iff {name : String} :
    (runLvmPreflight .vgremove { name } overview).ok = true ↔
      overview.tools.vgcreate = true ∧ (∃ vg,
        overview.vgs.find? (·.name == trimString name) = some vg ∧ vg.clustered = false) ∧
        ∀ lv ∈ overview.lvs, lv.vgName ≠ trimString name := by
  rw [runLvmPreflight_ok_iff]
  simp only [toolBlockers, validate, validateVgRemove, List.append_eq_nil_iff, blockIf_eq_nil_iff]
  cases overview.vgs.find? (·.name == trimString name) with
  | none => simp
  | some vg => simp [and_comm]

theorem lvRemove_ok_iff {vgName name : String} :
    (runLvmPreflight .lvremove { vgName, name } overview).ok = true ↔
      overview.tools.lvcreate = true ∧ ∃ lv,
        overview.lvs.find? (fun l => l.vgName == trimString vgName && l.name == trimString name) =
          some lv ∧ .scst ∉ lv.usedBy := by
  rw [runLvmPreflight_ok_iff]
  simp only [toolBlockers, validate, validateLvRemove, List.append_eq_nil_iff, blockIf_eq_nil_iff]
  cases overview.lvs.find? fun l =>
      l.vgName == trimString vgName && l.name == trimString name with
  | none => simp
  | some lv => simp

variable {probes : LvmProbes}

theorem collectLvmOverview_eq_some_iff {scan : NodeScan} :
    probes.collectLvmOverview = some scan ↔ ∃ pvs vgs lvs,
      probes.pvsReport = some pvs ∧
      probes.vgsReport = some vgs ∧
      probes.lvsReport = some lvs ∧
      probes.scanOf pvs vgs lvs = scan := by
  simp only [LvmProbes.collectLvmOverview, Option.bind_eq_bind, Option.bind_eq_some_iff,
    Option.pure_def, Option.some.injEq]
  constructor
  · rintro ⟨pvs, hPvs, vgs, hVgs, lvs, hLvs, hScan⟩
    exact ⟨pvs, vgs, lvs, hPvs, hVgs, hLvs, hScan⟩
  · rintro ⟨pvs, vgs, lvs, hPvs, hVgs, hLvs, hScan⟩
    exact ⟨pvs, hPvs, vgs, hVgs, lvs, hLvs, hScan⟩

/-- An entry that is found by a key is the one that is there with it. -/
theorem ofList_beq_eq {t : Text} {s : String} : (String.ofList t == s) = decide (t = s.toList) := by
  rw [Bool.eq_iff_iff, beq_iff_eq, decide_eq_true_eq, ofList_eq_iff]

theorem find?_pvs {pvs : List ParsedPv} {vgs : List ParsedVg} {lvs : List ParsedLvRow}
    {path : String} :
    (probes.scanOf pvs vgs lvs).pvs.find? (·.path == path) =
      (pvs.find? (·.path = path.toList)).map fun pv =>
        ⟨String.ofList pv.path, String.ofList pv.vgName⟩ := by
  simp only [LvmProbes.scanOf, List.find?_map, Function.comp_def, ofList_beq_eq]

theorem find?_vgs {pvs : List ParsedPv} {vgs : List ParsedVg} {lvs : List ParsedLvRow}
    {name : String} :
    (probes.scanOf pvs vgs lvs).vgs.find? (·.name == name) =
      (vgs.find? (·.name = name.toList)).map fun vg =>
        ⟨String.ofList vg.name, vg.freeBytes, vg.pvCount, vg.clustered⟩ := by
  simp only [LvmProbes.scanOf, List.find?_map, Function.comp_def, ofList_beq_eq]

theorem find?_lvs {pvs : List ParsedPv} {vgs : List ParsedVg} {lvs : List ParsedLvRow}
    {vgName name : String} :
    (probes.scanOf pvs vgs lvs).lvs.find? (fun l => l.vgName == vgName && l.name == name) =
      (lvs.find? fun raw => (raw.vgName, raw.name) = (vgName.toList, name.toList)).map
        probes.mapParsedLvToLogicalVolume := by
  simp only [LvmProbes.scanOf, List.find?_map, Function.comp_def,
    LvmProbes.mapParsedLvToLogicalVolume, ofList_beq_eq, Prod.mk.injEq, Bool.decide_and]

theorem scst_mem_usedBy_iff {raw : ParsedLvRow} :
    .scst ∈ (probes.mapParsedLvToLogicalVolume raw).usedBy ↔ probes.scstDeviceNames raw ≠ [] := by
  simp only [LvmProbes.mapParsedLvToLogicalVolume, List.mem_append]
  split_ifs with hNames hMounted hMounted
  · simp [hNames]
  · simp [hNames]
  · simpa using hNames
  · simpa using hNames

namespace ScannedNode

variable {node : ScannedNode} {localeCompare : Text → Text → Ordering}

theorem exists_scanOf_iff {P : NodeScan → Prop} :
    (∃ scan, node.probes.collectLvmOverview = some scan ∧ P scan) ↔
      ∃ pvs vgs lvs, node.probes.pvsReport = some pvs ∧ node.probes.vgsReport = some vgs ∧
        node.probes.lvsReport = some lvs ∧ P (node.probes.scanOf pvs vgs lvs) := by
  constructor
  · rintro ⟨scan, hScan, hP⟩
    obtain ⟨pvs, vgs, lvs, hPvs, hVgs, hLvs, rfl⟩ := collectLvmOverview_eq_some_iff.mp hScan
    exact ⟨pvs, vgs, lvs, hPvs, hVgs, hLvs, hP⟩
  · rintro ⟨pvs, vgs, lvs, hPvs, hVgs, hLvs, hP⟩
    exact ⟨_, collectLvmOverview_eq_some_iff.mpr ⟨pvs, vgs, lvs, hPvs, hVgs, hLvs, rfl⟩, hP⟩

theorem scan_ne_none_of {pvs : List ParsedPv} {vgs : List ParsedVg} {lvs : List ParsedLvRow}
    (hPvs : node.probes.pvsReport = some pvs) (hVgs : node.probes.vgsReport = some vgs)
    (hLvs : node.probes.lvsReport = some lvs) : node.probes.collectLvmOverview ≠ none := by
  rw [collectLvmOverview_eq_some_iff.mpr ⟨pvs, vgs, lvs, hPvs, hVgs, hLvs, rfl⟩]
  exact Option.some_ne_none _

/-- A physical volume that is removed is shown without a group. -/
theorem shown_of_accepts_pv {path : String} (h : node.Accepts localeCompare (.pv path)) :
    ∃ pvs pv, node.probes.pvsReport = some pvs ∧
      pvs.find? (·.path = (trimString path).toList) = some pv ∧ pv.vgName = [] := by
  obtain ⟨pvs, vgs, lvs, hPvs, -, -, hOk⟩ := exists_scanOf_iff.mp h
  obtain ⟨-, shown, hFind, hGroup⟩ := pvRemove_ok_iff.mp hOk
  rw [NodeScan.overview, @find?_pvs node.probes pvs vgs lvs] at hFind
  obtain ⟨pv, hPv, rfl⟩ := Option.map_eq_some_iff.mp hFind
  exact ⟨pvs, pv, hPvs, hPv, ofList_eq_iff.mp hGroup⟩

theorem accepts_vg_iff {name : String} :
    node.Accepts localeCompare (.vg name) ↔ node.ShowsGroup name ∧
      ∀ lvs, node.probes.lvsReport = some lvs →
        ∀ raw ∈ lvs, raw.vgName ≠ (trimString name).toList := by
  constructor
  · intro h
    obtain ⟨pvs, vgs, lvs, hPvs, hVgs, hLvs, hOk⟩ := exists_scanOf_iff.mp h
    obtain ⟨hTool, ⟨shown, hFind, hClustered⟩, hEmpty⟩ := vgRemove_ok_iff.mp hOk
    rw [NodeScan.overview, @find?_vgs node.probes pvs vgs lvs] at hFind
    obtain ⟨vg, hVg, rfl⟩ := Option.map_eq_some_iff.mp hFind
    refine ⟨⟨scan_ne_none_of hPvs hVgs hLvs, hTool, vgs, vg, hVgs, hVg, hClustered⟩, ?_⟩
    intro lvs' hLvs' raw hRaw hSame
    obtain rfl : lvs = lvs' := Option.some.inj (hLvs.symm.trans hLvs')
    exact hEmpty _ (List.mem_map_of_mem hRaw) (ofList_eq_iff.mpr hSame)
  · rintro ⟨⟨hScan, hTool, vgs, vg, hVgs, hVg, hClustered⟩, hEmpty⟩
    obtain ⟨scan, hSome⟩ := Option.ne_none_iff_exists'.mp hScan
    obtain ⟨pvs, vgs', lvs, hPvs, hVgs', hLvs, -⟩ := collectLvmOverview_eq_some_iff.mp hSome
    obtain rfl : vgs = vgs' := Option.some.inj (hVgs.symm.trans hVgs')
    refine exists_scanOf_iff.mpr ⟨pvs, vgs, lvs, hPvs, hVgs, hLvs, ?_⟩
    have hFind := @find?_vgs node.probes pvs vgs lvs (trimString name)
    rw [hVg, Option.map_some] at hFind
    refine vgRemove_ok_iff.mpr ⟨hTool, ⟨_, hFind, hClustered⟩, ?_⟩
    intro lv hLv hSame
    obtain ⟨raw, hRaw, rfl⟩ := List.mem_map.mp hLv
    exact hEmpty lvs hLvs raw hRaw (ofList_eq_iff.mp hSame)

/-- A volume is removed exactly if it is shown and no device is seen on a path of it. -/
theorem accepts_lv_iff {vgName name : String} :
    node.Accepts localeCompare (.lv vgName name) ↔
      node.probes.collectLvmOverview ≠ none ∧ node.probes.tools.lvcreate = true ∧
        ∃ lvs raw, node.probes.lvsReport = some lvs ∧
          lvs.find? (fun raw => (raw.vgName, raw.name) =
            ((trimString vgName).toList, (trimString name).toList)) = some raw ∧
          node.probes.scstDeviceNames raw = [] := by
  constructor
  · intro h
    obtain ⟨pvs, vgs, lvs, hPvs, hVgs, hLvs, hOk⟩ := exists_scanOf_iff.mp h
    obtain ⟨hTool, shown, hFind, hScst⟩ := lvRemove_ok_iff.mp hOk
    rw [NodeScan.overview, @find?_lvs node.probes pvs vgs lvs] at hFind
    obtain ⟨raw, hRaw, rfl⟩ := Option.map_eq_some_iff.mp hFind
    refine ⟨scan_ne_none_of hPvs hVgs hLvs, hTool, lvs, raw, hLvs, hRaw, ?_⟩
    rw [scst_mem_usedBy_iff] at hScst
    exact Classical.not_not.mp hScst
  · rintro ⟨hScan, hTool, lvs, raw, hLvs, hRaw, hNames⟩
    obtain ⟨scan, hSome⟩ := Option.ne_none_iff_exists'.mp hScan
    obtain ⟨pvs, vgs, lvs', hPvs, hVgs, hLvs', -⟩ := collectLvmOverview_eq_some_iff.mp hSome
    obtain rfl : lvs = lvs' := Option.some.inj (hLvs.symm.trans hLvs')
    refine exists_scanOf_iff.mpr ⟨pvs, vgs, lvs, hPvs, hVgs, hLvs, ?_⟩
    have hFind := @find?_lvs node.probes pvs vgs lvs (trimString vgName) (trimString name)
    rw [hRaw, Option.map_some] at hFind
    refine lvRemove_ok_iff.mpr ⟨hTool, _, hFind, ?_⟩
    rw [scst_mem_usedBy_iff]
    exact not_not_intro hNames

theorem scstDeviceNames_eq_nil_iff {v : TrueVolume} :
    node.probes.scstDeviceNames v.row = [] ↔ ¬node.SeesExport v := by
  simp only [LvmProbes.scstDeviceNames, unique_eq_nil_iff, List.flatMap_eq_nil_iff, SeesExport,
    not_exists, not_and, not_not]

end ScannedNode

theorem failsClosed_pv (node : ScannedNode) (localeCompare : Text → Text → Ordering)
    (path : String) : node.FailsClosed localeCompare (.pv path) := by
  intro hAccepts pv hPv hPath
  obtain ⟨pvs, shown, hReport, hFind, hGroup⟩ := ScannedNode.shown_of_accepts_pv hAccepts
  rcases node.pvs with hThere | hNone | hThrows
  · obtain rfl : pvs = node.truth.pvs := Option.some.inj (hReport.symm.trans hThere)
    rw [← hPath, find?_eq_some_of_nodup node.truth.pvUnique hPv] at hFind
    exact Option.some.inj hFind ▸ hGroup
  · obtain rfl : pvs = [] := Option.some.inj (hReport.symm.trans hNone)
    cases hFind
  · cases hReport.symm.trans hThrows

theorem failsClosed_vg_iff (node : ScannedNode) (localeCompare : Text → Text → Ordering)
    (name : String) :
    node.FailsClosed localeCompare (.vg name) ↔ node.Condition (.vg name) := by
  unfold ScannedNode.FailsClosed ScannedNode.Condition
  rw [ScannedNode.accepts_vg_iff]
  constructor
  · intro hClosed hShows
    rcases node.lvs with hThere | hNone | hThrows
    · exact Or.inl hThere
    · refine Or.inr (hClosed ⟨hShows, ?_⟩)
      intro lvs hLvs raw hRaw
      obtain rfl : lvs = [] := Option.some.inj (hLvs.symm.trans hNone)
      cases hRaw
    · exfalso
      obtain ⟨scan, hSome⟩ := Option.ne_none_iff_exists'.mp hShows.scan
      obtain ⟨_, _, lvs, -, -, hLvs, -⟩ := collectLvmOverview_eq_some_iff.mp hSome
      cases hLvs.symm.trans hThrows
  · rintro hCondition ⟨hShows, hEmpty⟩
    rcases hCondition hShows with hAnswered | hAllows
    · exact fun v hv => hEmpty _ hAnswered v.row (List.mem_map_of_mem hv)
    · exact hAllows

theorem failsClosed_lv_iff (node : ScannedNode) (localeCompare : Text → Text → Ordering)
    (vgName name : String) :
    node.FailsClosed localeCompare (.lv vgName name) ↔ node.Condition (.lv vgName name) := by
  have hFound {v : TrueVolume} (hv : v ∈ node.truth.lvs)
      (hVg : v.row.vgName = (trimString vgName).toList)
      (hName : v.row.name = (trimString name).toList) :
      (node.truth.lvs.map (·.row)).find? (fun raw => (raw.vgName, raw.name) =
        ((trimString vgName).toList, (trimString name).toList)) = some v.row := by
    rw [← hVg, ← hName, List.find?_map]
    have hSame := find?_eq_some_of_nodup node.truth.lvUnique hv
    simp only [Function.comp_def, hSame, Option.map_some]
  unfold ScannedNode.FailsClosed ScannedNode.Condition
  rw [ScannedNode.accepts_lv_iff]
  constructor
  · intro hClosed hShows v hv hVg hName
    by_cases hSees : node.SeesExport v
    · exact Or.inr hSees
    · have hAccepted := hClosed ⟨hShows.scan, hShows.tool, _, v.row, hShows.volumes,
        hFound hv hVg hName, ScannedNode.scstDeviceNames_eq_nil_iff.mpr hSees⟩
      exact Or.inl (hAccepted v hv hVg hName)
  · rintro hCondition ⟨hScan, hTool, lvs, raw, hLvs, hRaw, hNames⟩
    have hAnswered : node.LvsAnswered := by
      rcases node.lvs with hThere | hNone | hThrows
      · exact hThere
      · obtain rfl : lvs = [] := Option.some.inj (hLvs.symm.trans hNone)
        cases hRaw
      · cases hLvs.symm.trans hThrows
    intro v hv hVg hName
    refine (hCondition ⟨hScan, hTool, hAnswered⟩ v hv hVg hName).resolve_right ?_
    obtain rfl : lvs = node.truth.lvs.map (·.row) :=
      Option.some.inj (hLvs.symm.trans hAnswered)
    obtain rfl : v.row = raw := Option.some.inj ((hFound hv hVg hName).symm.trans hRaw)
    exact ScannedNode.scstDeviceNames_eq_nil_iff.mp hNames

/-- A removal fails closed on any outcome of the probes exactly if: it removes a physical volume; or
a group whose volumes the report of the logical volumes has shown, or which has none, where it would
go through otherwise; or a volume that is neither mounted nor exported, or an export of which is
seen. -/
theorem failsClosed_iff (node : ScannedNode) (localeCompare : Text → Text → Ordering)
    (removal : Removal) :
    node.FailsClosed localeCompare removal ↔ node.Condition removal := by
  cases removal with
  | pv path => exact iff_of_true (failsClosed_pv node localeCompare path) trivial
  | vg name => exact failsClosed_vg_iff node localeCompare name
  | lv vgName name => exact failsClosed_lv_iff node localeCompare vgName name

def lostVolumesProbes : LvmProbes where
  sanId := "san1"
  label := "Node 1"
  lvm := ['\n'].intercalate
    ["===TOOLS===".toList, "vgcreate".toList, "===PVS_JSON===".toList, "\x7b\x7d".toList,
      "===VGS_JSON===".toList,
      "\x7b\"report\":[\x7b\"vg\":[\x7b\"vg_name\":\"vg0\"\x7d]\x7d]\x7d".toList,
      "===LVS_JSON===".toList, "\x7b\x7d".toList, "===END===".toList]
  scstConf := .ok []
  scstSysfs := .ok []

theorem reports_lostVolumesProbes :
    lostVolumesProbes.pvsReport = some [] ∧
      lostVolumesProbes.vgsReport = some [⟨"vg0".toList, 0, 0, false⟩] ∧
      lostVolumesProbes.lvsReport = some [] := by
  decide +kernel

def lostVolumes : ScannedNode where
  truth :=
    { pvs := []
      vgs := [⟨"vg0".toList, 0, 0, false⟩]
      lvs :=
        [{ row := ⟨"data".toList, "vg0".toList, "/dev/vg0/data".toList, [], 0⟩
           devicePaths := ["/dev/vg0/data".toList]
           mounted := true }]
      exports := ["/dev/vg0/data".toList]
      pvUnique := by decide
      lvUnique := by decide }
  probes := lostVolumesProbes
  pvs := Or.inl reports_lostVolumesProbes.1
  vgs := Or.inl reports_lostVolumesProbes.2.1
  lvs := Or.inr (Or.inl reports_lostVolumesProbes.2.2)

/-- The group passes for empty, and would be removed with the volume in it. -/
theorem lostVolumes_not_failsClosed :
    ¬∀ (localeCompare : Text → Text → Ordering) (node : ScannedNode) (removal : Removal),
      node.FailsClosed localeCompare removal := by
  intro hAll
  obtain ⟨hPvs, hVgs, hLost⟩ := reports_lostVolumesProbes
  have hShows : lostVolumes.ShowsGroup "vg0" :=
    ⟨@ScannedNode.scan_ne_none_of lostVolumes _ _ _ hPvs hVgs hLost, by decide +kernel, _, _, hVgs,
      rfl, rfl⟩
  have hAccepts : lostVolumes.Accepts (fun _ _ => .eq) (.vg "vg0") := by
    refine ScannedNode.accepts_vg_iff.mpr ⟨hShows, ?_⟩
    intro lvs hLvs raw hRaw
    obtain rfl : lvs = [] := Option.some.inj (hLvs.symm.trans hLost)
    cases hRaw
  exact hAll _ lostVolumes (.vg "vg0") hAccepts _ List.mem_cons_self (by decide +kernel)

end EsosWebui.Lvm
