import EsosWebui.Esos.Guards
import EsosWebui.Js.Arrays
import Mathlib.Logic.Relation

/-! What is stacked on the disks of the ESOS system: which of it is found to be protected. -/
namespace EsosWebui.Esos

open Js

variable {input : ProtectionInput} {devices : List BlockDevice}

def IsPartitionOf (path disk : Text) : Prop :=
  ∃ digits, digits ≠ [] ∧ (∀ c ∈ digits, c.isDigit = true) ∧
    (path = disk ++ digits ∨ path = disk ++ 'p' :: digits)

def linkedPath (parent : Text) : Text :=
  if startsWith parent devPrefix then parent else devPrefix ++ parent

/-- The device that another one names as its parent, or of which it is a partition by its name. -/
def LiesDirectlyOn (devices : List BlockDevice) (e f : BlockDevice) : Prop :=
  f ∈ devices ∧ e.type ≠ .disk ∧
    match e.parent.filter (· ≠ []) with
    | some parent => f.path = linkedPath parent
    | none => IsPartitionOf e.path f.path

/-- At any depth. -/
def LiesOn (devices : List BlockDevice) : BlockDevice → BlockDevice → Prop :=
  Relation.ReflTransGen (LiesDirectlyOn devices)

def OnSameDisk (devices : List BlockDevice) (d e : BlockDevice) : Prop :=
  ∃ disk ∈ devices, disk.type = .disk ∧ LiesOn devices d disk ∧ LiesOn devices e disk

structure IsForest (devices : List BlockDevice) : Prop where
  paths : (devices.map (·.path)).Nodup
  normalized : ∀ d ∈ devices, normalizeBlockPath d.path = d.path
  disks : ∀ d ∈ devices, d.type = .disk → d.parent = none
  parents : ∀ d ∈ devices, d.type ≠ .disk → ∃ e, LiesDirectlyOn devices d e
  depth : ∃ depth : Text → Nat, ∀ d ∈ devices, ∀ e,
    LiesDirectlyOn devices d e → depth e.path < depth d.path

namespace ProtectionInput

variable (input : ProtectionInput)

def rootPaths : List Text :=
  ((input.probe.rootRealPath.map trim).filter (· ≠ [])).toList.map normalizeBlockPath ++
    (input.findmnt.filter (·.target = ['/'])).map (normalizeBlockPath ·.source)

/-- The device is mounted where the system is, by its own mount point or by the mounts. -/
def HasSystemMount (dev : BlockDevice) : Prop :=
  (∃ target ∈ dev.mountpoint, target ∈ esosSystemMountPoints) ∨
    ∃ m ∈ input.findmnt, normalizeBlockPath m.source = dev.path ∧ m.target ∈ esosSystemMountPoints

/-- A device with a label or a mount point of the system, or with its root file system. -/
def IsEssential (dev : BlockDevice) : Prop :=
  (∃ label ∈ dev.label, label ∈ esosSystemLabels) ∨ input.HasSystemMount dev ∨
    dev.path ∈ input.rootPaths

/-- The path of something that shows the system: an essential device, one whose texts or mounts
name the image of the root file system, or the root itself. -/
def IsSign (path : Text) : Prop :=
  (∃ dev ∈ input.blockDevices, dev.path = path ∧
    (input.IsEssential dev ∨ hasSquashRootSignal dev (input.findmnt.map (·.target)) = true)) ∨
  path ∈ input.rootPaths

/-- The path itself, its direct parent, or another path with the same one. -/
def IsNear (sign path : Text) : Prop :=
  normalizeBlockPath path = normalizeBlockPath sign ∨
    normalizeBlockPath path = normalizeBlockPath (input.diskOf sign) ∨
    input.diskOf path = normalizeBlockPath (input.diskOf sign)

/-- Every device on a disk of the system is found to be protected. -/
def ProtectsWholeDisks : Prop :=
  ∀ d ∈ input.blockDevices, input.IsEssential d → ∀ e ∈ input.blockDevices,
    OnSameDisk input.blockDevices d e →
      (findProtectionForBlockPath e.path (buildEsosSystemProtection input)
        input.blockDevices).isSome = true

end ProtectionInput

theorem normalizeBlockPath_of_startsWith {s : Text} (hTrim : trim s = s)
    (h : startsWith s devPrefix) : normalizeBlockPath s = s := by
  simp only [normalizeBlockPath, hTrim, h, if_true, ite_self]

@[simp] theorem normalizeBlockPath_idem (path : Text) :
    normalizeBlockPath (normalizeBlockPath path) = normalizeBlockPath path := by
  by_cases hNil : trim path = []
  · have hSame : normalizeBlockPath path = [] := by
      simp only [normalizeBlockPath, hNil, if_true]
    rw [hSame]
    rfl
  by_cases hDev : startsWith (trim path) devPrefix = true
  · have hSame : normalizeBlockPath path = trim path := by
      simp only [normalizeBlockPath, if_neg hNil, if_pos hDev]
    rw [hSame, normalizeBlockPath_of_startsWith (trim_trim path) hDev]
  · have hSame : normalizeBlockPath path = devPrefix ++ trim path := by
      simp only [normalizeBlockPath, if_neg hNil, if_neg hDev]
    rw [hSame]
    apply normalizeBlockPath_of_startsWith
    · apply trim_eq_self
      · intro c hc
        obtain rfl : '/' = c := Option.some.inj hc
        rfl
      · intro c hc
        rw [List.getLast?_append_of_ne_nil _ hNil] at hc
        exact getLast?_trim path c hc
    · exact startsWith_iff.mpr (List.prefix_append ..)

theorem diskOf_normalizeBlockPath (path : Text) :
    input.diskOf (normalizeBlockPath path) = input.diskOf path := by
  simp only [ProtectionInput.diskOf, resolveParentDiskPath, normalizeBlockPath_idem]

theorem paths_of_mem_deviceProtections {dev : BlockDevice} {p : Protection}
    (h : p ∈ input.deviceProtections dev) :
    p.block = normalizeBlockPath dev.path ∧
      p.disk = normalizeBlockPath (input.diskOf dev.path) := by
  simp only [ProtectionInput.deviceProtections, List.mem_append, List.mem_ite_nil_right,
    List.mem_singleton, List.mem_map] at h
  rcases h with ((⟨-, rfl⟩ | ⟨-, rfl⟩) | ⟨m, -, rfl⟩) | ⟨-, rfl⟩ <;> exact ⟨rfl, rfl⟩

theorem deviceProtections_ne_nil_iff {dev : BlockDevice} :
    input.deviceProtections dev ≠ [] ↔
      (∃ label ∈ dev.label, label ∈ esosSystemLabels) ∨ input.HasSystemMount dev ∨
        hasSquashRootSignal dev (input.findmnt.map (·.target)) = true := by
  have hLabel : ProtectionInput.hasEsosLabel dev = true ↔
      ∃ label ∈ dev.label, label ∈ esosSystemLabels := by
    simp [ProtectionInput.hasEsosLabel, Option.any_eq_true]
  have hMount : dev.mountpoint.any esosSystemMountPoints.contains = true ↔
      ∃ target ∈ dev.mountpoint, target ∈ esosSystemMountPoints := by
    simp [Option.any_eq_true]
  have hHits : (input.mountHits dev).filter (esosSystemMountPoints.contains ·.target) ≠ [] ↔
      ∃ m ∈ input.findmnt, (normalizeBlockPath m.source = dev.path ∨
        some m.target = dev.mountpoint) ∧ m.target ∈ esosSystemMountPoints := by
    simp only [ProtectionInput.mountHits, ne_eq, List.filter_eq_nil_iff, List.mem_filter,
      not_forall, not_not, decide_eq_true_eq, List.contains_iff_mem, exists_prop, and_assoc]
  have hSystem : (dev.mountpoint.any esosSystemMountPoints.contains = true ∨
      (input.mountHits dev).filter (esosSystemMountPoints.contains ·.target) ≠ []) ↔
        input.HasSystemMount dev := by
    rw [hMount, hHits, ProtectionInput.HasSystemMount]
    constructor
    · rintro (hOwn | ⟨m, hMem, hSource | hTarget, hSystem⟩)
      · exact Or.inl hOwn
      · exact Or.inr ⟨m, hMem, hSource, hSystem⟩
      · exact Or.inl ⟨m.target, hTarget.symm, hSystem⟩
    · rintro (hOwn | ⟨m, hMem, hSource, hSystem⟩)
      · exact Or.inl hOwn
      · exact Or.inr ⟨m, hMem, Or.inl hSource, hSystem⟩
  rw [← hLabel, ← hSystem]
  simp only [ProtectionInput.deviceProtections, ne_eq, List.append_eq_nil_iff, not_and_or,
    ite_eq_right_iff, List.map_eq_nil_iff, List.cons_ne_nil, imp_false, not_not, or_assoc]

theorem exists_rootProtection_iff {block disk : Text} :
    (∃ p ∈ input.rootProtections, p.block = block ∧ p.disk = disk) ↔
      ∃ path ∈ input.rootPaths, normalizeBlockPath path = block ∧
        normalizeBlockPath (input.diskOf path) = disk := by
  simp only [ProtectionInput.rootProtections, ProtectionInput.rootPaths, List.mem_append,
    List.mem_map, or_and_right, exists_or, exists_exists_and_eq_and, protectDisk]

theorem exists_protection_iff {block disk : Text} :
    (∃ p ∈ input.protections, p.block = block ∧ p.disk = disk) ↔
      ∃ sign, input.IsSign sign ∧ normalizeBlockPath sign = block ∧
        normalizeBlockPath (input.diskOf sign) = disk := by
  simp only [ProtectionInput.protections, List.mem_append, List.mem_flatMap, or_and_right,
    exists_or, exists_rootProtection_iff]
  constructor
  · rintro (⟨p, ⟨dev, hDev, hMem⟩, hBlock, hDisk⟩ | ⟨path, hPath, hBlock, hDisk⟩)
    · obtain ⟨hBlock', hDisk'⟩ := paths_of_mem_deviceProtections hMem
      refine ⟨dev.path, Or.inl ⟨dev, hDev, rfl, ?_⟩, hBlock' ▸ hBlock, hDisk' ▸ hDisk⟩
      rcases deviceProtections_ne_nil_iff.mp (List.ne_nil_of_mem hMem) with hLabel | hMount | hImage
      · exact Or.inl (Or.inl hLabel)
      · exact Or.inl (Or.inr (Or.inl hMount))
      · exact Or.inr hImage
    · exact ⟨path, Or.inr hPath, hBlock, hDisk⟩
  · rintro ⟨sign, ⟨dev, hDev, rfl, hSign⟩ | hRoot, hBlock, hDisk⟩
    · by_cases hPath : dev.path ∈ input.rootPaths
      · exact Or.inr ⟨dev.path, hPath, hBlock, hDisk⟩
      · have hNe : input.deviceProtections dev ≠ [] := by
          rw [deviceProtections_ne_nil_iff]
          rcases hSign with (hLabel | hMount | hRoot) | hImage
          · exact Or.inl hLabel
          · exact Or.inr (Or.inl hMount)
          · exact absurd hRoot hPath
          · exact Or.inr (Or.inr hImage)
        obtain ⟨p, hMem⟩ := List.exists_mem_of_ne_nil _ hNe
        obtain ⟨hBlock', hDisk'⟩ := paths_of_mem_deviceProtections hMem
        exact Or.inl ⟨p, ⟨dev, hDev, hMem⟩, hBlock'.trans hBlock, hDisk'.trans hDisk⟩
    · exact Or.inr ⟨sign, hRoot, hBlock, hDisk⟩

theorem findProtection_isSome_iff {path : Text} :
    (findProtectionForBlockPath path (buildEsosSystemProtection input)
      input.blockDevices).isSome = true ↔ ∃ sign, input.IsSign sign ∧ input.IsNear sign path := by
  have hDisk : resolveParentDiskPath (normalizeBlockPath path) input.blockDevices =
    input.diskOf path := diskOf_normalizeBlockPath path
  rw [← Option.ne_none_iff_isSome, ne_eq, findProtectionForBlockPath_eq_none_iff, not_and_or,
    not_not, not_not, hDisk]
  simp only [buildEsosSystemProtection, ProtectionInput.protectedBlockPaths,
    ProtectionInput.protectedDiskPaths, mem_unique, List.mem_flatMap, List.mem_map,
    List.mem_cons, List.not_mem_nil, or_false]
  constructor
  · rintro (⟨p, hMem, hPath⟩ | ⟨p, hMem, hSame⟩)
    · obtain ⟨sign, hSign, hBlock, hDisk⟩ := exists_protection_iff.mp ⟨p, hMem, rfl, rfl⟩
      rcases hPath with hPath | hPath
      · exact ⟨sign, hSign, Or.inl (hPath.trans hBlock.symm)⟩
      · exact ⟨sign, hSign, Or.inr (Or.inl (hPath.trans hDisk.symm))⟩
    · obtain ⟨sign, hSign, -, hDisk⟩ := exists_protection_iff.mp ⟨p, hMem, rfl, rfl⟩
      exact ⟨sign, hSign, Or.inr (Or.inr (hSame.symm.trans hDisk.symm))⟩
  · rintro ⟨sign, hSign, hNear⟩
    obtain ⟨p, hMem, hBlock, hDisk⟩ := exists_protection_iff.mpr ⟨sign, hSign, rfl, rfl⟩
    rcases hNear with hPath | hPath | hSame
    · exact Or.inl ⟨p, hMem, Or.inl (hPath.trans hBlock.symm)⟩
    · exact Or.inl ⟨p, hMem, Or.inr (hPath.trans hDisk.symm)⟩
    · exact Or.inr ⟨p, hMem, hDisk.trans hSame.symm⟩

private def sda : BlockDevice := { path := "/dev/sda".toList, type := .disk }

private def rootPartition : BlockDevice :=
  { path := "/dev/sda1".toList
    type := .part
    parent := some "/dev/sda".toList
    label := some "esos_root".toList }

private def dataPartition : BlockDevice :=
  { path := "/dev/sda2".toList, type := .part, parent := some "/dev/sda".toList }

private def dataVolume : BlockDevice :=
  { path := "/dev/mapper/vg-lv".toList, type := .lvm, parent := some "/dev/sda2".toList }

private def devicesOfSda : List BlockDevice := [sda, rootPartition, dataPartition, dataVolume]

private theorem mem_devicesOfSda_iff {d : BlockDevice} :
    d ∈ devicesOfSda ↔ d = sda ∨ d = rootPartition ∨ d = dataPartition ∨ d = dataVolume := by
  simp [devicesOfSda]

private theorem isForest_devicesOfSda : IsForest devicesOfSda where
  paths := by decide
  normalized := by decide
  disks := by decide
  parents := by
    intro d hd hType
    rcases mem_devicesOfSda_iff.mp hd with rfl | rfl | rfl | rfl
    · exact absurd rfl hType
    · exact ⟨sda, by simp [devicesOfSda], hType, rfl⟩
    · exact ⟨sda, by simp [devicesOfSda], hType, rfl⟩
    · exact ⟨dataPartition, by simp [devicesOfSda], hType, rfl⟩
  depth := by
    refine ⟨List.length, fun d hd e hOn => ?_⟩
    obtain ⟨-, hType, hLink⟩ := hOn
    rcases mem_devicesOfSda_iff.mp hd with rfl | rfl | rfl | rfl
    · exact absurd rfl hType
    all_goals
      rw [show e.path = _ from hLink]
      decide

private theorem onSameDisk_dataVolume : OnSameDisk devicesOfSda rootPartition dataVolume := by
  have hDirectly (e f : BlockDevice) (hf : f ∈ devicesOfSda) (hType : e.type ≠ .disk)
      (hLink : e.parent.filter (· ≠ []) = some f.path) (hSlash : linkedPath f.path = f.path) :
      LiesDirectlyOn devicesOfSda e f := by
    refine ⟨hf, hType, ?_⟩
    rw [hLink]
    exact hSlash.symm
  have hRoot := hDirectly rootPartition sda (by simp [devicesOfSda]) (by decide) rfl rfl
  have hData := hDirectly dataPartition sda (by simp [devicesOfSda]) (by decide) rfl rfl
  have hVolume := hDirectly dataVolume dataPartition (by simp [devicesOfSda]) (by decide) rfl rfl
  exact ⟨sda, by simp [devicesOfSda], rfl, .single hRoot, .head hVolume (.single hData)⟩

end EsosWebui.Esos
