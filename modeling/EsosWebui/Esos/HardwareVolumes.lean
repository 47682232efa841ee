import EsosWebui.Esos.Guards

/-! The guard of hardware volumes: it knows the protected ones by their id, which other controllers
may use too. -/
namespace EsosWebui.Esos

open Js

def firstDrive (ldId : Text) (controllers : List (List HardwareLogicalDrive)) :
    Option HardwareLogicalDrive :=
  controllers.findSome? fun drives => drives.find? (·.id = ldId)

def protectedVolume (ldId : Text) (osPath : Option Text) : ProtectedDevice where
  protectedDevice := (osPath.map (resolveParentDiskPath · [])).getD ldId
  reasons :=
    [⟨.hardwareLdOsDevice,
      "Volume logique matériel ".toList ++ ldId ++ " protégé (volume système ESOS)".toList⟩]
  relatedBlockPaths := (osPath.map normalizeBlockPath).toList
  hardwareLogicalDriveIds := [ldId]

def unknownVolume (ldId : Text) : ProtectedDevice where
  protectedDevice := ldId
  reasons :=
    [⟨.hardwareLdOsDevice, "Volume logique matériel ".toList ++ ldId ++ " protégé".toList⟩]
  hardwareLogicalDriveIds := [ldId]

def findProtectionForHardwareLd (ldId : Text) (snapshot : ProtectionSnapshot)
    (controllers : List (List HardwareLogicalDrive)) : Option ProtectedDevice :=
  if ldId ∉ snapshot.protectedHardwareLdIds then none
  else
    match firstDrive ldId controllers with
    | none => some (unknownVolume ldId)
    | some ld =>
      let entry := snapshot.protectedDevices.find? (ldId ∈ ·.hardwareLogicalDriveIds)
      let osPath := (ld.devicePath.or ld.scsiDevice).filter (· ≠ [])
      some { entry.getD (protectedVolume ldId osPath) with hardwareLogicalDriveIds := [ldId] }

def assertHardwareLdNotEsosProtected (ldId : Text) (snapshot : ProtectionSnapshot)
    (controllers : List (List HardwareLogicalDrive)) : Except HttpError Unit := do
  assertEsosProtectionReliable snapshot
  match findProtectionForHardwareLd ldId snapshot controllers with
  | none => return ()
  | some info => .error (esosProtectedError info.protectedDevice)

namespace ProtectionInput

variable (input : ProtectionInput)

def HoldsSystem (ld : HardwareLogicalDrive) : Prop :=
  ∃ path, ld.osPath = some path ∧
    (input.diskOf (normalizeBlockPath path) ∈ input.protectedDiskPaths ∨
      normalizeBlockPath path ∈ input.protectedBlockPaths)

def RefusesVolume (ldId : Text) : Prop :=
  ∃ error, assertHardwareLdNotEsosProtected ldId (buildEsosSystemProtection input)
    input.hardwareControllers = .error error

def withController (drives : List HardwareLogicalDrive) : ProtectionInput :=
  { input with hardwareControllers := [drives] }

/-- A volume is refused if it holds the system, and the other controllers change nothing. -/
def ProtectsVolumes : Prop :=
  ∀ drives ∈ input.hardwareControllers, ∀ ld ∈ drives,
    (input.RefusesVolume ld.id ↔ input.HoldsSystem ld) ∧
      (input.RefusesVolume ld.id ↔ (input.withController drives).RefusesVolume ld.id)

variable {input}

theorem mem_protectedHardwareLdIds {ldId : Text} :
    ldId ∈ (buildEsosSystemProtection input).protectedHardwareLdIds ↔
      ∃ ld ∈ input.hardwareControllers.flatten, input.HoldsSystem ld ∧ ld.id = ldId := by
  rw [buildEsosSystemProtection, mem_unique, List.mem_map]
  constructor
  · rintro ⟨found, hFound, rfl⟩
    obtain ⟨ld, hMem, hSome⟩ := List.mem_filterMap.mp hFound
    obtain ⟨norm, hNorm, hOn⟩ := Option.bind_eq_some_iff.mp hSome
    obtain ⟨path, hPath, rfl⟩ := Option.map_eq_some_iff.mp hNorm
    split at hOn
    next hProtected =>
      cases hOn
      exact ⟨ld, hMem, ⟨path, hPath, hProtected⟩, rfl⟩
    next => cases hOn
  · rintro ⟨ld, hMem, ⟨path, hPath, hProtected⟩, rfl⟩
    refine ⟨(ld, normalizeBlockPath path), List.mem_filterMap.mpr ⟨ld, hMem, ?_⟩, rfl⟩
    rw [hPath, Option.map_some, Option.bind_some, if_pos hProtected]

theorem findProtectionForHardwareLd_eq_none_iff {ldId : Text} {snapshot : ProtectionSnapshot}
    {controllers : List (List HardwareLogicalDrive)} :
    findProtectionForHardwareLd ldId snapshot controllers = none ↔
      ldId ∉ snapshot.protectedHardwareLdIds := by
  rw [findProtectionForHardwareLd]
  split
  next hId => exact iff_of_true rfl hId
  next hId =>
    refine iff_of_false ?_ hId
    split <;> exact Option.some_ne_none _

theorem refusesVolume_iff {ldId : Text} :
    input.RefusesVolume ldId ↔
      ∃ ld ∈ input.hardwareControllers.flatten, input.HoldsSystem ld ∧ ld.id = ldId := by
  have hGuard : assertHardwareLdNotEsosProtected ldId (buildEsosSystemProtection input)
      input.hardwareControllers =
        match findProtectionForHardwareLd ldId (buildEsosSystemProtection input)
          input.hardwareControllers with
        | none => .ok ()
        | some info => .error (esosProtectedError info.protectedDevice) := rfl
  rw [← mem_protectedHardwareLdIds, RefusesVolume, hGuard]
  cases hFind : findProtectionForHardwareLd ldId (buildEsosSystemProtection input)
      input.hardwareControllers with
  | none =>
    refine iff_of_false ?_ (findProtectionForHardwareLd_eq_none_iff.mp hFind)
    rintro ⟨error, hError⟩
    cases hError
  | some info =>
    refine iff_of_true ⟨_, rfl⟩ ?_
    by_contra hId
    cases (findProtectionForHardwareLd_eq_none_iff.mpr hId).symm.trans hFind

/-- The ids of the volumes that hold the system are used by no other volume. -/
theorem protectsVolumes_iff (input : ProtectionInput) :
    input.ProtectsVolumes ↔
      ∀ ld ∈ input.hardwareControllers.flatten, ∀ other ∈ input.hardwareControllers.flatten,
        ld.id = other.id → input.HoldsSystem other → input.HoldsSystem ld := by
  constructor
  · intro h ld hLd other hOther hId hSystem
    obtain ⟨drives, hDrives, hIn⟩ := List.mem_flatten.mp hLd
    apply (h drives hDrives ld hIn).1.mp
    exact refusesVolume_iff.mpr ⟨other, hOther, hSystem, hId.symm⟩
  · intro h drives hDrives ld hLd
    have hMem : ld ∈ input.hardwareControllers.flatten :=
      List.mem_flatten.mpr ⟨drives, hDrives, hLd⟩
    have hRefused : input.RefusesVolume ld.id ↔ input.HoldsSystem ld := by
      rw [refusesVolume_iff]
      constructor
      · rintro ⟨other, hOther, hSystem, hId⟩
        exact h ld hMem other hOther hId.symm hSystem
      · exact fun hSystem => ⟨ld, hMem, hSystem, rfl⟩
    refine ⟨hRefused, hRefused.trans ?_⟩
    rw [refusesVolume_iff]
    constructor
    · intro hSystem
      exact ⟨ld, List.mem_flatten.mpr ⟨drives, List.mem_cons_self, hLd⟩, hSystem, rfl⟩
    · rintro ⟨other, hOther, hSystem, hId⟩
      obtain ⟨others, hOthers, hIn⟩ := List.mem_flatten.mp hOther
      obtain rfl := List.mem_singleton.mp hOthers
      exact h ld hMem other (List.mem_flatten.mpr ⟨others, hDrives, hIn⟩) hId.symm hSystem

end ProtectionInput

/-- Two controllers with a drive each of the same id, of which one holds the root file system. -/
def twinVolumes : ProtectionInput where
  blockDevices :=
    [{ path := "/dev/sda".toList, type := .disk, mountpoint := some ['/'] },
      { path := "/dev/sdb".toList, type := .disk }]
  hardwareControllers :=
    [[{ id := "0/vd0".toList, devicePath := some "/dev/sda".toList }],
      [{ id := "0/vd0".toList, devicePath := some "/dev/sdb".toList }]]

/-- The volume that holds no system is refused for the id of the other. -/
theorem twin_volume_refused : ¬ ∀ input : ProtectionInput, input.ProtectsVolumes := by
  intro hAll
  have hTwin := (hAll twinVolumes _ (List.mem_cons_of_mem _ List.mem_cons_self) _
    List.mem_cons_self).1.mp ⟨_, rfl⟩
  obtain ⟨path, hPath, hOn⟩ := hTwin
  obtain rfl : "/dev/sdb".toList = path := Option.some.inj hPath
  revert hOn
  decide

end EsosWebui.Esos
