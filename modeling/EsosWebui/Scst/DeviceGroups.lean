import EsosWebui.Scst.Scoped

/-! Referential integrity of device groups: which requests keep their references
to devices and targets, and that a run of such requests does. -/
namespace EsosWebui.Scst

open Js

structure ScstConfig.Referential (c : ScstConfig) : Prop where
  uniqueDevices : c.deviceNames.Nodup
  devices : ∀ g ∈ c.deviceGroups, ∀ d ∈ g.devices, d ∈ c.deviceNames
  targets : ∀ g ∈ c.deviceGroups, ∀ a ∈ g.targetGroups, ∀ t ∈ a.targets, t ∈ c.targetNames

/-- A created device has a new name, a deleted one is in no device group, and a deleted
target is in none either unless another target has its name. -/
def Request.KeepsReferences (c : ScstConfig) : Request → Prop
  | createDevice _ deviceName _ _ => deviceName ∉ c.deviceNames
  | deleteDevice deviceName => ∀ g ∈ c.deviceGroups, deviceName ∉ g.devices
  | deleteTarget targetName =>
    (∃ g ∈ c.deviceGroups, ∃ a ∈ g.targetGroups, targetName ∈ a.targets) →
      2 ≤ c.targetNames.count targetName
  | _ => True

theorem ScstConfig.Referential.reread {c : ScstConfig} (h : c.Referential) :
    c.reread.Referential where
  uniqueDevices := c.deviceNames_reread ▸ h.uniqueDevices
  devices := by
    rw [ScstConfig.deviceNames_reread]
    intro g hg
    obtain ⟨y, hy, rfl⟩ := List.mem_map.mp hg
    exact h.devices y hy
  targets := by
    rw [ScstConfig.targetNames_reread]
    intro g hg a ha
    obtain ⟨y, hy, rfl⟩ := List.mem_map.mp hg
    obtain ⟨x, hx, rfl⟩ := List.mem_map.mp ha
    exact h.targets y hy x hx

section

variable {c c' : ScstConfig}

theorem ScstConfig.Referential.of_perm (h : c.Referential)
    (hDevices : c.deviceNames.Perm c'.deviceNames) (hTargets : c.targetNames ⊆ c'.targetNames)
    (hGroups : c'.deviceGroups = c.deviceGroups) : c'.Referential where
  uniqueDevices := hDevices.nodup_iff.mp h.uniqueDevices
  devices g hg d hd := hDevices.mem_iff.mp (h.devices g (hGroups ▸ hg) d hd)
  targets g hg a ha t ht := hTargets (h.targets g (hGroups ▸ hg) a ha t ht)

theorem targetNames_modifyTarget {d t : Nat} {f : Target → Target} (hf : ∀ x, (f x).name = x.name) :
    (c.modifyTarget d t f).targetNames = c.targetNames := by
  have hDriver (x : Driver) :
      (x.modifyTarget t f).targets.map (·.name) = x.targets.map (·.name) := map_modify_same hf t _
  have hAll := map_modify_same (g := fun x : Driver => x.targets.map (·.name)) hDriver d c.drivers
  simpa only [ScstConfig.targetNames, ScstConfig.modifyTarget, ScstConfig.modifyDriver,
    List.flatMap_def] using congrArg List.flatten hAll

theorem ScstConfig.Referential.modifyTarget (h : c.Referential) {d t : Nat} {f : Target → Target}
    (hf : ∀ x, (f x).name = x.name) : (c.modifyTarget d t f).Referential :=
  h.of_perm (List.Perm.refl _) (targetNames_modifyTarget hf ▸ List.Subset.refl _) rfl

theorem createDevice_referential_iff {handlerName deviceName filename : Text} {attrs : Record Text}
    (h : c.Referential) (hEdit : createDevice handlerName deviceName filename attrs c = .ok c') :
    c'.Referential ↔ deviceName ∉ c.deviceNames := by
  obtain ⟨-, rfl⟩ := createDevice_eq_ok hEdit
  have hNames := deviceNames_addDevice (c := c)
    { name := deviceName, handler := handlerName, filename := trim filename, attrs := attrs }
  obtain ⟨hDrivers, hGroups⟩ := addDevice_others (c := c)
    { name := deviceName, handler := handlerName, filename := trim filename, attrs := attrs }
  constructor
  · intro hNew
    exact (List.nodup_cons.mp (hNames.nodup_iff.mp hNew.uniqueDevices)).1
  · intro hFresh
    refine ⟨hNames.nodup_iff.mpr (List.nodup_cons.mpr ⟨hFresh, h.uniqueDevices⟩), ?_, ?_⟩
    · intro g hg d hd
      exact hNames.mem_iff.mpr (List.mem_cons_of_mem _ (h.devices g (hGroups ▸ hg) d hd))
    · rw [ScstConfig.targetNames, hDrivers, hGroups]
      exact h.targets

theorem deleteDevice_referential_iff {deviceName : Text} (h : c.Referential)
    (hEdit : deleteDevice deviceName c = .ok c') :
    c'.Referential ↔ ∀ g ∈ c.deviceGroups, deviceName ∉ g.devices := by
  have hNames := deviceNames_deleteDevice hEdit
  obtain ⟨hGone, hUnique⟩ := List.nodup_cons.mp (hNames.nodup_iff.mp h.uniqueDevices)
  obtain ⟨hDrivers, hGroups⟩ :
      c'.drivers = c.drivers ∧ c'.deviceGroups = c.deviceGroups := by
    obtain ⟨-, i, x, -, -, rfl⟩ := deleteDevice_eq_ok hEdit
    split <;> exact ⟨rfl, rfl⟩
  constructor
  · intro hNew g hg hIn
    exact hGone (hNew.devices g (hGroups ▸ hg) deviceName hIn)
  · intro hFree
    refine ⟨hUnique, ?_, ?_⟩
    · rw [hGroups]
      intro g hg d hd
      have hOther : d ≠ deviceName := fun hSame => hFree g hg (hSame ▸ hd)
      exact (List.mem_cons.mp (hNames.mem_iff.mp (h.devices g hg d hd))).resolve_left hOther
    · rw [ScstConfig.targetNames, hDrivers, hGroups]
      exact h.targets

theorem deleteTarget_referential_iff {targetName : Text} (h : c.Referential)
    (hEdit : deleteTarget targetName c = .ok c') :
    c'.Referential ↔ (∃ g ∈ c.deviceGroups, ∃ a ∈ g.targetGroups, targetName ∈ a.targets) →
      2 ≤ c.targetNames.count targetName := by
  have hNames := targetNames_deleteTarget hEdit
  -- The name is left when there was a second target of it.
  have hLeft : targetName ∈ c'.targetNames ↔ 2 ≤ c.targetNames.count targetName := by
    rw [hNames.count_eq, List.count_cons_self, Nat.succ_le_succ_iff]
    exact List.count_pos_iff.symm
  obtain ⟨hHandlers, hGroups⟩ :
      c'.handlers = c.handlers ∧ c'.deviceGroups = c.deviceGroups := by
    obtain ⟨found, -, rfl⟩ := deleteTarget_eq_ok hEdit
    exact ⟨rfl, rfl⟩
  constructor
  · rintro hNew ⟨g, hg, a, ha, ht⟩
    exact hLeft.mp (hNew.targets g (hGroups ▸ hg) a ha targetName ht)
  · intro hCount
    refine ⟨?_, ?_, ?_⟩
    · rw [ScstConfig.deviceNames, hHandlers]
      exact h.uniqueDevices
    · rw [ScstConfig.deviceNames, hHandlers, hGroups]
      exact h.devices
    · rw [hGroups]
      intro g hg a ha t ht
      rcases List.mem_cons.mp (hNames.mem_iff.mp (h.targets g hg a ha t ht)) with rfl | hOther
      · exact hLeft.mpr (hCount ⟨g, hg, a, ha, ht⟩)
      · exact hOther

theorem Request.edit_referential_iff {toLowerCase : Text → Text} {r : Request}
    (h : c.Referential) (hEdit : r.edit toLowerCase c = .ok c') :
    c'.Referential ↔ r.KeepsReferences c := by
  cases r with
  | createTarget driverName targetName =>
    obtain ⟨-, rfl⟩ := createTarget_eq_ok hEdit
    obtain ⟨hHandlers, hGroups⟩ := addTarget_others (c := c) (newTarget driverName targetName)
    have hNames := targetNames_addTarget (c := c) (newTarget driverName targetName)
    refine iff_of_true (h.of_perm ?_ ?_ hGroups) trivial
    · rw [ScstConfig.deviceNames, ScstConfig.deviceNames, hHandlers]
    · exact fun t ht => hNames.mem_iff.mpr (List.mem_cons_of_mem _ ht)
  | deleteTarget targetName => exact deleteTarget_referential_iff h hEdit
  | setTargetEnabled targetName enabled =>
    obtain ⟨found, -, rfl⟩ := setTargetEnabled_eq_ok hEdit
    exact iff_of_true (h.modifyTarget fun _ => rfl) trivial
  | createGroup targetName groupName =>
    obtain ⟨-, found, -, -, rfl⟩ := createGroup_eq_ok hEdit
    exact iff_of_true (h.modifyTarget fun _ => rfl) trivial
  | deleteGroup targetName groupName force =>
    obtain ⟨found, -, rfl⟩ := deleteGroup_eq_ok hEdit
    exact iff_of_true (h.modifyTarget fun _ => rfl) trivial
  | addInitiator targetName groupName initiatorRaw options =>
    obtain ⟨⟨c'', initiator⟩, hAdd, rfl⟩ := map_eq_ok.mp hEdit
    obtain ⟨-, -, found, group, -, -, -, -, rfl⟩ := addInitiator_eq_ok hAdd
    exact iff_of_true (h.modifyTarget fun _ => rfl) trivial
  | removeInitiator targetName groupName initiatorRaw =>
    obtain ⟨found, group, i, -, -, rfl⟩ := removeInitiator_eq_ok hEdit
    exact iff_of_true (h.modifyTarget fun _ => rfl) trivial
  | addLunToGroup targetName groupName lunId deviceName readOnly =>
    obtain ⟨⟨c'', result⟩, hAdd, rfl⟩ := map_eq_ok.mp hEdit
    obtain ⟨-, -, found, group, -, -, -, -, -, rfl⟩ := addLunToGroup_eq_ok hAdd
    exact iff_of_true (h.modifyTarget fun _ => rfl) trivial
  | removeLunFromGroup targetName groupName lunId =>
    obtain ⟨found, group, -, -, rfl⟩ := removeLunFromGroup_eq_ok hEdit
    exact iff_of_true (h.modifyTarget fun _ => rfl) trivial
  | createDevice handlerName deviceName filename attrs =>
    exact createDevice_referential_iff h hEdit
  | deleteDevice deviceName => exact deleteDevice_referential_iff h hEdit

end

/-- A run of requests that each keep the references, in a file whose lines survive being
written, ends in a file whose device groups name devices and targets that exist. -/
theorem referential_of_run {toLowerCase : Text → Text} {rs : List Request} {file file' : Text}
    (hRun : Run (Request.run toLowerCase)
      (fun r f => r.Allowed f ∧ r.KeepsReferences (parseScstConf f)) file rs file')
    (hStart : (parseScstConf file).Referential) : (parseScstConf file').Referential := by
  refine hRun.invariant (I := fun f => (parseScstConf f).Referential) (fun r f f' hr hStep h => ?_) hStart
  obtain ⟨c', hEdit, hRead⟩ := Request.run_eq_ok hr.1 hStep
  exact hRead ▸ ((Request.edit_referential_iff h hEdit).mpr hr.2).reread

def firstDevice : Request := .createDevice "vdisk_fileio".toList "d".toList "/f".toList .empty

def firstDeviceFile : Text :=
  "HANDLER vdisk_fileio \x7b\n\tDEVICE d \x7b\n\t\tfilename /f\n\t\x7d\n\x7d\n".toList

theorem referential_of_run_createDevice : (parseScstConf firstDeviceFile).Referential :=
  have hFields : firstDevice.Readable := ⟨by decide, by decide, by simp [Record.empty]⟩
  have hNew : firstDevice.KeepsReferences (parseScstConf []) := by
    rw [parseScstConf_nil]
    exact List.not_mem_nil
  have hRun : Run (Request.run (List.map Char.toLower))
      (fun r f => r.Allowed f ∧ r.KeepsReferences (parseScstConf f)) []
      [firstDevice] firstDeviceFile :=
    .cons ⟨⟨scoped_nil, hFields⟩, hNew⟩ (by decide +kernel) (.nil _)
  referential_of_run hRun (by rw [parseScstConf_nil]; exact ⟨.nil, by simp [ScstConfig.empty],
    by simp [ScstConfig.empty]⟩)

def groupedDeviceFile : Text :=
  ("HANDLER vdisk_fileio \x7b\n\tDEVICE d \x7b\n\t\tfilename /f\n\t\x7d\n\x7d\n" ++
    "DEVICE_GROUP g \x7b\n\tDEVICE d\n\x7d\n").toList

def danglingGroupFile : Text := "DEVICE_GROUP g \x7b\n\tDEVICE d\n\x7d\n".toList

/-- The device is deleted, and the group still names it. -/
theorem groupedDevice_deleted_not_referential :
    (parseScstConf groupedDeviceFile).Referential ∧
      (Request.deleteDevice "d".toList).run (List.map Char.toLower) groupedDeviceFile =
        .ok danglingGroupFile ∧
      ¬(parseScstConf danglingGroupFile).Referential := by
  have hStart : (parseScstConf groupedDeviceFile).deviceNames.Nodup ∧
      (∀ g ∈ (parseScstConf groupedDeviceFile).deviceGroups, ∀ d ∈ g.devices,
        d ∈ (parseScstConf groupedDeviceFile).deviceNames) ∧
      ∀ g ∈ (parseScstConf groupedDeviceFile).deviceGroups, g.targetGroups = [] := by
    decide +kernel
  obtain ⟨hUnique, hDevices, hTargets⟩ := hStart
  refine ⟨⟨hUnique, hDevices, fun g hg a ha => by simp [hTargets g hg] at ha⟩,
    by decide +kernel, fun h => ?_⟩
  have hGone : ∃ g ∈ (parseScstConf danglingGroupFile).deviceGroups, ∃ d ∈ g.devices,
      d ∉ (parseScstConf danglingGroupFile).deviceNames := by
    decide +kernel
  obtain ⟨g, hg, d, hd, hMissing⟩ := hGone
  exact hMissing (h.devices g hg d hd)

end EsosWebui.Scst
