import EsosWebui.Scst.Scoped

/-! The masking invariant: what keeps the disk of one host from another, and that a
run of requests preserves it. -/
namespace EsosWebui.Scst

open Js

structure Group.Masked (x : Group) : Prop where
  lunIds : (x.luns.map (·.id)).Nodup
  devices : (x.luns.map (·.device)).Nodup

def Target.initiatorKeys (toLowerCase : Text → Text) (x : Target) : List Text :=
  (x.groups.flatMap (·.initiators)).map fun i => toLowerCase (trim i)

/-- Within a target, groups are told apart, no initiator is in two places, and every
LUN names a device. -/
structure Target.Masked (toLowerCase : Text → Text) (deviceNames : List Text) (x : Target) :
    Prop where
  groups : ∀ g ∈ x.groups, g.Masked
  groupNames : (x.groups.map (·.name)).Nodup
  initiators : (x.initiatorKeys toLowerCase).Nodup
  luns : ∀ l ∈ allLunsOnTarget x, l.device ∈ deviceNames

def ScstConfig.Masked (toLowerCase : Text → Text) (c : ScstConfig) : Prop :=
  ∀ d ∈ c.drivers, ∀ t ∈ d.targets, t.Masked toLowerCase c.deviceNames

variable {toLowerCase : Text → Text} {names : List Text}

theorem mem_allLunsOnTarget {x : Target} {l : Lun} :
    l ∈ allLunsOnTarget x ↔ l ∈ x.luns ∨ ∃ g ∈ x.groups, l ∈ g.luns := by
  simp [allLunsOnTarget]

theorem Group.Masked.reread {x : Group} (h : x.Masked) : x.reread.Masked := by
  refine ⟨?_, ?_⟩
  · simpa [Group.reread, Lun.reread, Function.comp_def] using h.lunIds
  · simpa [Group.reread, Lun.reread, Function.comp_def] using h.devices

theorem Target.Masked.reread {driver : Text} {x : Target} (h : x.Masked toLowerCase names) :
    (x.reread driver).Masked toLowerCase names where
  groups := by
    intro g hg
    obtain ⟨y, hy, rfl⟩ := List.mem_map.mp hg
    exact (h.groups y hy).reread
  groupNames := by simpa [Target.reread, Group.reread, Function.comp_def] using h.groupNames
  initiators := by
    simpa [Target.initiatorKeys, Target.reread, Group.reread, List.flatMap_map] using h.initiators
  luns := by
    have hDevice (l : Lun) : l.reread.device = l.device := rfl
    intro l hl
    rcases mem_allLunsOnTarget.mp hl with hl | ⟨g, hg, hl⟩
    · obtain ⟨y, hy, rfl⟩ := List.mem_map.mp hl
      exact hDevice y ▸ h.luns y (mem_allLunsOnTarget.mpr (Or.inl hy))
    · obtain ⟨k, hk, rfl⟩ := List.mem_map.mp hg
      obtain ⟨y, hy, rfl⟩ := List.mem_map.mp hl
      exact hDevice y ▸ h.luns y (mem_allLunsOnTarget.mpr (Or.inr ⟨k, hk, hy⟩))

theorem ScstConfig.Masked.reread {c : ScstConfig} (h : c.Masked toLowerCase) :
    c.reread.Masked toLowerCase := by
  intro d hd t ht
  obtain ⟨y, hy, rfl⟩ := List.mem_map.mp hd
  obtain ⟨x, hx, rfl⟩ := List.mem_map.mp ht
  rw [ScstConfig.deviceNames_reread]
  exact (h y hy x hx).reread

/-- A change of one group keeps a target masked when it leaves the name alone and keeps
the group masked, its LUNs on devices and the initiators of the target apart. -/
theorem Target.Masked.modifyGroup {x : Target} {k : Nat} {f : Group → Group} {g : Group}
    (h : x.Masked toLowerCase names) (hg : x.groups[k]? = some g) (hName : ∀ y, (f y).name = y.name)
    (hMasked : (f g).Masked) (hLuns : ∀ l ∈ (f g).luns, l.device ∈ names)
    (hInitiators : ((x.modifyGroup k f).initiatorKeys toLowerCase).Nodup) :
    (x.modifyGroup k f).Masked toLowerCase names where
  groups := forall_mem_modify_at h.groups fun a ha => by
    obtain rfl : g = a := by simpa [hg] using ha
    exact hMasked
  groupNames := by
    rw [Target.modifyGroup, map_modify_same hName]
    exact h.groupNames
  initiators := hInitiators
  luns := by
    have hOld : ∀ a ∈ x.groups, ∀ l ∈ a.luns, l.device ∈ names := fun a ha l hl =>
      h.luns l (mem_allLunsOnTarget.mpr (Or.inr ⟨a, ha, hl⟩))
    have hNew := forall_mem_modify_at (P := fun a : Group => ∀ l ∈ a.luns, l.device ∈ names)
      (f := f) (i := k) hOld fun a ha => by
        obtain rfl : g = a := by simpa [hg] using ha
        exact hLuns
    intro l hl
    rcases mem_allLunsOnTarget.mp hl with hl | ⟨a, ha, hl⟩
    · exact h.luns l (mem_allLunsOnTarget.mpr (Or.inl hl))
    · exact hNew a ha l hl

theorem Target.Masked.initiators_modifyGroup_same {x : Target} (h : x.Masked toLowerCase names)
    {k : Nat} {f : Group → Group} (hf : ∀ y, (f y).initiators = y.initiators) :
    ((x.modifyGroup k f).initiatorKeys toLowerCase).Nodup := by
  have hSame : ((x.groups.modify k f).map (·.initiators)) = x.groups.map (·.initiators) :=
    map_modify_same hf k x.groups
  simpa only [Target.initiatorKeys, Target.modifyGroup, List.flatMap_def, hSame] using h.initiators

theorem initiatorKeys_addInitiator {x : Target} {k : Nat} {g : Group} {i : Text}
    (h : x.Masked toLowerCase names) (hg : x.groups[k]? = some g)
    (hNew : toLowerCase (trim i) ∉ x.initiatorKeys toLowerCase) :
    ((x.modifyGroup k (Group.addInitiator i)).initiatorKeys toLowerCase).Nodup := by
  have hPerm : ((x.modifyGroup k (Group.addInitiator i)).groups.flatMap (·.initiators)).Perm
      (i :: x.groups.flatMap (·.initiators)) := by
    refine (flatMap_modify_perm (g := fun y : Group => y.initiators) hg).trans ?_
    simp only [Group.addInitiator, List.append_assoc, List.singleton_append]
    exact List.perm_middle.trans ((flatMap_perm (g := fun y : Group => y.initiators) hg).symm.cons i)
  refine ((hPerm.map fun i => toLowerCase (trim i)).nodup_iff).mpr ?_
  rw [List.map_cons, List.nodup_cons]
  exact ⟨hNew, h.initiators⟩

theorem not_mem_initiatorKeys {x : Target} {group : Found Group} {groupName i : Text}
    (h : x.Masked toLowerCase names) (hGroup : findGroup x groupName = some group)
    (hTrim : trim i = i) (hIn : ∀ j ∈ group.value.initiators, toLowerCase (trim j) ≠ toLowerCase i)
    (hOn : initiatorAlreadyOnTarget toLowerCase x.groups i (some groupName) = false) :
    toLowerCase (trim i) ∉ x.initiatorKeys toLowerCase := by
  intro hMem
  obtain ⟨j, hj, hKey⟩ := List.mem_map.mp hMem
  obtain ⟨g, hg, hjg⟩ := List.mem_flatMap.mp hj
  obtain ⟨hAt, hName⟩ := findGroup_eq_some hGroup
  by_cases hSame : g.name = groupName
  · -- The group itself: names are unique, so that it is the one that was found.
    have hEq : g = group.value := List.inj_on_of_nodup_map h.groupNames hg
      (List.mem_of_getElem? hAt) (hSame.trans hName.symm)
    exact hIn j (hEq ▸ hjg) (by rw [hKey, hTrim])
  · -- Another group of the target.
    simp only [initiatorAlreadyOnTarget, List.any_eq_false, Bool.and_eq_true, not_and,
      List.any_eq_true, not_exists] at hOn
    refine hOn g hg ?_ j hjg (by simpa using hKey)
    simp [Ne.symm hSame]

section

variable {c c' : ScstConfig}

theorem ScstConfig.Masked.of_names (h : c.Masked toLowerCase) (hDrivers : c'.drivers = c.drivers)
    (hNames : ∀ d ∈ c.drivers, ∀ t ∈ d.targets, ∀ l ∈ allLunsOnTarget t,
      l.device ∈ c.deviceNames → l.device ∈ c'.deviceNames) : c'.Masked toLowerCase := by
  intro d hd t ht
  rw [hDrivers] at hd
  have hTarget := h d hd t ht
  exact { hTarget with luns := fun l hl => hNames d hd t ht l hl (hTarget.luns l hl) }

theorem ScstConfig.Masked.modifyTarget {found : FoundTarget} {targetName : Text}
    (h : c.Masked toLowerCase) (hFound : findTargetInConfig c targetName = some found)
    {f : Target → Target}
    (hf : found.target.Masked toLowerCase c.deviceNames →
      (f found.target).Masked toLowerCase c.deviceNames) :
    (c.modifyTarget found.driver found.index f).Masked toLowerCase := by
  obtain ⟨hTarget, -⟩ := findTargetInConfig_eq_some hFound
  obtain ⟨y, hy, hyx⟩ := Option.bind_eq_some_iff.mp hTarget
  have hDriver := h y (List.mem_of_getElem? hy)
  refine forall_mem_modify_at (P := fun d : Driver =>
    ∀ t ∈ d.targets, t.Masked toLowerCase c.deviceNames) h fun a ha => ?_
  obtain rfl : y = a := by simpa [hy] using ha
  refine forall_mem_modify_at hDriver fun b hb => ?_
  obtain rfl : found.target = b := by simpa [hyx] using hb
  exact hf (hDriver _ (List.mem_of_getElem? hyx))

theorem ScstConfig.Masked.modifyGroup {found : FoundTarget} {group : Found Group}
    {targetName groupName : Text} (h : c.Masked toLowerCase)
    (hFound : findTargetInConfig c targetName = some found)
    (hGroup : findGroup found.target groupName = some group) {f : Group → Group}
    (hName : ∀ y, (f y).name = y.name)
    (hf : found.target.Masked toLowerCase c.deviceNames → group.value.Masked →
      (f group.value).Masked ∧ (∀ l ∈ (f group.value).luns, l.device ∈ c.deviceNames) ∧
        ((found.target.modifyGroup group.index f).initiatorKeys toLowerCase).Nodup) :
    (c.modifyGroup found.driver found.index group.index f).Masked toLowerCase := by
  refine h.modifyTarget hFound fun hTarget => ?_
  obtain ⟨hAt, -⟩ := findGroup_eq_some hGroup
  obtain ⟨hMasked, hLuns, hInitiators⟩ :=
    hf hTarget (hTarget.groups _ (List.mem_of_getElem? hAt))
  exact hTarget.modifyGroup hAt hName hMasked hLuns hInitiators

theorem mem_deviceNames_of_found {deviceName : Text}
    (h : (findDeviceInConfig c deviceName).isSome) : deviceName ∈ c.deviceNames := by
  obtain ⟨found, hFound⟩ := Option.isSome_iff_exists.mp h
  obtain ⟨handler, hHandler, hDevice⟩ := List.exists_of_findSome?_eq_some hFound
  obtain ⟨device, hFind, -⟩ := Option.map_eq_some_iff.mp hDevice
  have hName : device.name = deviceName := by simpa using List.find?_some hFind
  exact List.mem_flatMap.mpr
    ⟨handler, hHandler, List.mem_map.mpr ⟨device, List.mem_of_find?_eq_some hFind, hName⟩⟩

theorem Request.edit_masked {r : Request} (h : c.Masked toLowerCase)
    (hEdit : r.edit toLowerCase c = .ok c') : c'.Masked toLowerCase := by
  cases r with
  | createTarget driverName targetName =>
    obtain ⟨-, rfl⟩ := createTarget_eq_ok hEdit
    have hNew : (newTarget driverName targetName).Masked toLowerCase c.deviceNames :=
      ⟨by simp [newTarget], by simp [newTarget], by simp [newTarget, Target.initiatorKeys],
        by simp [newTarget, allLunsOnTarget]⟩
    have hAll := forall_addTarget_iff (c := c)
      (P := fun _ t => t.Masked toLowerCase c.deviceNames) (Q := fun _ => True)
      (t := newTarget driverName targetName) |>.mpr ⟨fun d hd => ⟨trivial, h d hd⟩, trivial, hNew⟩
    have hNames : (c.addTarget (newTarget driverName targetName)).deviceNames = c.deviceNames := by
      rw [ScstConfig.deviceNames, (addTarget_others _).1, ScstConfig.deviceNames]
    intro d hd t ht
    rw [hNames]
    exact (hAll d hd).2 t ht
  | deleteTarget targetName =>
    obtain ⟨found, -, rfl⟩ := deleteTarget_eq_ok hEdit
    exact forall_mem_modify (P := fun d : Driver =>
      ∀ t ∈ d.targets, t.Masked toLowerCase c.deviceNames) h
        fun d hd t ht => hd t (List.mem_of_mem_eraseIdx ht)
  | setTargetEnabled targetName enabled =>
    obtain ⟨found, hFound, rfl⟩ := setTargetEnabled_eq_ok hEdit
    exact h.modifyTarget hFound fun ht => ⟨ht.groups, ht.groupNames, ht.initiators, ht.luns⟩
  | createGroup targetName groupName =>
    obtain ⟨-, found, hFound, hNew, rfl⟩ := createGroup_eq_ok hEdit
    refine h.modifyTarget hFound fun ht => ⟨?_, ?_, ?_, ?_⟩
    · exact forall_mem_append_singleton ht.groups ⟨by simp, by simp⟩
    · simp only [Target.addGroup, List.map_append, List.map_cons, List.map_nil]
      refine List.nodup_append.mpr ⟨ht.groupNames, by simp, ?_⟩
      simpa using hNew
    · simpa [Target.initiatorKeys, Target.addGroup] using ht.initiators
    · simpa [allLunsOnTarget, Target.addGroup] using ht.luns
  | deleteGroup targetName groupName force =>
    obtain ⟨found, hFound, rfl⟩ := deleteGroup_eq_ok hEdit
    refine h.modifyTarget hFound fun ht => ⟨?_, ?_, ?_, ?_⟩
    · exact fun g hg => ht.groups g (List.mem_of_mem_filter hg)
    · exact ht.groupNames.sublist (List.filter_sublist.map _)
    · exact ht.initiators.sublist ((List.filter_sublist.flatMap _).map _)
    · intro l hl
      apply ht.luns l
      apply mem_allLunsOnTarget.mpr
      rcases mem_allLunsOnTarget.mp hl with hl | ⟨g, hg, hl⟩
      · exact Or.inl hl
      · exact Or.inr ⟨g, List.mem_of_mem_filter hg, hl⟩
  | addInitiator targetName groupName initiatorRaw options =>
    obtain ⟨⟨c'', initiator⟩, hAdd, rfl⟩ := map_eq_ok.mp hEdit
    obtain ⟨hWord, -, found, group, hFound, hGroup, hIn, hOn, rfl⟩ := addInitiator_eq_ok hAdd
    refine h.modifyGroup hFound hGroup (fun _ => rfl) fun ht hg => ⟨⟨hg.lunIds, hg.devices⟩, ?_, ?_⟩
    · exact fun l hl => ht.luns l (mem_allLunsOnTarget.mpr
        (Or.inr ⟨_, List.mem_of_getElem? (findGroup_eq_some hGroup).1, hl⟩))
    · exact initiatorKeys_addInitiator ht (findGroup_eq_some hGroup).1
        (not_mem_initiatorKeys ht hGroup hWord.trim_eq hIn hOn)
  | removeInitiator targetName groupName initiatorRaw =>
    obtain ⟨found, group, i, hFound, hGroup, rfl⟩ := removeInitiator_eq_ok hEdit
    refine h.modifyGroup hFound hGroup (fun _ => rfl) fun ht hg => ⟨⟨hg.lunIds, hg.devices⟩, ?_, ?_⟩
    · exact fun l hl => ht.luns l (mem_allLunsOnTarget.mpr
        (Or.inr ⟨_, List.mem_of_getElem? (findGroup_eq_some hGroup).1, hl⟩))
    · exact ht.initiators.sublist
        ((flatMap_modify_sublist fun y : Group => List.eraseIdx_sublist _ _).map _)
  | addLunToGroup targetName groupName lunId deviceName readOnly =>
    obtain ⟨⟨c'', result⟩, hAdd, rfl⟩ := map_eq_ok.mp hEdit
    obtain ⟨-, -, found, group, hFound, hGroup, hExists, hIds, hMapped, rfl⟩ :=
      addLunToGroup_eq_ok hAdd
    have hMem := List.mem_of_getElem? (findGroup_eq_some hGroup).1
    refine h.modifyGroup hFound hGroup (fun _ => rfl) fun ht hg => ⟨⟨?_, ?_⟩, ?_, ?_⟩
    · simp only [Group.addLun, List.map_append, List.map_cons, List.map_nil]
      exact List.nodup_append.mpr ⟨hg.lunIds, by simp, by simpa using hIds⟩
    · simp only [Group.addLun, List.map_append, List.map_cons, List.map_nil]
      refine List.nodup_append.mpr ⟨hg.devices, by simp, ?_⟩
      simpa using fun l hl => hMapped l (mem_allLunsOnTarget.mpr (Or.inr ⟨_, hMem, hl⟩))
    · exact forall_mem_append_singleton
        (fun l hl => ht.luns l (mem_allLunsOnTarget.mpr (Or.inr ⟨_, hMem, hl⟩)))
        (mem_deviceNames_of_found hExists)
    · exact ht.initiators_modifyGroup_same fun _ => rfl
  | removeLunFromGroup targetName groupName lunId =>
    obtain ⟨found, group, hFound, hGroup, rfl⟩ := removeLunFromGroup_eq_ok hEdit
    have hMem := List.mem_of_getElem? (findGroup_eq_some hGroup).1
    refine h.modifyGroup hFound hGroup (fun _ => rfl) fun ht hg => ⟨⟨?_, ?_⟩, ?_, ?_⟩
    · exact hg.lunIds.sublist (List.filter_sublist.map _)
    · exact hg.devices.sublist (List.filter_sublist.map _)
    · exact fun l hl => ht.luns l (mem_allLunsOnTarget.mpr
        (Or.inr ⟨_, hMem, List.mem_of_mem_filter hl⟩))
    · exact ht.initiators_modifyGroup_same fun _ => rfl
  | createDevice handlerName deviceName filename attrs =>
    obtain ⟨-, rfl⟩ := createDevice_eq_ok hEdit
    refine h.of_names (addDevice_others _).1 fun d hd t ht l hl hName => ?_
    exact (deviceNames_addDevice _).mem_iff.mpr (List.mem_cons_of_mem _ hName)
  | deleteDevice deviceName =>
    have hNames := deviceNames_deleteDevice hEdit
    obtain ⟨hFree, i, x, -, -, hEq⟩ := deleteDevice_eq_ok hEdit
    have hDrivers : c'.drivers = c.drivers := by
      rw [hEq]
      split <;> rfl
    refine h.of_names hDrivers fun d hd t ht l hl hName => ?_
    -- The device that went away was on no LUN.
    have hLun : l ∈ c.allLuns :=
      List.mem_flatMap.mpr ⟨t, List.mem_flatMap.mpr ⟨d, hd, ht⟩, hl⟩
    exact (List.mem_cons.mp (hNames.mem_iff.mp hName)).resolve_left (hFree l hLun)

end

/-- Whatever the sequence of accepted requests, as long as each finds a file whose lines
survive being written and has plain fields, the masking invariant holds at its end. -/
theorem masked_of_run {toLowerCase : Text → Text} {rs : List Request} {file file' : Text}
    (hRun : Run (Request.run toLowerCase) Request.Allowed file rs file')
    (hStart : (parseScstConf file).Masked toLowerCase) :
    (parseScstConf file').Masked toLowerCase := by
  refine hRun.invariant (I := fun f => (parseScstConf f).Masked toLowerCase) (fun r f f' hr hStep h => ?_) hStart
  obtain ⟨c', hEdit, hRead⟩ := Request.run_eq_ok hr hStep
  exact hRead ▸ (Request.edit_masked h hEdit).reread

theorem masked_nil {toLowerCase : Text → Text} : (parseScstConf []).Masked toLowerCase := by
  rw [parseScstConf_nil]
  simp [ScstConfig.Masked, ScstConfig.empty]

/-- The first target of an empty file. -/
theorem masked_of_run_createTarget :
    (parseScstConf "TARGET_DRIVER d \x7b\n\tTARGET t \x7b\n\t\x7d\n\x7d\n".toList).Masked
      (List.map Char.toLower) :=
  have hWord : IsWord "d".toList := by decide
  have hRun : Run (Request.run (List.map Char.toLower)) Request.Allowed []
      [.createTarget "d".toList "t".toList]
      "TARGET_DRIVER d \x7b\n\tTARGET t \x7b\n\t\x7d\n\x7d\n".toList :=
    .cons ⟨scoped_nil, hWord⟩ (by decide +kernel) (.nil _)
  masked_of_run hRun masked_nil

def injectedLun : Request :=
  .createTarget
    "d \x7b\nTARGET a \x7b\nLUN 0 ghost\n\x7d\n\x7d\nTARGET_DRIVER e".toList "t".toList

def injectedLunFile : Text :=
  ("TARGET_DRIVER d \x7b\nTARGET a \x7b\nLUN 0 ghost\n\x7d\n\x7d\n" ++
    "TARGET_DRIVER e \x7b\n\tTARGET t \x7b\n\t\x7d\n\x7d\n").toList

theorem injectedLun_not_masked :
    (parseScstConf []).Masked (List.map Char.toLower) ∧
      injectedLun.run (List.map Char.toLower) [] = .ok injectedLunFile ∧
      ¬(parseScstConf injectedLunFile).Masked (List.map Char.toLower) := by
  refine ⟨masked_nil, by decide +kernel, fun h => ?_⟩
  have hLun : ∃ d ∈ (parseScstConf injectedLunFile).drivers,
      ∃ t ∈ d.targets, allLunsOnTarget t ≠ [] := by decide +kernel
  have hNone : (parseScstConf injectedLunFile).deviceNames = [] := by
    decide +kernel
  obtain ⟨d, hd, t, ht, hne⟩ := hLun
  obtain ⟨l, hl⟩ := List.exists_mem_of_ne_nil _ hne
  simpa [hNone] using (h d hd t ht).luns l hl

end EsosWebui.Scst
