import EsosWebui.Js.Matches
import EsosWebui.Scst.Entries
import EsosWebui.Scst.RoundTrip

/-! What is left of a configuration when all that a request names is removed from it, and when the
requests that remove something leave exactly that. -/
namespace EsosWebui.Scst

open Js

def ScstConfig.targetsNamed (c : ScstConfig) (targetName : Text) : List Target :=
  c.drivers.flatMap fun driver => driver.targets.filter (·.name = targetName)

def ScstConfig.groupsNamed (c : ScstConfig) (targetName groupName : Text) : List Group :=
  (c.targetsNamed targetName).flatMap fun target => target.groups.filter (·.name = groupName)

def ScstConfig.mapTargets (targetName : Text) (f : Target → Target) (c : ScstConfig) :
    ScstConfig :=
  { c with
    drivers := c.drivers.map fun driver =>
      { driver with
        targets := driver.targets.map fun target =>
          if target.name = targetName then f target else target } }

def Target.mapGroups (groupName : Text) (f : Group → Group) (x : Target) : Target :=
  { x with groups := x.groups.map fun group => if group.name = groupName then f group else group }

def Handler.without (deviceName : Text) (x : Handler) : Option Handler :=
  let devices := x.devices.filter (·.name ≠ deviceName)
  if devices = [] ∧ x.devices ≠ [] then none else some { x with devices }

section

variable (toLowerCase : Text → Text)

def Request.without (c : ScstConfig) : Request → ScstConfig
  | deleteTarget targetName =>
    { c with
      drivers := c.drivers.map fun driver =>
        { driver with targets := driver.targets.filter (·.name ≠ targetName) } }
  | deleteGroup targetName groupName _ => c.mapTargets targetName fun target =>
    { target with groups := target.groups.filter (·.name ≠ groupName) }
  | removeInitiator targetName groupName initiatorRaw =>
    c.mapTargets targetName <| Target.mapGroups groupName fun group =>
      { group with
        initiators := group.initiators.filter fun i =>
          toLowerCase (trim i) ≠ toLowerCase (trim initiatorRaw) }
  | removeLunFromGroup targetName groupName lunId =>
    c.mapTargets targetName <| Target.mapGroups groupName fun group =>
      { group with luns := group.luns.filter (·.id ≠ lunId) }
  | deleteDevice deviceName => { c with handlers := c.handlers.filterMap (Handler.without deviceName) }
  | _ => c

def Request.places (c : ScstConfig) : Request → Nat
  | deleteTarget targetName => (c.targetsNamed targetName).length
  | deleteGroup targetName groupName _ =>
    (c.targetsNamed targetName).countP (·.groups.any (·.name = groupName))
  | removeInitiator targetName groupName initiatorRaw =>
    ((c.groupsNamed targetName groupName).flatMap (·.initiators)).countP fun i =>
      toLowerCase (trim i) = toLowerCase (trim initiatorRaw)
  | removeLunFromGroup targetName groupName lunId =>
    (c.groupsNamed targetName groupName).countP (·.luns.any (·.id = lunId))
  | deleteDevice deviceName => (c.handlers.flatMap (·.devices)).countP (·.name = deviceName)
  | _ => 0

end

section

variable {c : ScstConfig}

theorem mapGroups_eq_self_iff {groupName : Text} {F : Group → Group} {w : Group → Nat}
    (hSelf : ∀ x, F x = x ↔ w x = 0) (x : Target) :
    x.mapGroups groupName F = x ↔ ((x.groups.filter (·.name = groupName)).map w).sum = 0 := by
  rw [sum_map_filter, ← map_eq_self_iff_sum
    (F := fun group => if group.name = groupName then F group else group)]
  · constructor
    · exact fun h => congrArg Target.groups h
    · intro h
      rw [Target.mapGroups, h]
  · intro group
    by_cases hName : group.name = groupName <;> simp [hName, hSelf]

theorem modifyGroup_eq_mapGroups_iff {groupName : Text} {g : Nat} {f F : Group → Group}
    {w : Group → Nat} {x : Target} {group : Group} (hAt : x.groups[g]? = some group)
    (hName : group.name = groupName) (hSelf : ∀ x, F x = x ↔ w x = 0) (hPos : 0 < w group)
    (hOne : f group = F group ↔ w group = 1) :
    x.modifyGroup g f = x.mapGroups groupName F ↔
      ((x.groups.filter (·.name = groupName)).map w).sum = 1 := by
  rw [sum_map_filter, ← modify_eq_map_iff_sum (f := f)
    (F := fun group => if group.name = groupName then F group else group) hAt]
  · constructor
    · exact fun h => congrArg Target.groups h
    · intro h
      rw [Target.modifyGroup, Target.mapGroups, h]
  · intro group
    by_cases hName : group.name = groupName <;> simp [hName, hSelf]
  · simpa [hName] using hPos
  · simpa [hName] using hOne

theorem modifyTarget_eq_mapTargets_iff {targetName : Text} {d t : Nat} {f F : Target → Target}
    {w : Target → Nat} {driver : Driver} {target : Target} (hDriver : c.drivers[d]? = some driver)
    (hAt : driver.targets[t]? = some target) (hName : target.name = targetName)
    (hSelf : ∀ x, F x = x ↔ w x = 0) (hPos : 0 < w target)
    (hOne : f target = F target ↔ w target = 1) :
    c.modifyTarget d t f = c.mapTargets targetName F ↔
      ((c.targetsNamed targetName).map w).sum = 1 := by
  have hEach (x : Target) : (if x.name = targetName then F x else x) = x ↔
      (if decide (x.name = targetName) = true then w x else 0) = 0 := by
    by_cases hName : x.name = targetName <;> simp [hName, hSelf]
  have hTarget : f target = (if target.name = targetName then F target else target) ↔
      (if decide (target.name = targetName) = true then w target else 0) = 1 := by
    simpa [hName] using hOne
  have hWeight : 0 < if decide (target.name = targetName) = true then w target else 0 := by
    simpa [hName] using hPos
  rw [ScstConfig.targetsNamed, sum_map_flatMap]
  simp only [sum_map_filter]
  rw [← modify_eq_map_iff_sum (f := Driver.modifyTarget t f) (F := fun driver =>
      { driver with
        targets := driver.targets.map fun target =>
          if target.name = targetName then F target else target }) hDriver]
  · constructor
    · exact fun h => congrArg ScstConfig.drivers h
    · intro h
      rw [ScstConfig.modifyTarget, ScstConfig.modifyDriver, ScstConfig.mapTargets, h]
  · intro x
    rw [← map_eq_self_iff_sum hEach]
    constructor
    · exact fun h => congrArg Driver.targets h
    · intro h
      rw [h]
  · rw [sum_map_at hAt]
    omega
  · rw [← modify_eq_map_iff_sum hAt hEach hWeight hTarget]
    constructor
    · exact fun h => congrArg Driver.targets h
    · intro h
      rw [Driver.modifyTarget, h]

end

variable {toLowerCase : Text → Text} {c c' : ScstConfig}

theorem deleteTarget_eq_without_iff {targetName : Text}
    (h : deleteTarget targetName c = .ok c') :
    c' = (Request.deleteTarget targetName).without toLowerCase c ↔
      (Request.deleteTarget targetName).places toLowerCase c = 1 := by
  obtain ⟨found, hFound, rfl⟩ := deleteTarget_eq_ok h
  obtain ⟨driver, hDriver, -, hTarget, hName⟩ := exists_driver_of_findTargetInConfig hFound
  have hPlaces : (Request.deleteTarget targetName).places toLowerCase c =
      (c.drivers.map fun x => x.targets.countP (·.name = targetName)).sum := by
    simp [Request.places, ScstConfig.targetsNamed, List.length_flatMap,
      List.countP_eq_length_filter]
  rw [hPlaces, ← modify_eq_map_iff_sum
    (f := fun x : Driver => { x with targets := x.targets.eraseIdx found.index })
    (F := fun x : Driver => { x with targets := x.targets.filter (·.name ≠ targetName) }) hDriver]
  · constructor
    · exact fun h => congrArg ScstConfig.drivers h
    · intro h
      rw [ScstConfig.modifyDriver, h]
      rfl
  · intro x
    rw [← filter_eq_self_iff_countP]
    constructor
    · exact fun h => congrArg Driver.targets h
    · intro h
      rw [h]
  · exact List.countP_pos_iff.mpr ⟨_, List.mem_of_getElem? hTarget, by simpa using hName⟩
  · rw [← eraseIdx_eq_filter_iff hTarget hName]
    constructor
    · exact fun h => congrArg Driver.targets h
    · intro h
      rw [h]

theorem deleteGroup_eq_without_iff {targetName groupName : Text} {force : Bool}
    (h : deleteGroup targetName groupName force c = .ok c') :
    c' = (Request.deleteGroup targetName groupName force).without toLowerCase c ↔
      (Request.deleteGroup targetName groupName force).places toLowerCase c = 1 := by
  simp only [deleteGroup, bind_eq_ok, orThrow_eq_ok, throwIf_eq_ok, pure_eq_ok, exists_const] at h
  obtain ⟨found, hFound, group, hGroup, -, rfl⟩ := h
  obtain ⟨driver, hDriver, -, hTarget, hName⟩ := exists_driver_of_findTargetInConfig hFound
  obtain ⟨hGroupAt, hGroupName⟩ := findGroup_eq_some hGroup
  have hAny : found.target.groups.any (·.name = groupName) = true :=
    List.any_eq_true.mpr ⟨_, List.mem_of_getElem? hGroupAt, by simpa using hGroupName⟩
  rw [Request.places, countP_eq_sum]
  apply modifyTarget_eq_mapTargets_iff hDriver hTarget hName
  · intro x
    rw [← filter_eq_self_iff_any]
    constructor
    · exact fun h => congrArg Target.groups h
    · intro h
      rw [h]
  · rw [hAny]
    decide
  · rw [hAny]
    exact iff_of_true rfl rfl

theorem modifyGroup_eq_without_iff {targetName groupName : Text} {found : FoundTarget}
    {group : Found Group} (hFound : findTargetInConfig c targetName = some found)
    (hGroup : findGroup found.target groupName = some group) {f F : Group → Group} {w : Group → Nat}
    (hSelf : ∀ x, F x = x ↔ w x = 0) (hPos : 0 < w group.value)
    (hOne : f group.value = F group.value ↔ w group.value = 1) :
    c.modifyGroup found.driver found.index group.index f =
        c.mapTargets targetName (Target.mapGroups groupName F) ↔
      ((c.groupsNamed targetName groupName).map w).sum = 1 := by
  obtain ⟨driver, hDriver, -, hTarget, hName⟩ := exists_driver_of_findTargetInConfig hFound
  obtain ⟨hGroupAt, hGroupName⟩ := findGroup_eq_some hGroup
  rw [ScstConfig.groupsNamed, sum_map_flatMap]
  apply modifyTarget_eq_mapTargets_iff hDriver hTarget hName
  · exact mapGroups_eq_self_iff hSelf
  · have hIn : group.value ∈ found.target.groups.filter (·.name = groupName) :=
      List.mem_filter.mpr ⟨List.mem_of_getElem? hGroupAt, by simpa using hGroupName⟩
    exact hPos.trans_le (List.single_le_sum (fun _ _ => Nat.zero_le _) _
      (List.mem_map_of_mem hIn))
  · exact modifyGroup_eq_mapGroups_iff hGroupAt hGroupName hSelf hPos hOne

theorem removeInitiator_eq_without_iff {targetName groupName initiatorRaw : Text}
    (h : removeInitiator toLowerCase targetName groupName initiatorRaw c = .ok c') :
    c' = (Request.removeInitiator targetName groupName initiatorRaw).without toLowerCase c ↔
      (Request.removeInitiator targetName groupName initiatorRaw).places toLowerCase c = 1 := by
  simp only [removeInitiator, bind_eq_ok, orThrow_eq_ok, pure_eq_ok] at h
  obtain ⟨found, hFound, group, hGroup, initiator, hInitiator, rfl⟩ := h
  obtain ⟨hAt, hSame⟩ := findFirst_eq_some hInitiator
  rw [Request.places, List.countP_flatMap]
  apply modifyGroup_eq_without_iff hFound hGroup
  · intro x
    rw [Function.comp_apply, ← filter_eq_self_iff_countP (k := fun i => toLowerCase (trim i))]
    constructor
    · exact fun h => congrArg Group.initiators h
    · intro h
      rw [h]
  · exact List.countP_pos_iff.mpr ⟨_, List.mem_of_getElem? hAt, hSame⟩
  · rw [Function.comp_apply, ← eraseIdx_eq_filter_iff (k := fun i => toLowerCase (trim i)) hAt
      (of_decide_eq_true hSame)]
    constructor
    · exact fun h => congrArg Group.initiators h
    · intro h
      rw [h]

theorem removeLunFromGroup_eq_without_iff {targetName groupName : Text} {lunId : Number}
    (h : removeLunFromGroup targetName groupName lunId c = .ok c') :
    c' = (Request.removeLunFromGroup targetName groupName lunId).without toLowerCase c ↔
      (Request.removeLunFromGroup targetName groupName lunId).places toLowerCase c = 1 := by
  simp only [removeLunFromGroup, validateUnmapLun, bind_eq_ok, mapError_eq_ok, orThrow_eq_ok,
    throwIf_eq_ok, pure_eq_ok, exists_const] at h
  obtain ⟨found, hFound, ⟨checked, hChecked, -, hAny⟩, group, hGroup, rfl⟩ := h
  obtain rfl : checked = group.value :=
    Option.some.inj (hChecked.symm.trans (find?_of_findFirst hGroup))
  rw [Bool.not_eq_false] at hAny
  rw [Request.places, countP_eq_sum]
  apply modifyGroup_eq_without_iff hFound hGroup
  · intro x
    rw [← filter_eq_self_iff_any (k := Lun.id)]
    constructor
    · exact fun h => congrArg Group.luns h
    · intro h
      rw [h]
  · rw [hAny]
    decide
  · rw [hAny]
    exact iff_of_true rfl rfl

theorem without_eq_self_iff {deviceName : Text} (x : Handler) :
    x.without deviceName = some x ↔ x.devices.countP (·.name = deviceName) = 0 := by
  unfold Handler.without
  dsimp only
  split
  · rename_i hEmpty
    obtain ⟨hNone, hSome⟩ := hEmpty
    refine iff_of_false nofun fun hCount => hSome ?_
    rwa [filter_eq_self_iff_countP.mpr hCount] at hNone
  · rw [Option.some_inj, ← filter_eq_self_iff_countP]
    constructor
    · exact fun h => congrArg Handler.devices h
    · intro h
      rw [h]

theorem deleteDevice_eq_without_iff {deviceName : Text} (h : deleteDevice deviceName c = .ok c') :
    c' = (Request.deleteDevice deviceName).without toLowerCase c ↔
      (Request.deleteDevice deviceName).places toLowerCase c = 1 := by
  obtain ⟨-, i, x, hAt, ⟨y, hy, hName⟩, rfl⟩ := deleteDevice_eq_ok h
  obtain ⟨j, hFirst⟩ : ∃ j, x.devices.findIdx? (·.name = deviceName) = some j :=
    Option.isSome_iff_exists.mp <| List.findIdx?_isSome.trans <|
      List.any_eq_true.mpr ⟨y, hy, by simpa using hName⟩
  obtain ⟨hlt, hSame, -⟩ := List.findIdx?_eq_some_iff_getElem.mp hFirst
  have hErase : x.devices.eraseP (·.name = deviceName) = x.devices.eraseIdx j := by
    rw [List.eraseP_eq_eraseIdx, hFirst]
  have hOne := eraseIdx_eq_filter_iff (k := Device.name) (List.getElem?_eq_getElem hlt)
    (of_decide_eq_true hSame)
  have hPos : 0 < x.devices.countP (·.name = deviceName) :=
    List.countP_pos_iff.mpr ⟨y, hy, by simpa using hName⟩
  have hNe : x.devices ≠ [] := List.ne_nil_of_mem hy
  rw [Request.places, List.countP_flatMap, Function.comp_def, hErase]
  split
  · rename_i hEmpty
    have hLength : x.devices.length = 1 := by
      have hLength := congrArg List.length hEmpty
      rw [List.length_eraseIdx_of_lt hlt, List.length_nil] at hLength
      omega
    have hSole : x.devices.countP (·.name = deviceName) = 1 :=
      le_antisymm (hLength ▸ List.countP_le_length) hPos
    rw [← eraseIdx_eq_filterMap_iff_sum hAt without_eq_self_iff _ hSole]
    · constructor
      · exact fun h => congrArg ScstConfig.handlers h
      · intro h
        rw [h]
        rfl
    · rw [Handler.without, ← hOne.mpr hSole]
      exact if_pos ⟨hEmpty, hNe⟩
  · rename_i hLeft
    rw [← modify_eq_filterMap_iff_sum (f := fun y : Handler =>
      { y with devices := x.devices.eraseIdx j }) hAt without_eq_self_iff hPos]
    · constructor
      · exact fun h => congrArg ScstConfig.handlers h
      · intro h
        rw [ScstConfig.modifyHandler, h]
        rfl
    · rw [← hOne]
      unfold Handler.without
      dsimp only
      split
      · rename_i hNone
        refine iff_of_false (fun hSome => ?_) fun hEq => hLeft (hEq.trans hNone.1)
        cases hSome
      · rw [Option.some_inj]
        constructor
        · exact fun h => (congrArg Handler.devices h).symm
        · intro h
          rw [h]

def Request.isRemoval : Request → Bool
  | deleteTarget _ | deleteGroup _ _ _ | removeInitiator _ _ _ | removeLunFromGroup _ _ _
  | deleteDevice _ => true
  | _ => false

/-- A request removes everything that it names exactly if it names one thing. -/
theorem edit_eq_without_iff {r : Request} (hRemoval : r.isRemoval)
    (h : r.edit toLowerCase c = .ok c') :
    c' = r.without toLowerCase c ↔ r.places toLowerCase c = 1 := by
  cases r with
  | deleteTarget targetName => exact deleteTarget_eq_without_iff h
  | deleteGroup targetName groupName force => exact deleteGroup_eq_without_iff h
  | removeInitiator targetName groupName initiatorRaw => exact removeInitiator_eq_without_iff h
  | removeLunFromGroup targetName groupName lunId => exact removeLunFromGroup_eq_without_iff h
  | deleteDevice deviceName => exact deleteDevice_eq_without_iff h
  | _ => cases hRemoval

end EsosWebui.Scst

/-! Which removals leave a file that is read as the configuration without anything that was named,
and nothing else changed. -/
namespace EsosWebui.Scst

open Js

def ScstConfig.groups (c : ScstConfig) : List Group :=
  c.drivers.flatMap fun driver => driver.targets.flatMap (·.groups)

section

variable (toLowerCase : Text → Text)

/-- What is written is the configuration without what the request names, it is read again as it was
written, and without force no initiator and no LUN has gone with a group. -/
structure ExactRemoval (r : Request) (c c' : ScstConfig) : Prop where
  exact : c' = r.without toLowerCase c
  read : parseScstConf (serializeScstConfig c') = c'
  unforced : ∀ targetName groupName, r = .deleteGroup targetName groupName false →
    (c'.groups.flatMap (·.initiators)).Perm (c.groups.flatMap (·.initiators)) ∧
      (c'.groups.flatMap (·.luns)).Perm (c.groups.flatMap (·.luns))

/-- The request names one thing, what is left can be written and read again, and a group that goes
without force has nothing in it. -/
structure Request.Removable (r : Request) (c : ScstConfig) : Prop where
  sole : r.places toLowerCase c = 1
  rewritable : (r.without toLowerCase c).Rewritable
  empty : ∀ targetName groupName, r = .deleteGroup targetName groupName false →
    ∀ g ∈ c.groupsNamed targetName groupName, g.initiators = [] ∧ g.luns = []

end

variable {toLowerCase : Text → Text} {c c' : ScstConfig}

theorem ScstConfig.WellFormed.mapTargets (h : c.WellFormed) {targetName : Text}
    {f : Target → Target} (hf : ∀ driver x, x.WellFormed driver → (f x).WellFormed driver) :
    (c.mapTargets targetName f).WellFormed := by
  refine { h with drivers := List.forall_mem_map.mpr fun driver hDriver => ?_ }
  have hDriver := h.drivers driver hDriver
  refine { name := hDriver.name, targets := List.forall_mem_map.mpr fun target hTarget => ?_ }
  have hTarget := hDriver.targets target hTarget
  split
  · exact hf driver.name target hTarget
  · exact hTarget

theorem Target.WellFormed.mapGroups {driver groupName : Text} {x : Target} (h : x.WellFormed driver)
    {f : Group → Group} (hf : ∀ g, g.WellFormed → (f g).WellFormed) :
    (x.mapGroups groupName f).WellFormed driver := by
  refine { h with groups := List.forall_mem_map.mpr fun group hGroup => ?_ }
  split
  · exact hf group (h.groups group hGroup)
  · exact h.groups group hGroup

theorem ScstConfig.WellFormed.without (h : c.WellFormed) (r : Request) :
    (r.without toLowerCase c).WellFormed := by
  cases r with
  | deleteTarget targetName =>
    refine { h with drivers := List.forall_mem_map.mpr fun driver hDriver => ?_ }
    have hDriver := h.drivers driver hDriver
    exact { hDriver with
      targets := fun target hTarget => hDriver.targets target (List.mem_of_mem_filter hTarget) }
  | deleteGroup targetName groupName force =>
    exact h.mapTargets fun _ _ hTarget =>
      { hTarget with groups := fun g hg => hTarget.groups g (List.mem_of_mem_filter hg) }
  | removeInitiator targetName groupName initiatorRaw =>
    exact h.mapTargets fun _ _ hTarget => hTarget.mapGroups fun _ hGroup =>
      { hGroup with initiators := fun i hi => hGroup.initiators i (List.mem_of_mem_filter hi) }
  | removeLunFromGroup targetName groupName lunId =>
    exact h.mapTargets fun _ _ hTarget => hTarget.mapGroups fun _ hGroup =>
      { hGroup with luns := fun l hl => hGroup.luns l (List.mem_of_mem_filter hl) }
  | deleteDevice deviceName =>
    refine { h with handlers := fun x hx => ?_ }
    obtain ⟨y, hy, hWithout⟩ := List.mem_filterMap.mp hx
    unfold Handler.without at hWithout
    dsimp only at hWithout
    split at hWithout
    · cases hWithout
    · obtain rfl := Option.some.inj hWithout
      have hy := h.handlers y hy
      exact { hy with devices := fun d hd => hy.devices d (List.mem_of_mem_filter hd) }
  | _ => exact h

theorem flatMap_filter_eq {α β : Type} (p : α → Bool) (g : α → List β) (l : List α) :
    (l.filter p).flatMap g = l.flatMap fun x => if p x = true then g x else [] := by
  induction l with
  | nil => rfl
  | cons x l ih => cases hp : p x <;> simp [hp, ih]

theorem groups_perm (targetName groupName : Text) (force : Bool) :
    (((Request.deleteGroup targetName groupName force).without toLowerCase c).groups ++
      c.groupsNamed targetName groupName).Perm c.groups := by
  unfold ScstConfig.groupsNamed ScstConfig.targetsNamed ScstConfig.groups
  rw [List.flatMap_assoc]
  simp only [Request.without, ScstConfig.mapTargets, List.flatMap_map, flatMap_filter_eq]
  refine (List.flatMap_append_perm _ _ _).trans (List.Perm.flatMap_left _ fun driver _ => ?_)
  refine (List.flatMap_append_perm _ _ _).trans (List.Perm.flatMap_left _ fun target _ => ?_)
  by_cases hName : target.name = targetName
  · have hFilter := List.filter_append_perm (fun g : Group => decide (g.name ≠ groupName))
      target.groups
    simpa [hName] using hFilter
  · simp [hName]

/-- Nothing has gone exactly if the groups that went had nothing. -/
theorem flatMap_perm_iff {α β : Type} {g : α → List β} {l kept gone : List α}
    (h : (kept ++ gone).Perm l) : (kept.flatMap g).Perm (l.flatMap g) ↔ ∀ x ∈ gone, g x = [] := by
  have hAll := h.flatMap_right g
  rw [List.flatMap_append] at hAll
  rw [← List.flatMap_eq_nil_iff]
  constructor
  · intro hPerm
    have hLength := hAll.length_eq
    rw [List.length_append, hPerm.length_eq] at hLength
    exact List.length_eq_zero_iff.mp (by omega)
  · intro hNil
    rwa [hNil, List.append_nil] at hAll

/-- A removal from a configuration that was read is exact if and only if the request names one
thing, the rest can be written and read again, and a group that goes without force is empty. -/
theorem exactRemoval_iff {r : Request} (hRemoval : r.isRemoval = true) (t : Text)
    (h : r.edit toLowerCase (parseScstConfSafe t) = .ok c') :
    ExactRemoval toLowerCase r (parseScstConfSafe t) c' ↔
      r.Removable toLowerCase (parseScstConfSafe t) := by
  have hParsed : (parseScstConfSafe t).WellFormed := by
    rw [parseScstConfSafe_eq]
    exact parseScstConf_wellFormed t
  generalize parseScstConfSafe t = c at h hParsed ⊢
  have hExact := edit_eq_without_iff hRemoval h
  have hEmpty (targetName groupName : Text) :
      (∀ g ∈ c.groupsNamed targetName groupName, g.initiators = [] ∧ g.luns = []) ↔
        (((Request.deleteGroup targetName groupName false).without toLowerCase c).groups.flatMap
          (·.initiators)).Perm (c.groups.flatMap (·.initiators)) ∧
        (((Request.deleteGroup targetName groupName false).without toLowerCase c).groups.flatMap
          (·.luns)).Perm (c.groups.flatMap (·.luns)) := by
    rw [flatMap_perm_iff (groups_perm targetName groupName false),
      flatMap_perm_iff (groups_perm targetName groupName false), ← forall₂_and]
  constructor
  · rintro ⟨rfl, hRead, hUnforced⟩
    refine ⟨hExact.mp rfl, (parse_serialize_eq_iff.mp hRead).2, ?_⟩
    rintro targetName groupName rfl
    exact (hEmpty targetName groupName).mpr (hUnforced targetName groupName rfl)
  · rintro ⟨hSole, hRewritable, hNone⟩
    obtain rfl := hExact.mpr hSole
    refine ⟨rfl, parse_serialize_eq_iff.mpr ⟨hParsed.without r, hRewritable⟩, ?_⟩
    rintro targetName groupName rfl
    exact (hEmpty targetName groupName).mp (hNone targetName groupName rfl)

def twoSpellingsConf : Text :=
  ("TARGET_DRIVER iscsi \x7b\n\tTARGET iqn.t \x7b\n\t\tGROUP g \x7b\n\t\t\tINITIATOR iqn.Host\n" ++
    "\t\t\tINITIATOR iqn.host\n\t\t\x7d\n\t\x7d\n\x7d\n").toList

def removeHost : Request := .removeInitiator "iqn.t".toList "g".toList "IQN.HOST".toList

theorem exactRemoval_iff_twoSpellings :
    ∃ c', removeHost.edit (·.map Char.toLower) (parseScstConfSafe twoSpellingsConf) = .ok c' ∧
      (ExactRemoval (·.map Char.toLower) removeHost (parseScstConfSafe twoSpellingsConf) c' ↔
        removeHost.Removable (·.map Char.toLower) (parseScstConfSafe twoSpellingsConf)) := by
  exact exists_ok_of_isOk (by decide +kernel) fun c' hEdit =>
    exactRemoval_iff rfl twoSpellingsConf hEdit

/-- The second spelling is left in the group. -/
theorem twoSpellingsConf_keeps_initiator :
    ∃ c', removeHost.edit (·.map Char.toLower) (parseScstConfSafe twoSpellingsConf) = .ok c' ∧
      ¬ ExactRemoval (·.map Char.toLower) removeHost (parseScstConfSafe twoSpellingsConf) c' := by
  refine exists_ok_of_isOk (by decide +kernel) fun c' hEdit hExact => ?_
  have hSole := (edit_eq_without_iff rfl hEdit).mp hExact.exact
  exact absurd hSole (by decide +kernel)

end EsosWebui.Scst
