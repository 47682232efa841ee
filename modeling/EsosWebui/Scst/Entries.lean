import EsosWebui.Scst.Effects

/-! The entries of a configuration, each with what a request never changes of it, and what a
request does to them. -/
namespace EsosWebui.Scst

open Js

/-- A block or a line of the file, named by the blocks it stands in, with what the file says of it.
Whether a target is enabled is left out, since a request may change it. -/
inductive Entry where
  | handler (handler : Text)
  | device (handler : Text) (device : Device)
  | driver (driver : Text) (enabled : Bool)
  | target (driver target : Text) (hwTarget : Bool) (attrs : Record Text)
  | group (driver target group : Text)
  | initiator (driver target group initiator : Text)
  | groupLun (driver target group : Text) (id : Number) (device : Text) (readOnly : Bool)
  | targetLun (driver target : Text) (id : Number) (device : Text) (readOnly : Bool)
  | deviceGroup (group : AluaDeviceGroupConfig)
  deriving DecidableEq

def Entry.targetName : Entry → Option Text
  | target _ name _ _ | group _ name _ | initiator _ name _ _ | groupLun _ name _ _ _ _
  | targetLun _ name _ _ _ => some name
  | _ => none

def Entry.groupName : Entry → Option (Text × Text)
  | group _ targetName name | initiator _ targetName name _
  | groupLun _ targetName name _ _ _ => some (targetName, name)
  | _ => none

def Handler.entries (x : Handler) : List Entry := .handler x.name :: x.devices.map (.device x.name)

def Group.entries (driver target : Text) (x : Group) : List Entry :=
  .group driver target x.name ::
    (x.initiators.map (.initiator driver target x.name) ++
      x.luns.map fun l => .groupLun driver target x.name l.id l.device l.readOnly)

def Target.entries (driver : Text) (x : Target) : List Entry :=
  .target driver x.name x.hwTarget x.attrs ::
    (x.groups.flatMap (Group.entries driver x.name) ++
      x.luns.map fun l => .targetLun driver x.name l.id l.device l.readOnly)

def Driver.entries (x : Driver) : List Entry :=
  .driver x.name x.enabled :: x.targets.flatMap (Target.entries x.name)

def ScstConfig.entries (c : ScstConfig) : List Entry :=
  c.handlers.flatMap Handler.entries ++
    (c.drivers.flatMap Driver.entries ++ c.deviceGroups.map .deviceGroup)

def Entry.lines : Entry → List Text
  | handler name => [templateLine 0 [Keyword.handler, name, openBrace]]
  | device _ x => x.lines
  | driver name enabled =>
    templateLine 0 [Keyword.targetDriver, name, openBrace] ::
      if enabled then [] else [templateLine 1 [Keyword.enabled, ['0']]]
  | target _ name hwTarget attrs =>
    templateLine 1 [Keyword.target, name, openBrace] ::
      ((if hwTarget then [templateLine 2 [Keyword.hwTarget]] else []) ++ attrLines 2 attrs)
  | group _ _ name => [templateLine 2 [Keyword.group, name, openBrace]]
  | initiator _ _ _ name => [templateLine 3 [Keyword.initiator, name]]
  | groupLun _ _ _ id name readOnly =>
    Lun.lines 3 { id := id, device := name, readOnly := readOnly, attrs := .empty }
  | targetLun _ _ id name readOnly =>
    Lun.lines 2 { id := id, device := name, readOnly := readOnly, attrs := .empty }
  | deviceGroup x => x.lines

def ScstConfig.driverOf (c : ScstConfig) (targetName : Text) : Option Text :=
  (c.drivers.find? (·.targets.any (·.name = targetName))).map (·.name)

def ScstConfig.HoldsOnly (c : ScstConfig) (deviceName handlerName : Text) : Prop :=
  (∃ x ∈ c.handlers, x.name = handlerName ∧ ∃ y ∈ x.devices, y.name = deviceName) ∧
    ∀ x ∈ c.handlers, x.name = handlerName → ∀ y ∈ x.devices, y.name = deviceName

section

variable (toLowerCase : Text → Text)

/-- What a request is asked to remove: what it names, with all that stands in it, and with a
device the handler that holds no others. -/
def Request.Removes (c : ScstConfig) : Request → Entry → Prop
  | deleteTarget targetName, e => e.targetName = some targetName
  | deleteGroup targetName groupName _, e => e.groupName = some (targetName, groupName)
  | removeInitiator targetName groupName initiatorRaw, .initiator _ target group initiator =>
    target = targetName ∧ group = groupName ∧
      toLowerCase (trim initiator) = toLowerCase (trim initiatorRaw)
  | removeLunFromGroup targetName groupName lunId, .groupLun _ target group id _ _ =>
    target = targetName ∧ group = groupName ∧ id = lunId
  | deleteDevice deviceName, .device _ device => device.name = deviceName
  | deleteDevice deviceName, .handler handler => c.HoldsOnly deviceName handler
  | _, _ => False

def Request.added (c : ScstConfig) : Request → List Entry
  | createTarget driverName targetName =>
    (if c.drivers.any (·.name = driverName) then [] else [.driver driverName true]) ++
      [.target driverName targetName false .empty]
  | createGroup targetName groupName =>
    (c.driverOf targetName).toList.map fun driver => .group driver targetName (trim groupName)
  | addInitiator targetName groupName initiatorRaw options =>
    (c.driverOf targetName).toList.map fun driver =>
      .initiator driver targetName groupName
        (normalizedInitiator toLowerCase initiatorRaw options)
  | addLunToGroup targetName groupName lunId deviceName readOnly =>
    (c.driverOf targetName).toList.map fun driver =>
      .groupLun driver targetName groupName lunId (trim deviceName) readOnly
  | createDevice handlerName deviceName filename attrs =>
    [.handler handlerName, .device handlerName
      { name := deviceName, handler := handlerName, filename := trim filename, attrs := attrs }]
  | _ => []

end

section

variable {c : ScstConfig} {e : Entry} {added : Prop}

/-- What is true of the entries of the changed element is true of the entries of all. -/
theorem mem_flatMap_modify_iff {α β : Type} {l : List α} {i : Nat} {f : α → α} {g : α → List β}
    {a : α} {b : β} {added : Prop} (hAt : l[i]? = some a) (h : b ∈ g (f a) ↔ b ∈ g a ∨ added) :
    b ∈ (l.modify i f).flatMap g ↔ b ∈ l.flatMap g ∨ added := by
  rw [(flatMap_modify_perm hAt).mem_iff, (flatMap_perm hAt).mem_iff, List.mem_append,
    List.mem_append, h]
  exact or_right_comm

theorem mem_entries_modifyHandler {i : Nat} {f : Handler → Handler} {x : Handler}
    (hAt : c.handlers[i]? = some x) (h : e ∈ (f x).entries ↔ e ∈ x.entries ∨ added) :
    e ∈ (c.modifyHandler i f).entries ↔ e ∈ c.entries ∨ added := by
  simp only [ScstConfig.entries, ScstConfig.modifyHandler, List.mem_append,
    mem_flatMap_modify_iff hAt h]
  exact or_right_comm

theorem mem_entries_modifyDriver {i : Nat} {f : Driver → Driver} {x : Driver}
    (hAt : c.drivers[i]? = some x) (h : e ∈ (f x).entries ↔ e ∈ x.entries ∨ added) :
    e ∈ (c.modifyDriver i f).entries ↔ e ∈ c.entries ∨ added := by
  simp only [ScstConfig.entries, ScstConfig.modifyDriver, List.mem_append,
    mem_flatMap_modify_iff hAt h]
  tauto

theorem mem_entries_modifyTarget {d t : Nat} {f : Target → Target} {driver : Driver} {x : Target}
    (hDriver : c.drivers[d]? = some driver) (hAt : driver.targets[t]? = some x)
    (h : e ∈ (f x).entries driver.name ↔ e ∈ x.entries driver.name ∨ added) :
    e ∈ (c.modifyTarget d t f).entries ↔ e ∈ c.entries ∨ added := by
  apply mem_entries_modifyDriver hDriver
  simp only [Driver.entries, Driver.modifyTarget, List.mem_cons, mem_flatMap_modify_iff hAt h]
  exact or_assoc.symm

theorem mem_entries_modifyGroup {d t g : Nat} {f : Group → Group} {driver : Driver}
    {target : Target}
    {x : Group} (hDriver : c.drivers[d]? = some driver) (hTarget : driver.targets[t]? = some target)
    (hAt : target.groups[g]? = some x)
    (h : e ∈ (f x).entries driver.name target.name ↔
      e ∈ x.entries driver.name target.name ∨ added) :
    e ∈ (c.modifyGroup d t g f).entries ↔ e ∈ c.entries ∨ added := by
  apply mem_entries_modifyTarget hDriver hTarget
  simp only [Target.entries, Target.modifyGroup, List.mem_cons, List.mem_append,
    mem_flatMap_modify_iff hAt h]
  tauto

end

theorem targetName_of_mem {driver : Text} {x : Target} {e : Entry} (h : e ∈ x.entries driver) :
    e.targetName = some x.name := by
  simp only [Target.entries, Group.entries, List.mem_cons, List.mem_append, List.mem_flatMap,
    List.mem_map] at h
  rcases h with rfl | ⟨_, -, rfl | ⟨_, -, rfl⟩ | ⟨_, -, rfl⟩⟩ | ⟨_, -, rfl⟩ <;> rfl

theorem groupName_of_mem {driver target : Text} {x : Group} {e : Entry}
    (h : e ∈ x.entries driver target) : e.groupName = some (target, x.name) := by
  simp only [Group.entries, List.mem_cons, List.mem_append, List.mem_map] at h
  rcases h with rfl | ⟨_, -, rfl⟩ | ⟨_, -, rfl⟩ <;> rfl

/-- Leaving an element out keeps what none of its own entries is. -/
theorem mem_flatMap_eraseIdx_iff {α β : Type} {l : List α} {i : Nat} {g : α → List β} {a : α}
    {b : β} (hAt : l[i]? = some a) (h : b ∉ g a) :
    b ∈ (l.eraseIdx i).flatMap g ↔ b ∈ l.flatMap g := by
  rw [(flatMap_perm hAt).mem_iff, List.mem_append, or_iff_right h]

/-- Leaving elements out by a filter keeps what none of their entries is. -/
theorem mem_flatMap_filter_iff {α β : Type} {l : List α} {p : α → Bool} {g : α → List β} {b : β}
    (h : ∀ a ∈ l, p a = false → b ∉ g a) : b ∈ (l.filter p).flatMap g ↔ b ∈ l.flatMap g := by
  simp only [List.mem_flatMap, List.mem_filter]
  constructor
  · rintro ⟨a, ⟨ha, -⟩, hb⟩
    exact ⟨a, ha, hb⟩
  · rintro ⟨a, ha, hb⟩
    cases hp : p a with
    | false => exact absurd hb (h a ha hp)
    | true => exact ⟨a, ⟨ha, hp⟩, hb⟩

variable {targetName groupName : Text}

variable {toLowerCase : Text → Text} {c c' : ScstConfig} {e : Entry}

theorem exists_driver_of_findTargetInConfig {targetName : Text} {found : FoundTarget}
    (h : findTargetInConfig c targetName = some found) :
    ∃ driver, c.drivers[found.driver]? = some driver ∧ c.driverOf targetName = some driver.name ∧
      driver.targets[found.index]? = some found.target ∧ found.target.name = targetName := by
  simp only [findTargetInConfig, Option.bind_eq_bind, Option.bind_eq_some_iff, Option.pure_def,
    Option.some.injEq] at h
  obtain ⟨driver, hDriver, target, hTarget, rfl⟩ := h
  obtain ⟨hTargetAt, hName⟩ := findFirst_eq_some hTarget
  refine ⟨driver.value, (findFirst_eq_some hDriver).1, ?_, hTargetAt, by simpa using hName⟩
  rw [ScstConfig.driverOf, find?_of_findFirst hDriver, Option.map_some]

theorem mem_entries_createTarget {driverName targetName : Text}
    (h : createTarget driverName targetName c = .ok c') :
    e ∈ c'.entries ↔ e ∈ c.entries ∨
      e ∈ (Request.createTarget driverName targetName).added toLowerCase c := by
  obtain ⟨-, rfl⟩ := createTarget_eq_ok h
  unfold ScstConfig.addTarget
  cases hFirst : c.drivers.findIdx? (·.name = (newTarget driverName targetName).driver) with
  | some i =>
    obtain ⟨hlt, hName, -⟩ := List.findIdx?_eq_some_iff_getElem.mp hFirst
    have hName : c.drivers[i].name = driverName := of_decide_eq_true hName
    have hAny : c.drivers.any (·.name = driverName) = true :=
      List.any_eq_true.mpr ⟨_, List.getElem_mem hlt, by simpa using hName⟩
    apply mem_entries_modifyDriver (List.getElem?_eq_getElem hlt)
    simp [Driver.entries, Driver.addTarget, Request.added, hAny, Target.entries, newTarget,
      hName, or_assoc]
  | none =>
    have hNone : ∀ x ∈ c.drivers, x.name ≠ driverName := fun x hx =>
      of_decide_eq_false (List.findIdx?_eq_none_iff.mp hFirst x hx)
    have hAny : c.drivers.any (·.name = driverName) = false := by simpa using hNone
    have hDriver : e ∈ (Driver.mk driverName true [newTarget driverName targetName]).entries ↔
        e ∈ (Request.createTarget driverName targetName).added toLowerCase c := by
      simp [Request.added, hAny, Driver.entries, Target.entries, newTarget]
    simp only [ScstConfig.entries, List.flatMap_append, List.flatMap_singleton, List.mem_append,
      ← hDriver]
    tauto

theorem mem_entries_deleteTarget {targetName : Text} (h : deleteTarget targetName c = .ok c')
    (hKept : e.targetName ≠ some targetName) : e ∈ c'.entries ↔ e ∈ c.entries := by
  obtain ⟨found, hFound, rfl⟩ := deleteTarget_eq_ok h
  obtain ⟨driver, hDriver, -, hTarget, hName⟩ := exists_driver_of_findTargetInConfig hFound
  rw [← or_false (e ∈ c.entries)]
  apply mem_entries_modifyDriver hDriver
  have hNot : e ∉ found.target.entries driver.name := fun hMem =>
    hKept (hName ▸ targetName_of_mem hMem)
  simp only [Driver.entries, List.mem_cons, mem_flatMap_eraseIdx_iff hTarget hNot, or_false]

theorem mem_entries_setTargetEnabled {targetName : Text} {enabled : Bool}
    (h : setTargetEnabled targetName enabled c = .ok c') : e ∈ c'.entries ↔ e ∈ c.entries := by
  obtain ⟨found, hFound, rfl⟩ := setTargetEnabled_eq_ok h
  obtain ⟨driver, hDriver, -, hTarget, -⟩ := exists_driver_of_findTargetInConfig hFound
  rw [← or_false (e ∈ c.entries)]
  apply mem_entries_modifyTarget hDriver hTarget
  rw [or_false]
  rfl

theorem mem_entries_createGroup (h : createGroup targetName groupName c = .ok c') :
    e ∈ c'.entries ↔ e ∈ c.entries ∨
      e ∈ (Request.createGroup targetName groupName).added toLowerCase c := by
  obtain ⟨-, found, hFound, -, rfl⟩ := createGroup_eq_ok h
  obtain ⟨driver, hDriver, hOf, hTarget, hName⟩ := exists_driver_of_findTargetInConfig hFound
  apply mem_entries_modifyTarget hDriver hTarget
  have hAdded : e ∈ (Group.mk (trim groupName) [] []).entries driver.name found.target.name ↔
      e ∈ (Request.createGroup targetName groupName).added toLowerCase c := by
    simp [Group.entries, Request.added, hOf, hName]
  simp only [Target.entries, Target.addGroup, List.flatMap_append, List.flatMap_singleton,
    List.mem_cons, List.mem_append, ← hAdded]
  tauto

theorem mem_entries_deleteGroup {force : Bool}
    (h : deleteGroup targetName groupName force c = .ok c')
    (hKept : e.groupName ≠ some (targetName, groupName)) : e ∈ c'.entries ↔ e ∈ c.entries := by
  obtain ⟨found, hFound, rfl⟩ := deleteGroup_eq_ok h
  obtain ⟨driver, hDriver, -, hTarget, hName⟩ := exists_driver_of_findTargetInConfig hFound
  rw [← or_false (e ∈ c.entries)]
  apply mem_entries_modifyTarget hDriver hTarget
  have hNot : ∀ g ∈ found.target.groups, decide (g.name ≠ groupName) = false →
      e ∉ g.entries driver.name found.target.name := by
    intro g _ hSame hMem
    have hSame : g.name = groupName := by simpa using hSame
    exact hKept (by rw [groupName_of_mem hMem, hName, hSame])
  simp only [Target.entries, List.mem_cons, List.mem_append, mem_flatMap_filter_iff hNot, or_false]

theorem mem_entries_addInitiator {targetName groupName initiatorRaw initiator : Text}
    {options : ValidateInitiatorOptions}
    (h : addInitiator toLowerCase targetName groupName initiatorRaw options c =
      .ok (c', initiator)) :
    e ∈ c'.entries ↔ e ∈ c.entries ∨
      e ∈ (Request.addInitiator targetName groupName initiatorRaw options).added toLowerCase c := by
  obtain ⟨-, rfl, found, group, hFound, hGroup, -, -, rfl⟩ := addInitiator_eq_ok h
  obtain ⟨driver, hDriver, hOf, hTarget, hName⟩ := exists_driver_of_findTargetInConfig hFound
  obtain ⟨hGroupAt, hGroupName⟩ := findGroup_eq_some hGroup
  apply mem_entries_modifyGroup hDriver hTarget hGroupAt
  have hAdded : e ∈ (Request.addInitiator targetName groupName initiatorRaw options).added
      toLowerCase c ↔ e ∈ [Entry.initiator driver.name found.target.name group.value.name
        (normalizedInitiator toLowerCase initiatorRaw options)] := by
    simp [Request.added, hOf, hName, hGroupName]
  simp only [Group.entries, Group.addInitiator, List.map_append, List.map_cons, List.map_nil,
    List.mem_cons, List.mem_append, hAdded]
  tauto

theorem mem_entries_removeInitiator {targetName groupName initiatorRaw : Text}
    (h : removeInitiator toLowerCase targetName groupName initiatorRaw c = .ok c')
    (hKept : ¬ (Request.removeInitiator targetName groupName initiatorRaw).Removes toLowerCase
      c e) :
    e ∈ c'.entries ↔ e ∈ c.entries := by
  simp only [removeInitiator, bind_eq_ok, orThrow_eq_ok, pure_eq_ok] at h
  obtain ⟨found, hFound, group, hGroup, initiator, hInitiator, rfl⟩ := h
  obtain ⟨driver, hDriver, -, hTarget, hName⟩ := exists_driver_of_findTargetInConfig hFound
  obtain ⟨hGroupAt, hGroupName⟩ := findGroup_eq_some hGroup
  obtain ⟨hAt, hSame⟩ := findFirst_eq_some hInitiator
  rw [← or_false (e ∈ c.entries)]
  apply mem_entries_modifyGroup hDriver hTarget hGroupAt
  have hNot : e ∉ [Entry.initiator driver.name found.target.name group.value.name
      initiator.value] := by
    intro hMem
    obtain rfl := List.mem_singleton.mp hMem
    exact hKept ⟨hName, hGroupName, of_decide_eq_true hSame⟩
  have hErase := mem_flatMap_eraseIdx_iff
    (g := fun i => [Entry.initiator driver.name found.target.name group.value.name i]) hAt hNot
  simp only [Group.entries, List.mem_cons, List.mem_append, List.map_eq_flatMap, hErase, or_false]

theorem mem_entries_addLunToGroup {lunId : Number} {deviceName : Text} {readOnly : Bool}
    {result : Number × Text}
    (h : addLunToGroup targetName groupName lunId deviceName readOnly c = .ok (c', result)) :
    e ∈ c'.entries ↔ e ∈ c.entries ∨
      e ∈ (Request.addLunToGroup targetName groupName lunId deviceName readOnly).added
        toLowerCase c := by
  obtain ⟨-, -, found, group, hFound, hGroup, -, -, -, rfl⟩ := addLunToGroup_eq_ok h
  obtain ⟨driver, hDriver, hOf, hTarget, hName⟩ := exists_driver_of_findTargetInConfig hFound
  obtain ⟨hGroupAt, hGroupName⟩ := findGroup_eq_some hGroup
  apply mem_entries_modifyGroup hDriver hTarget hGroupAt
  have hAdded : e ∈ (Request.addLunToGroup targetName groupName lunId deviceName readOnly).added
      toLowerCase c ↔ e ∈ [Entry.groupLun driver.name found.target.name group.value.name lunId
        (trim deviceName) readOnly] := by
    simp [Request.added, hOf, hName, hGroupName]
  simp only [Group.entries, Group.addLun, List.map_append, List.map_cons, List.map_nil,
    List.mem_cons, List.mem_append, hAdded]
  tauto

theorem mem_entries_removeLunFromGroup {lunId : Number}
    (h : removeLunFromGroup targetName groupName lunId c = .ok c')
    (hKept : ¬ (Request.removeLunFromGroup targetName groupName lunId).Removes toLowerCase c e) :
    e ∈ c'.entries ↔ e ∈ c.entries := by
  obtain ⟨found, group, hFound, hGroup, rfl⟩ := removeLunFromGroup_eq_ok h
  obtain ⟨driver, hDriver, -, hTarget, hName⟩ := exists_driver_of_findTargetInConfig hFound
  obtain ⟨hGroupAt, hGroupName⟩ := findGroup_eq_some hGroup
  rw [← or_false (e ∈ c.entries)]
  apply mem_entries_modifyGroup hDriver hTarget hGroupAt
  have hNot : ∀ l ∈ group.value.luns, decide (l.id ≠ lunId) = false →
      e ∉ [Entry.groupLun driver.name found.target.name group.value.name l.id l.device
        l.readOnly] := by
    intro l _ hSame hMem
    obtain rfl := List.mem_singleton.mp hMem
    exact hKept ⟨hName, hGroupName, by simpa using hSame⟩
  simp only [Group.entries, List.mem_cons, List.mem_append, List.map_eq_flatMap,
    mem_flatMap_filter_iff hNot, or_false]

theorem mem_entries_createDevice {handlerName deviceName filename : Text} {attrs : Record Text}
    (h : createDevice handlerName deviceName filename attrs c = .ok c') :
    e ∈ c'.entries ↔ e ∈ c.entries ∨
      e ∈ (Request.createDevice handlerName deviceName filename attrs).added toLowerCase c := by
  obtain ⟨-, rfl⟩ := createDevice_eq_ok h
  unfold ScstConfig.addDevice
  cases hFirst : c.handlers.findIdx? (·.name = handlerName) with
  | some i =>
    obtain ⟨hlt, hName, -⟩ := List.findIdx?_eq_some_iff_getElem.mp hFirst
    have hName : c.handlers[i].name = handlerName := of_decide_eq_true hName
    apply mem_entries_modifyHandler (List.getElem?_eq_getElem hlt)
    simp only [Handler.entries, Handler.addDevice, List.map_append, List.map_cons, List.map_nil,
      Request.added, List.mem_cons, List.mem_append, List.not_mem_nil, or_false, hName]
    tauto
  | none =>
    simp only [ScstConfig.entries, Request.added, List.flatMap_append, List.flatMap_singleton,
      Handler.entries, List.map_cons, List.map_nil, List.mem_append, List.mem_cons,
      List.not_mem_nil, or_false]
    tauto

theorem mem_handler_entries {x : Handler} : e ∈ x.entries ↔
    e = .handler x.name ∨ ∃ y ∈ x.devices, e = .device x.name y := by
  simp [Handler.entries, eq_comm]

theorem mem_entries_deleteDevice {deviceName : Text} (h : deleteDevice deviceName c = .ok c')
    (hKept : ¬ (Request.deleteDevice deviceName).Removes toLowerCase c e) :
    e ∈ c'.entries ↔ e ∈ c.entries := by
  obtain ⟨-, i, x, hAt, ⟨y, hy, hName⟩, rfl⟩ := deleteDevice_eq_ok h
  have hOthers {z : Device} (hz : z.name ≠ deviceName) :
      z ∈ x.devices.eraseP (·.name = deviceName) ↔ z ∈ x.devices :=
    List.mem_eraseP_of_neg (by simpa using hz)
  split
  · rename_i hEmpty
    -- Another handler of the name is left if that name is kept.
    have hIff : e ∈ (c.handlers.eraseIdx i).flatMap Handler.entries ↔
        e ∈ c.handlers.flatMap Handler.entries := by
      by_cases hMem : e ∈ x.entries
      · refine iff_of_true ?_ (List.mem_flatMap.mpr ⟨x, List.mem_of_getElem? hAt, hMem⟩)
        have hOnly : ∀ z ∈ x.devices, z.name = deviceName := by
          intro z hz
          by_contra hNot
          rw [← hOthers hNot, hEmpty] at hz
          cases hz
        rcases mem_handler_entries.mp hMem with rfl | ⟨z, hz, rfl⟩
        · obtain ⟨other, hOther, hSame, z, hz, hNot⟩ : ∃ other ∈ c.handlers,
              other.name = x.name ∧ ∃ z ∈ other.devices, z.name ≠ deviceName := by
            by_contra hNone
            push Not at hNone
            exact hKept ⟨⟨x, List.mem_of_getElem? hAt, rfl, y, hy, hName⟩, hNone⟩
          obtain ⟨j, hj⟩ := List.mem_iff_getElem?.mp hOther
          have hNe : j ≠ i := by
            rintro rfl
            obtain rfl := Option.some.inj (hAt.symm.trans hj)
            exact hNot (hOnly z hz)
          exact List.mem_flatMap.mpr ⟨other, List.mem_eraseIdx_iff_getElem?.mpr ⟨j, hNe, hj⟩,
            mem_handler_entries.mpr (Or.inl (by rw [hSame]))⟩
        · exact absurd (hOnly z hz) hKept
      · exact mem_flatMap_eraseIdx_iff hAt hMem
    simp only [ScstConfig.entries, List.mem_append, hIff]
  · rw [← or_false (e ∈ c.entries)]
    apply mem_entries_modifyHandler hAt
    rw [or_false, mem_handler_entries, mem_handler_entries]
    constructor
    · rintro (rfl | ⟨z, hz, rfl⟩)
      · exact Or.inl rfl
      · exact Or.inr ⟨z, List.mem_of_mem_eraseP hz, rfl⟩
    · rintro (rfl | ⟨z, hz, rfl⟩)
      · exact Or.inl rfl
      · exact Or.inr ⟨z, (hOthers hKept).mpr hz, rfl⟩

/-- An accepted request adds what it is asked for, and keeps everything else. -/
theorem mem_entries_edit {r : Request} (h : r.edit toLowerCase c = .ok c')
    (hKept : ¬ r.Removes toLowerCase c e) :
    e ∈ c'.entries ↔ e ∈ c.entries ∨ e ∈ r.added toLowerCase c := by
  cases r with
  | createTarget driverName targetName => exact mem_entries_createTarget h
  | deleteTarget targetName =>
    rw [mem_entries_deleteTarget h hKept]
    exact (or_iff_left List.not_mem_nil).symm
  | setTargetEnabled targetName enabled =>
    rw [mem_entries_setTargetEnabled h]
    exact (or_iff_left List.not_mem_nil).symm
  | createGroup targetName groupName => exact mem_entries_createGroup h
  | deleteGroup targetName groupName force =>
    rw [mem_entries_deleteGroup h hKept]
    exact (or_iff_left List.not_mem_nil).symm
  | addInitiator targetName groupName initiatorRaw options =>
    obtain ⟨⟨_, _⟩, hAdd, rfl⟩ := map_eq_ok.mp h
    exact mem_entries_addInitiator hAdd
  | removeInitiator targetName groupName initiatorRaw =>
    rw [mem_entries_removeInitiator h hKept]
    exact (or_iff_left List.not_mem_nil).symm
  | addLunToGroup targetName groupName lunId deviceName readOnly =>
    obtain ⟨⟨_, _⟩, hAdd, rfl⟩ := map_eq_ok.mp h
    exact mem_entries_addLunToGroup hAdd
  | removeLunFromGroup targetName groupName lunId =>
    rw [mem_entries_removeLunFromGroup h hKept]
    exact (or_iff_left List.not_mem_nil).symm
  | createDevice handlerName deviceName filename attrs => exact mem_entries_createDevice h
  | deleteDevice deviceName =>
    rw [mem_entries_deleteDevice h hKept]
    exact (or_iff_left List.not_mem_nil).symm

end EsosWebui.Scst
