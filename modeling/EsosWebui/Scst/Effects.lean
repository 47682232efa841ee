import EsosWebui.Scst.Mutators
import EsosWebui.Scst.WellFormed

/-! What each accepted request has passed, and what it does to the configuration. -/
namespace EsosWebui.Scst

open Js

variable {c c' : ScstConfig}

def ScstConfig.addTarget (t : Target) (c : ScstConfig) : ScstConfig :=
  match c.drivers.findIdx? (·.name = t.driver) with
  | some d => c.modifyDriver d (Driver.addTarget t)
  | none =>
    { c with drivers := c.drivers ++ [{ name := t.driver, enabled := true, targets := [t] }] }

theorem modifyDriver_ensureDriver (t : Target) :
    (c.ensureDriver t.driver).1.modifyDriver (c.ensureDriver t.driver).2.index (Driver.addTarget t) =
      c.addTarget t := by
  unfold ScstConfig.ensureDriver ScstConfig.addTarget
  split
  · rename_i driver hFound
    rw [findIdx_of_findFirst hFound]
  · rename_i hNone
    rw [List.findIdx?_eq_none_iff.mpr (findFirst_eq_none hNone)]
    simp [ScstConfig.modifyDriver_append, Driver.addTarget]

theorem createTarget_eq_ok {driverName targetName : Text}
    (h : createTarget driverName targetName c = .ok c') :
    IsWord targetName ∧ c' = c.addTarget (newTarget driverName targetName) := by
  simp only [createTarget, bind_eq_ok, throwIf_eq_ok, pure_eq_ok, exists_const] at h
  obtain ⟨⟨⟩, hName, -, rfl⟩ := h
  exact ⟨isWord_of_validateTargetName hName,
    modifyDriver_ensureDriver (newTarget driverName targetName)⟩

theorem deleteTarget_eq_ok {targetName : Text} (h : deleteTarget targetName c = .ok c') :
    ∃ found, findTargetInConfig c targetName = some found ∧
      c' = c.modifyDriver found.driver fun driver =>
        { driver with targets := driver.targets.eraseIdx found.index } := by
  simp only [deleteTarget, bind_eq_ok, orThrow_eq_ok, pure_eq_ok] at h
  obtain ⟨found, hFound, rfl⟩ := h
  exact ⟨found, hFound, rfl⟩

theorem setTargetEnabled_eq_ok {targetName : Text} {enabled : Bool}
    (h : setTargetEnabled targetName enabled c = .ok c') :
    ∃ found, findTargetInConfig c targetName = some found ∧
      c' = c.modifyTarget found.driver found.index fun target =>
        { target with enabled := enabled } := by
  simp only [setTargetEnabled, bind_eq_ok, orThrow_eq_ok, pure_eq_ok] at h
  obtain ⟨found, hFound, rfl⟩ := h
  exact ⟨found, hFound, rfl⟩

theorem createGroup_eq_ok {targetName groupName : Text}
    (h : createGroup targetName groupName c = .ok c') :
    IsWord (trim groupName) ∧ ∃ found, findTargetInConfig c targetName = some found ∧
      (∀ g ∈ found.target.groups, g.name ≠ trim groupName) ∧
      c' = c.modifyTarget found.driver found.index
        (Target.addGroup { name := trim groupName, initiators := [], luns := [] }) := by
  simp only [createGroup, bind_eq_ok, mapError_eq_ok, orThrow_eq_ok, throwIf_eq_ok, pure_eq_ok,
    exists_const] at h
  obtain ⟨normalized, hName, found, hFound, hNew, rfl⟩ := h
  obtain ⟨rfl, hGroup⟩ := validateGroupName_eq_ok.mp hName
  exact ⟨isWord_of_isGroupName hGroup, found, hFound, by simpa using hNew, rfl⟩

theorem deleteGroup_eq_ok {targetName groupName : Text} {force : Bool}
    (h : deleteGroup targetName groupName force c = .ok c') :
    ∃ found, findTargetInConfig c targetName = some found ∧
      c' = c.modifyTarget found.driver found.index fun target =>
        { target with groups := target.groups.filter (·.name ≠ groupName) } := by
  simp only [deleteGroup, bind_eq_ok, orThrow_eq_ok, throwIf_eq_ok, pure_eq_ok, exists_const] at h
  obtain ⟨found, hFound, -, -, -, rfl⟩ := h
  exact ⟨found, hFound, rfl⟩

section

variable {toLowerCase : Text → Text}

def normalizedInitiator (toLowerCase : Text → Text) (raw : Text)
    (options : ValidateInitiatorOptions) : Text :=
  match validateInitiatorValue toLowerCase raw options with
  | .ok v => v.normalized
  | .error _ => []

theorem validateInitiatorValue_getD (raw : Text) (type : Option InitiatorType)
    (ibOneTargetPerPort : Option Bool) :
    validateInitiatorValue toLowerCase raw ⟨some (type.getD .auto), ibOneTargetPerPort⟩ =
      validateInitiatorValue toLowerCase raw ⟨type, ibOneTargetPerPort⟩ := by
  cases type <;> rfl

theorem addInitiator_eq_ok {targetName groupName initiatorRaw initiator : Text}
    {options : ValidateInitiatorOptions}
    (h : addInitiator toLowerCase targetName groupName initiatorRaw options c =
      .ok (c', initiator)) :
    IsWord initiator ∧ initiator = normalizedInitiator toLowerCase initiatorRaw options ∧
      ∃ found group, findTargetInConfig c targetName = some found ∧
        findGroup found.target groupName = some group ∧
        (∀ i ∈ group.value.initiators, toLowerCase (trim i) ≠ toLowerCase initiator) ∧
        initiatorAlreadyOnTarget toLowerCase found.target.groups initiator (some groupName) = false ∧
        c' = c.modifyGroup found.driver found.index group.index (Group.addInitiator initiator) := by
  simp only [addInitiator, bind_eq_ok, mapError_eq_ok, orThrow_eq_ok, throwIf_eq_ok, pure_eq_ok,
    exists_const, Prod.mk.injEq] at h
  obtain ⟨found, hFound, group, hGroup, validated, hValid, -, hInGroup, hOnTarget, rfl, rfl⟩ := h
  refine ⟨isWord_of_validateInitiatorValue hValid, ?_, found, group, hFound, hGroup,
    by simpa using hInGroup, by simpa using hOnTarget, rfl⟩
  rw [validateInitiatorValue_getD] at hValid
  rw [normalizedInitiator, hValid]

theorem removeInitiator_eq_ok {targetName groupName initiatorRaw : Text}
    (h : removeInitiator toLowerCase targetName groupName initiatorRaw c = .ok c') :
    ∃ found group i, findTargetInConfig c targetName = some found ∧
      findGroup found.target groupName = some group ∧
      c' = c.modifyGroup found.driver found.index group.index fun group =>
        { group with initiators := group.initiators.eraseIdx i } := by
  simp only [removeInitiator, bind_eq_ok, orThrow_eq_ok, pure_eq_ok] at h
  obtain ⟨found, hFound, group, hGroup, initiator, -, rfl⟩ := h
  exact ⟨found, group, initiator.index, hFound, hGroup, rfl⟩

end

theorem addLunToGroup_eq_ok {targetName groupName : Text} {lunId : Number} {deviceName : Text}
    {readOnly : Bool} {result : Number × Text}
    (h : addLunToGroup targetName groupName lunId deviceName readOnly c = .ok (c', result)) :
    isLunId lunId = true ∧ isDeviceName (trim deviceName) = true ∧
      ∃ found group, findTargetInConfig c targetName = some found ∧
        findGroup found.target groupName = some group ∧
        (findDeviceInConfig c (trim deviceName)).isSome = true ∧
        (∀ l ∈ group.value.luns, l.id ≠ lunId) ∧
        (∀ l ∈ allLunsOnTarget found.target, l.device ≠ trim deviceName) ∧
        c' = c.modifyGroup found.driver found.index group.index (Group.addLun
          { id := lunId, device := trim deviceName, readOnly := readOnly, attrs := .empty }) := by
  simp only [addLunToGroup, validateMapLun, bind_eq_ok, mapError_eq_ok, orThrow_eq_ok,
    throwIf_eq_ok, pure_eq_ok, exists_const, Prod.mk.injEq] at h
  obtain ⟨found, hFound, -, ⟨first, hFirst, hId, hDevice, device, hDeviceFound, -, hIds, -, hMapped, -⟩,
    group, hGroup, rfl, -⟩ := h
  rw [Bool.not_eq_false] at hId hDevice
  -- The check and the change look the group up in the same way.
  obtain rfl : first = group.value := by
    have hSame := find?_of_findFirst hGroup
    rw [hFirst] at hSame
    exact Option.some.inj hSame
  exact ⟨hId, hDevice, found, group, hFound, hGroup, by simp [hDeviceFound], by simpa using hIds,
    by simpa [deviceMappedOnTarget] using hMapped, rfl⟩

theorem removeLunFromGroup_eq_ok {targetName groupName : Text} {lunId : Number}
    (h : removeLunFromGroup targetName groupName lunId c = .ok c') :
    ∃ found group, findTargetInConfig c targetName = some found ∧
      findGroup found.target groupName = some group ∧
      c' = c.modifyGroup found.driver found.index group.index fun group =>
        { group with luns := group.luns.filter (·.id ≠ lunId) } := by
  simp only [removeLunFromGroup, bind_eq_ok, orThrow_eq_ok, pure_eq_ok] at h
  obtain ⟨found, hFound, -, -, group, hGroup, rfl⟩ := h
  exact ⟨found, group, hFound, hGroup, rfl⟩

def ScstConfig.addDevice (x : Device) (c : ScstConfig) : ScstConfig :=
  match c.handlers.findIdx? (·.name = x.handler) with
  | some h => c.modifyHandler h (Handler.addDevice x)
  | none => { c with handlers := c.handlers ++ [{ name := x.handler, devices := [x] }] }

theorem modifyHandler_ensureHandler (x : Device) :
    (c.ensureHandler x.handler).1.modifyHandler (c.ensureHandler x.handler).2.index
      (Handler.addDevice x) = c.addDevice x := by
  unfold ScstConfig.ensureHandler ScstConfig.addDevice
  split
  · rename_i handler hFound
    rw [findIdx_of_findFirst hFound]
  · rename_i hNone
    rw [List.findIdx?_eq_none_iff.mpr (findFirst_eq_none hNone)]
    simp [ScstConfig.modifyHandler_append, Handler.addDevice]

theorem createDevice_eq_ok {handlerName deviceName filename : Text} {attrs : Record Text}
    (h : createDevice handlerName deviceName filename attrs c = .ok c') :
    IsWord deviceName ∧ c' = c.addDevice
      { name := deviceName, handler := handlerName, filename := trim filename,
        attrs := attrs } := by
  simp only [createDevice, bind_eq_ok, throwIf_eq_ok, exists_const] at h
  obtain ⟨hName, -, -, h⟩ := h
  split at h
  · simp at h
  · rw [pure_eq_ok] at h
    rw [Bool.not_eq_false] at hName
    exact ⟨isWord_of_isDeviceName hName, h ▸ modifyHandler_ensureHandler
      { name := deviceName, handler := handlerName, filename := trim filename, attrs := attrs }⟩

theorem deleteDevice_eq_ok {deviceName : Text} (h : deleteDevice deviceName c = .ok c') :
    (∀ l ∈ c.allLuns, l.device ≠ deviceName) ∧
      ∃ i x, c.handlers[i]? = some x ∧ (∃ d ∈ x.devices, d.name = deviceName) ∧
        c' = if x.devices.eraseP (·.name = deviceName) = [] then
            { c with handlers := c.handlers.eraseIdx i }
          else c.modifyHandler i fun y =>
            { y with devices := x.devices.eraseP (·.name = deviceName) } := by
  simp only [deleteDevice, bind_eq_ok, throwIf_eq_ok, orThrow_eq_ok, exists_const] at h
  obtain ⟨hFree, handler, hHandler, h⟩ := h
  obtain ⟨hAt, hHas⟩ := findFirst_eq_some hHandler
  refine ⟨?_, handler.index, handler.value, hAt, by simpa using hHas, ?_⟩
  · simpa [List.length_pos_iff] using hFree
  · split at h <;> rw [pure_eq_ok] at h <;> simp_all

theorem forall_addTarget_iff {P : Text → Target → Prop} {Q : Text → Prop} {t : Target} :
    (∀ d ∈ (c.addTarget t).drivers, Q d.name ∧ ∀ x ∈ d.targets, P d.name x) ↔
      (∀ d ∈ c.drivers, Q d.name ∧ ∀ x ∈ d.targets, P d.name x) ∧ Q t.driver ∧ P t.driver t := by
  unfold ScstConfig.addTarget
  split
  · rename_i i hFound
    obtain ⟨hlt, hName, -⟩ := List.findIdx?_eq_some_iff_getElem.mp hFound
    have hName : c.drivers[i].name = t.driver := by simpa using hName
    have hAdd : (Q c.drivers[i].name ∧
        ∀ x ∈ (c.drivers[i].addTarget t).targets, P c.drivers[i].name x) ↔
        (Q c.drivers[i].name ∧ ∀ x ∈ c.drivers[i].targets, P c.drivers[i].name x) ∧
          Q t.driver ∧ P t.driver t := by
      rw [hName]
      simp only [Driver.addTarget, List.forall_mem_append, List.forall_mem_singleton]
      tauto
    exact forall_mem_modify_and_iff (P := fun d : Driver => Q d.name ∧ ∀ x ∈ d.targets, P d.name x)
      (List.getElem?_eq_getElem hlt) hAdd
  · simp only [List.forall_mem_append, List.forall_mem_singleton]

theorem forall_addDevice_iff {P : Text → Device → Prop} {Q : Text → Prop} {y : Device} :
    (∀ h ∈ (c.addDevice y).handlers, Q h.name ∧ ∀ x ∈ h.devices, P h.name x) ↔
      (∀ h ∈ c.handlers, Q h.name ∧ ∀ x ∈ h.devices, P h.name x) ∧ Q y.handler ∧ P y.handler y := by
  unfold ScstConfig.addDevice
  split
  · rename_i i hFound
    obtain ⟨hlt, hName, -⟩ := List.findIdx?_eq_some_iff_getElem.mp hFound
    have hName : c.handlers[i].name = y.handler := by simpa using hName
    have hAdd : (Q c.handlers[i].name ∧
        ∀ x ∈ (c.handlers[i].addDevice y).devices, P c.handlers[i].name x) ↔
        (Q c.handlers[i].name ∧ ∀ x ∈ c.handlers[i].devices, P c.handlers[i].name x) ∧
          Q y.handler ∧ P y.handler y := by
      rw [hName]
      simp only [Handler.addDevice, List.forall_mem_append, List.forall_mem_singleton]
      tauto
    exact forall_mem_modify_and_iff
      (P := fun h : Handler => Q h.name ∧ ∀ x ∈ h.devices, P h.name x)
      (List.getElem?_eq_getElem hlt) hAdd
  · simp only [List.forall_mem_append, List.forall_mem_singleton]

theorem addTarget_others (t : Target) :
    (c.addTarget t).handlers = c.handlers ∧ (c.addTarget t).deviceGroups = c.deviceGroups := by
  unfold ScstConfig.addTarget
  split <;> exact ⟨rfl, rfl⟩

theorem addDevice_others (x : Device) :
    (c.addDevice x).drivers = c.drivers ∧ (c.addDevice x).deviceGroups = c.deviceGroups := by
  unfold ScstConfig.addDevice
  split <;> exact ⟨rfl, rfl⟩

end EsosWebui.Scst
