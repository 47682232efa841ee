import EsosWebui.Scst.Effects
import EsosWebui.Scst.RoundTrip

/-! Requests that add one entry: exactly when the file that is written is read as
the former configuration with that entry. -/
namespace EsosWebui.Scst

open Js

def ScstConfig.changeTarget (targetName : Text) (f : Target → Target) (c : ScstConfig) :
    ScstConfig :=
  match findTargetInConfig c targetName with
  | some found => c.modifyTarget found.driver found.index f
  | none => c

def Target.changeGroup (groupName : Text) (f : Group → Group) (x : Target) : Target :=
  x.modifyGroup (x.groups.findIdx (·.name = groupName)) f

/-- A request to add one entry. -/
inductive Addition where
  | target (driverName targetName : Text)
  | group (targetName groupName : Text)
  | initiator (targetName groupName initiatorRaw : Text) (options : ValidateInitiatorOptions)
  | lun (targetName groupName : Text) (lunId : Number) (deviceName : Text) (readOnly : Bool)
  | device (handlerName deviceName filename : Text) (attrs : Record Text)

namespace Addition

def request : Addition → Request
  | target driverName targetName => .createTarget driverName targetName
  | group targetName groupName => .createGroup targetName groupName
  | initiator targetName groupName initiatorRaw options =>
    .addInitiator targetName groupName initiatorRaw options
  | lun targetName groupName lunId deviceName readOnly =>
    .addLunToGroup targetName groupName lunId deviceName readOnly
  | device handlerName deviceName filename attrs =>
    .createDevice handlerName deviceName filename attrs

section

variable (toLowerCase : Text → Text)

def added (c : ScstConfig) : Addition → ScstConfig
  | target driverName targetName => c.addTarget (newTarget driverName targetName)
  | group targetName groupName =>
    c.changeTarget targetName
      (Target.addGroup { name := trim groupName, initiators := [], luns := [] })
  | initiator targetName groupName initiatorRaw options =>
    c.changeTarget targetName (Target.changeGroup groupName
      (Group.addInitiator (normalizedInitiator toLowerCase initiatorRaw options)))
  | lun targetName groupName lunId deviceName readOnly =>
    c.changeTarget targetName (Target.changeGroup groupName (Group.addLun
      { id := lunId, device := trim deviceName, readOnly := readOnly, attrs := .empty }))
  | device handlerName deviceName filename attrs =>
    c.addDevice
      { name := deviceName, handler := handlerName, filename := trim filename, attrs := attrs }

end

/-- The fields that no check looks at are read back as they are pasted. -/
def PlainFields : Addition → Prop
  | target driverName _ => IsWord driverName
  | device handlerName _ filename attrs =>
    IsWord handlerName ∧
      (trim filename = [] ∨ PlainValue (trim filename)) ∧
      (∀ c ∈ trim filename, isLineTerminator c = false) ∧
      ∀ e ∈ attrs.entries, ParsedAttr e ∧ e.1 ≠ Keyword.filename ∧ PlainValue e.2
  | _ => True

/-- The entries of the configuration survive being written, the fields of the new
one are plain, and no LUN is left open before the end of the file with that entry. -/
structure Safe (toLowerCase : Text → Text) (a : Addition) (c : ScstConfig) : Prop where
  entries : c.EntriesRewritable
  fields : a.PlainFields
  closed : (a.added toLowerCase c).Closed

end Addition

section

variable {c : ScstConfig}

theorem changeTarget_of_found {targetName : Text} {found : FoundTarget}
    (h : findTargetInConfig c targetName = some found) (f : Target → Target) :
    c.changeTarget targetName f = c.modifyTarget found.driver found.index f := by
  rw [ScstConfig.changeTarget, h]

theorem changeTarget_changeGroup {targetName groupName : Text} {found : FoundTarget}
    {group : Found Group} (h : findTargetInConfig c targetName = some found)
    (hGroup : findGroup found.target groupName = some group) (f : Group → Group) :
    c.changeTarget targetName (Target.changeGroup groupName f) =
      c.modifyGroup found.driver found.index group.index f := by
  rw [changeTarget_of_found h]
  refine ScstConfig.modifyTarget_congr fun x hx => ?_
  obtain rfl : found.target = x := by
    rw [(findTargetInConfig_eq_some h).1] at hx
    exact Option.some.inj hx
  have hIndex := findIdx_of_findFirst hGroup
  rw [List.findIdx?_eq_some_iff_findIdx_eq] at hIndex
  rw [Target.changeGroup, hIndex.2]

end

section

variable {c : ScstConfig}

theorem wellFormed_addTarget_iff {t : Target} :
    (c.addTarget t).WellFormed ↔ c.WellFormed ∧ IsWord t.driver ∧ t.WellFormed t.driver := by
  have hDrivers := forall_addTarget_iff (c := c) (P := Target.WellFormed) (Q := IsWord) (t := t)
  obtain ⟨hHandlers, hGroups⟩ := addTarget_others (c := c) t
  constructor
  · intro h
    obtain ⟨hOld, hNew⟩ := hDrivers.mp fun d hd => ⟨(h.drivers d hd).name, (h.drivers d hd).targets⟩
    exact ⟨⟨hHandlers ▸ h.handlers, fun d hd => ⟨(hOld d hd).1, (hOld d hd).2⟩,
      hGroups ▸ h.deviceGroups⟩, hNew⟩
  · rintro ⟨h, hNew⟩
    have hAll := hDrivers.mpr ⟨fun d hd => ⟨(h.drivers d hd).name, (h.drivers d hd).targets⟩, hNew⟩
    exact ⟨hHandlers ▸ h.handlers, fun d hd => ⟨(hAll d hd).1, (hAll d hd).2⟩,
      hGroups ▸ h.deviceGroups⟩

theorem wellFormed_addDevice_iff {x : Device} :
    (c.addDevice x).WellFormed ↔ c.WellFormed ∧ IsWord x.handler ∧ x.WellFormed x.handler := by
  have hHandlers := forall_addDevice_iff (c := c) (P := Device.WellFormed) (Q := IsWord) (y := x)
  obtain ⟨hDrivers, hGroups⟩ := addDevice_others (c := c) x
  constructor
  · intro h
    obtain ⟨hOld, hNew⟩ :=
      hHandlers.mp fun y hy => ⟨(h.handlers y hy).name, (h.handlers y hy).devices⟩
    exact ⟨⟨fun y hy => ⟨(hOld y hy).1, (hOld y hy).2⟩, hDrivers ▸ h.drivers,
      hGroups ▸ h.deviceGroups⟩, hNew⟩
  · rintro ⟨h, hNew⟩
    have hAll :=
      hHandlers.mpr ⟨fun y hy => ⟨(h.handlers y hy).name, (h.handlers y hy).devices⟩, hNew⟩
    exact ⟨fun y hy => ⟨(hAll y hy).1, (hAll y hy).2⟩, hDrivers ▸ h.drivers,
      hGroups ▸ h.deviceGroups⟩

theorem entriesRewritable_addTarget_iff {t : Target} :
    (c.addTarget t).EntriesRewritable ↔ c.EntriesRewritable ∧ t.Rewritable := by
  have hDrivers := forall_addTarget_iff (c := c) (P := fun _ x => x.Rewritable) (Q := fun _ => True)
    (t := t)
  obtain ⟨hHandlers, hGroups⟩ := addTarget_others (c := c) t
  simp only [true_and] at hDrivers
  constructor
  · rintro ⟨hDevices, hTargets, hTargetGroups⟩
    obtain ⟨hOld, hNew⟩ := hDrivers.mp hTargets
    exact ⟨⟨hHandlers ▸ hDevices, hOld, hGroups ▸ hTargetGroups⟩, hNew⟩
  · rintro ⟨h, hNew⟩
    exact ⟨hHandlers ▸ h.devices, hDrivers.mpr ⟨h.targets, hNew⟩, hGroups ▸ h.targetGroups⟩

theorem entriesRewritable_addDevice_iff {x : Device} :
    (c.addDevice x).EntriesRewritable ↔ c.EntriesRewritable ∧ x.Rewritable := by
  have hHandlers := forall_addDevice_iff (c := c) (P := fun _ y => y.Rewritable) (Q := fun _ => True)
    (y := x)
  obtain ⟨hDrivers, hGroups⟩ := addDevice_others (c := c) x
  simp only [true_and] at hHandlers
  constructor
  · rintro ⟨hDevices, hTargets, hTargetGroups⟩
    obtain ⟨hOld, hNew⟩ := hHandlers.mp hDevices
    exact ⟨⟨hOld, hDrivers ▸ hTargets, hGroups ▸ hTargetGroups⟩, hNew⟩
  · rintro ⟨h, hNew⟩
    exact ⟨hHandlers.mpr ⟨h.devices, hNew⟩, hDrivers ▸ h.targets, hGroups ▸ h.targetGroups⟩

theorem entriesRewritable_changeTarget_iff {targetName : Text} {f : Target → Target}
    (hf : ∀ x : Target, (f x).Rewritable ↔ x.Rewritable) :
    (c.changeTarget targetName f).EntriesRewritable ↔ c.EntriesRewritable := by
  unfold ScstConfig.changeTarget
  split
  · rename_i found hFound
    have hTargets : (∀ d ∈ (c.modifyTarget found.driver found.index f).drivers,
        ∀ x ∈ d.targets, x.Rewritable) ↔ ∀ d ∈ c.drivers, ∀ x ∈ d.targets, x.Rewritable :=
      forall_mem_modify_iff fun d => forall_mem_modify_iff hf
    exact ⟨fun h => ⟨h.devices, hTargets.mp h.targets, h.targetGroups⟩,
      fun h => ⟨h.devices, hTargets.mpr h.targets, h.targetGroups⟩⟩
  · exact Iff.rfl

theorem ScstConfig.WellFormed.changeTarget (h : c.WellFormed) {targetName : Text}
    {f : Target → Target} (hf : ∀ driver x, x.WellFormed driver → (f x).WellFormed driver) :
    (c.changeTarget targetName f).WellFormed := by
  unfold ScstConfig.changeTarget
  split
  · exact h.modifyTarget hf
  · exact h

end

theorem rewritable_changeGroup_iff {groupName : Text} {f : Group → Group}
    (hf : ∀ g : Group, (∀ l ∈ (f g).luns, l.Rewritable) ↔ ∀ l ∈ g.luns, l.Rewritable)
    (x : Target) : (x.changeGroup groupName f).Rewritable ↔ x.Rewritable := by
  have hGroups : (∀ g ∈ (x.changeGroup groupName f).groups, ∀ l ∈ g.luns, l.Rewritable) ↔
      ∀ g ∈ x.groups, ∀ l ∈ g.luns, l.Rewritable := forall_mem_modify_iff hf
  exact ⟨fun h => ⟨h.attrs, hGroups.mp h.groups, h.luns⟩,
    fun h => ⟨h.attrs, hGroups.mpr h.groups, h.luns⟩⟩

theorem Target.WellFormed.changeGroup {driver groupName : Text} {x : Target}
    (h : x.WellFormed driver) {f : Group → Group} (hf : ∀ g, g.WellFormed → (f g).WellFormed) :
    (x.changeGroup groupName f).WellFormed driver :=
  { h with groups := forall_mem_modify h.groups hf }

/-- An accepted request leads to the configuration with the requested entry, whose lines
survive exactly when those of the former one do and the unchecked fields are plain. -/
theorem Addition.edit_eq_ok {toLowerCase : Text → Text} {a : Addition} {c c' : ScstConfig}
    (hc : c.WellFormed) (h : a.request.edit toLowerCase c = .ok c') :
    c' = a.added toLowerCase c ∧
      (c'.WellFormed ∧ c'.EntriesRewritable ↔ c.EntriesRewritable ∧ a.PlainFields) := by
  cases a with
  | target driverName targetName =>
    obtain ⟨hName, hEq⟩ := createTarget_eq_ok h
    refine ⟨hEq, ?_⟩
    rw [hEq, wellFormed_addTarget_iff, entriesRewritable_addTarget_iff]
    constructor
    · rintro ⟨⟨-, hDriver, -⟩, hEntries, -⟩
      exact ⟨hEntries, hDriver⟩
    · rintro ⟨hEntries, hDriver⟩
      exact ⟨⟨hc, hDriver, ⟨hName, rfl, by simp [newTarget, Record.empty], by simp [newTarget],
        by simp [newTarget]⟩⟩, hEntries,
        ⟨by simp [newTarget, Record.empty], by simp [newTarget], by simp [newTarget]⟩⟩
  | group targetName groupName =>
    obtain ⟨hName, found, hFound, -, hFoundEq⟩ := createGroup_eq_ok h
    have hEq := hFoundEq.trans (changeTarget_of_found hFound _).symm
    refine ⟨hEq, ?_⟩
    have hEntries (x : Target) :
        (x.addGroup { name := trim groupName, initiators := [], luns := [] }).Rewritable ↔
          x.Rewritable :=
      ⟨fun hx => ⟨hx.attrs, fun g hg => hx.groups g (List.mem_append_left _ hg), hx.luns⟩,
        fun hx => ⟨hx.attrs, forall_mem_append_singleton hx.groups (by simp), hx.luns⟩⟩
    have hWellFormed : c'.WellFormed := hEq ▸ hc.changeTarget fun driver x hx =>
      { hx with groups := forall_mem_append_singleton hx.groups ⟨hName, by simp, by simp⟩ }
    rw [and_iff_right hWellFormed, hEq, entriesRewritable_changeTarget_iff hEntries]
    exact (and_iff_left trivial).symm
  | initiator targetName groupName initiatorRaw options =>
    obtain ⟨⟨c'', initiator⟩, hAdd, rfl⟩ := map_eq_ok.mp h
    obtain ⟨hWord, rfl, found, group, hFound, hGroup, -, -, hFoundEq⟩ := addInitiator_eq_ok hAdd
    have hEq := hFoundEq.trans (changeTarget_changeGroup hFound hGroup _).symm
    refine ⟨hEq, ?_⟩
    have hWellFormed : c''.WellFormed := hEq ▸ hc.changeTarget fun driver x hx =>
      hx.changeGroup fun g hg =>
        { hg with initiators := forall_mem_append_singleton hg.initiators hWord }
    have hLuns (g : Group) : (∀ l ∈ (g.addInitiator
        (normalizedInitiator toLowerCase initiatorRaw options)).luns, l.Rewritable) ↔
          ∀ l ∈ g.luns, l.Rewritable := Iff.rfl
    simp only
    rw [and_iff_right hWellFormed, hEq, entriesRewritable_changeTarget_iff
      (rewritable_changeGroup_iff hLuns)]
    exact (and_iff_left trivial).symm
  | lun targetName groupName lunId deviceName readOnly =>
    obtain ⟨⟨c'', result⟩, hAdd, rfl⟩ := map_eq_ok.mp h
    obtain ⟨hId, hDevice, found, group, hFound, hGroup, -, -, -, hFoundEq⟩ :=
      addLunToGroup_eq_ok hAdd
    have hEq := hFoundEq.trans (changeTarget_changeGroup hFound hGroup _).symm
    have hDevice := isWord_of_isDeviceName hDevice
    refine ⟨hEq, ?_⟩
    have hDigits := printsAsDigits_of_isLunId hId
    have hParsed : ParsedNumber lunId := ⟨lunId.toText, hDigits.1, hDigits.2.symm⟩
    have hWellFormed : c''.WellFormed := hEq ▸ hc.changeTarget fun driver x hx =>
      hx.changeGroup fun g hg =>
        { hg with luns := forall_mem_append_singleton hg.luns ⟨hParsed, hDevice⟩ }
    have hLuns (g : Group) : (∀ l ∈ (g.addLun
        { id := lunId, device := trim deviceName, readOnly := readOnly, attrs := .empty }).luns,
          l.Rewritable) ↔ ∀ l ∈ g.luns, l.Rewritable := by
      rw [Group.addLun, List.forall_mem_append, List.forall_mem_singleton]
      exact and_iff_left ⟨hDigits, rfl⟩
    simp only
    rw [and_iff_right hWellFormed, hEq, entriesRewritable_changeTarget_iff
      (rewritable_changeGroup_iff hLuns)]
    exact (and_iff_left trivial).symm
  | device handlerName deviceName filename attrs =>
    obtain ⟨hName, hEq⟩ := createDevice_eq_ok h
    refine ⟨hEq, ?_⟩
    rw [hEq, wellFormed_addDevice_iff, entriesRewritable_addDevice_iff]
    constructor
    · rintro ⟨⟨-, hHandler, hDevice⟩, hEntries, hPlain⟩
      exact ⟨hEntries, hHandler, hPlain.filename, hDevice.filename,
        fun e he => ⟨(hDevice.attrs e he).1, (hDevice.attrs e he).2, hPlain.attrs e he⟩⟩
    · rintro ⟨hEntries, hHandler, hPlain, hLine, hAttrs⟩
      exact ⟨⟨hc, hHandler, ⟨hName, rfl, hLine, fun e he => ⟨(hAttrs e he).1, (hAttrs e he).2.1⟩⟩⟩,
        hEntries, ⟨hPlain, fun e he => (hAttrs e he).2.2⟩⟩

/-- The file that an accepted request writes is read as the former configuration with
exactly the requested entry added if and only if the request is safe. -/
theorem parse_run_eq_added_iff (toLowerCase : Text → Text) (a : Addition) (file written : Text)
    (h : a.request.run toLowerCase file = .ok written) :
    parseScstConf written = a.added toLowerCase (parseScstConf file) ↔
      a.Safe toLowerCase (parseScstConf file) := by
  simp only [Request.run, bind_eq_ok, pure_eq_ok, parseScstConfSafe_eq] at h
  obtain ⟨c', hEdit, rfl⟩ := h
  obtain ⟨rfl, hNeeds⟩ := Addition.edit_eq_ok (parseScstConf_wellFormed file) hEdit
  rw [parse_serialize_eq_iff]
  constructor
  · rintro ⟨hWellFormed, hRewritable⟩
    obtain ⟨hEntries, hFields⟩ := hNeeds.mp ⟨hWellFormed, hRewritable.toEntriesRewritable⟩
    exact ⟨hEntries, hFields, hRewritable.closed⟩
  · rintro ⟨hEntries, hFields, hClosed⟩
    obtain ⟨hWellFormed, hRewritable⟩ := hNeeds.mpr ⟨hEntries, hFields⟩
    exact ⟨hWellFormed, { hRewritable with closed := hClosed }⟩

/-- A group for the only target of a file. -/
theorem parse_run_eq_added_iff_group :
    parseScstConf "TARGET_DRIVER d \x7b\n\tTARGET t \x7b\n\t\tGROUP g \x7b\n\t\t\x7d\n\t\x7d\n\x7d\n".toList =
        (Addition.group "t".toList "g".toList).added (List.map Char.toLower)
          (parseScstConf "TARGET_DRIVER d \x7b\nTARGET t \x7b\n\x7d\n\x7d".toList) ↔
      (Addition.group "t".toList "g".toList).Safe (List.map Char.toLower)
        (parseScstConf "TARGET_DRIVER d \x7b\nTARGET t \x7b\n\x7d\n\x7d".toList) :=
  parse_run_eq_added_iff _ _ _ _ (by decide +kernel)

/-- A driver name that closes its own block and opens others. -/
def injectedDriver : Addition :=
  .target "d \x7b\n\x7d\nHANDLER h \x7b\n\x7d\nTARGET_DRIVER e".toList "t".toList

/-- The request is accepted, and the file it writes has a handler nobody asked for. -/
theorem injectedDriver_adds_handler :
    ∃ written, injectedDriver.request.run (List.map Char.toLower) [] = .ok written ∧
      parseScstConf written ≠ injectedDriver.added (List.map Char.toLower) (parseScstConf []) :=
  ⟨"TARGET_DRIVER d \x7b\n\x7d\nHANDLER h \x7b\n\x7d\nTARGET_DRIVER e \x7b\n\tTARGET t \x7b\n\t\x7d\n\x7d\n".toList,
    by decide +kernel, by decide +kernel⟩

end EsosWebui.Scst
