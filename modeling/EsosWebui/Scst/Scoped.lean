import EsosWebui.Js.Run
import EsosWebui.Scst.Effects
import EsosWebui.Scst.File

/-! The names that other parts of a configuration refer to, and what each request
does to them. -/
namespace EsosWebui.Scst

open Js

def ScstConfig.deviceNames (c : ScstConfig) : List Text :=
  c.handlers.flatMap fun h => h.devices.map (·.name)

def ScstConfig.targetNames (c : ScstConfig) : List Text :=
  c.drivers.flatMap fun d => d.targets.map (·.name)

theorem Device.reread_name (handler : Text) (x : Device) : (x.reread handler).name = x.name := by
  have hFold (lines : List Text) (y : Device) :
      (lines.foldl (fun y line => y.readAttr (trim line)) y).name = y.name := by
    induction lines generalizing y with
    | nil => rfl
    | cons line lines ih =>
      rw [List.foldl_cons, ih]
      unfold Device.readAttr
      split
      · split <;> rfl
      · rfl
  exact hFold _ _

theorem Target.reread_name (driver : Text) (x : Target) : (x.reread driver).name = x.name := by
  have hFold (lines : List Text) (y : Target) :
      (lines.foldl (fun y line => y.readOwnLine (trim line)) y).name = y.name := by
    induction lines generalizing y with
    | nil => rfl
    | cons line lines ih =>
      rw [List.foldl_cons, ih]
      unfold Target.readOwnLine Target.readAttr
      split
      · rfl
      · split
        · rfl
        · split <;> rfl
  exact hFold _ _

theorem ScstConfig.deviceNames_reread (c : ScstConfig) : c.reread.deviceNames = c.deviceNames := by
  simp [deviceNames, reread, List.flatMap_map, Handler.reread, Device.reread_name,
    Function.comp_def]

theorem ScstConfig.targetNames_reread (c : ScstConfig) : c.reread.targetNames = c.targetNames := by
  simp [targetNames, reread, List.flatMap_map, Driver.reread, Target.reread_name,
    Function.comp_def]

variable {c c' : ScstConfig}

theorem deviceNames_addDevice (x : Device) :
    (c.addDevice x).deviceNames.Perm (x.name :: c.deviceNames) := by
  unfold ScstConfig.addDevice
  split
  · rename_i i hFound
    obtain ⟨hlt, -, -⟩ := List.findIdx?_eq_some_iff_getElem.mp hFound
    have hAt := List.getElem?_eq_getElem hlt
    have hNew := flatMap_modify_perm (f := Handler.addDevice x)
      (g := fun h : Handler => h.devices.map (·.name)) hAt
    have hOld := flatMap_perm (g := fun h : Handler => h.devices.map (·.name)) hAt
    refine hNew.trans ?_
    simp only [Handler.addDevice, List.map_append, List.map_cons, List.map_nil, List.append_assoc,
      List.singleton_append]
    exact List.perm_middle.trans (hOld.symm.cons x.name)
  · simp only [ScstConfig.deviceNames, List.flatMap_append, List.flatMap_singleton, List.map_cons,
      List.map_nil]
    exact List.perm_append_singleton _ _

theorem targetNames_addTarget (t : Target) :
    (c.addTarget t).targetNames.Perm (t.name :: c.targetNames) := by
  unfold ScstConfig.addTarget
  split
  · rename_i i hFound
    obtain ⟨hlt, -, -⟩ := List.findIdx?_eq_some_iff_getElem.mp hFound
    have hAt := List.getElem?_eq_getElem hlt
    have hNew := flatMap_modify_perm (f := Driver.addTarget t)
      (g := fun d : Driver => d.targets.map (·.name)) hAt
    have hOld := flatMap_perm (g := fun d : Driver => d.targets.map (·.name)) hAt
    refine hNew.trans ?_
    simp only [Driver.addTarget, List.map_append, List.map_cons, List.map_nil, List.append_assoc,
      List.singleton_append]
    exact List.perm_middle.trans (hOld.symm.cons t.name)
  · simp only [ScstConfig.targetNames, List.flatMap_append, List.flatMap_singleton, List.map_cons,
      List.map_nil]
    exact List.perm_append_singleton _ _

theorem map_eraseP_perm {devices : List Device} {name : Text} (h : ∃ d ∈ devices, d.name = name) :
    (devices.map (·.name)).Perm (name :: (devices.eraseP (·.name = name)).map (·.name)) := by
  obtain ⟨d, hd, hName⟩ := h
  obtain ⟨a, l₁, l₂, -, ha, rfl, hErase⟩ :=
    List.exists_of_eraseP (p := (·.name = name)) hd (by simpa using hName)
  rw [hErase]
  simp only [List.map_append, List.map_cons]
  rw [show a.name = name by simpa using ha]
  exact List.perm_middle

theorem deviceNames_deleteDevice {deviceName : Text} (h : deleteDevice deviceName c = .ok c') :
    c.deviceNames.Perm (deviceName :: c'.deviceNames) := by
  obtain ⟨-, i, x, hAt, hHas, rfl⟩ := deleteDevice_eq_ok h
  have hOld := flatMap_perm (g := fun h : Handler => h.devices.map (·.name)) hAt
  refine hOld.trans (((map_eraseP_perm hHas).append_right _).trans ?_)
  rw [List.cons_append]
  refine List.Perm.cons _ ?_
  split
  · rename_i hEmpty
    rw [hEmpty]
    exact List.Perm.refl _
  · exact (flatMap_modify_perm (f := fun y : Handler =>
        { y with devices := x.devices.eraseP (·.name = deviceName) })
      (g := fun h : Handler => h.devices.map (·.name)) hAt).symm

theorem targetNames_deleteTarget {targetName : Text} (h : deleteTarget targetName c = .ok c') :
    c.targetNames.Perm (targetName :: c'.targetNames) := by
  obtain ⟨found, hFound, rfl⟩ := deleteTarget_eq_ok h
  obtain ⟨hTarget, hName⟩ := findTargetInConfig_eq_some hFound
  obtain ⟨y, hy, hyx⟩ := Option.bind_eq_some_iff.mp hTarget
  obtain ⟨hlt, hAt⟩ := List.getElem?_eq_some_iff.mp hyx
  have hErase : (y.targets.map (·.name)).Perm
      (targetName :: (y.targets.eraseIdx found.index).map (·.name)) := by
    have hPerm := (List.getElem_cons_eraseIdx_perm hlt).symm.map (·.name)
    rwa [hAt, List.map_cons, hName] at hPerm
  have hOld := flatMap_perm (g := fun d : Driver => d.targets.map (·.name)) hy
  refine hOld.trans ((hErase.append_right _).trans ?_)
  rw [List.cons_append]
  exact List.Perm.cons _ (flatMap_modify_perm
    (f := fun d : Driver => { d with targets := d.targets.eraseIdx found.index })
    (g := fun d : Driver => d.targets.map (·.name)) hy).symm

end EsosWebui.Scst

/-! Configurations that are read where they are written after every request whose
unchecked fields are plain enough, so that a run of requests acts on configurations. -/
namespace EsosWebui.Scst

open Js

structure Lun.Scoped (x : Lun) : Prop extends x.Readable where
  closed : x.Closed

structure Group.Scoped (x : Group) : Prop where
  name : IsWord x.name
  initiators : ∀ i ∈ x.initiators, IsWord i
  luns : ∀ l ∈ x.luns, l.Scoped

structure Target.Scoped (x : Target) : Prop where
  name : IsWord x.name
  attrs : ∀ e ∈ x.attrs.entries, TargetAttrReadable e
  groups : ∀ g ∈ x.groups, g.Scoped
  luns : ∀ l ∈ x.luns, l.Scoped

structure Driver.Scoped (x : Driver) : Prop where
  name : IsWord x.name
  targets : ∀ t ∈ x.targets, t.Scoped

/-- Every line is read in the scope it is written for, wherever a LUN is written. -/
structure ScstConfig.Scoped (c : ScstConfig) : Prop where
  handlers : ∀ h ∈ c.handlers, h.Readable
  drivers : ∀ d ∈ c.drivers, d.Scoped
  deviceGroups : ∀ g ∈ c.deviceGroups, g.Readable

theorem Group.Scoped.readable {x : Group} (h : x.Scoped) : x.Readable :=
  ⟨h.name, h.initiators, fun l hl => (h.luns l hl).toReadable⟩

theorem Target.Scoped.readable {x : Target} (h : x.Scoped) : x.Readable :=
  ⟨h.name, h.attrs, fun g hg => (h.groups g hg).readable, fun l hl => (h.luns l hl).toReadable⟩

theorem Target.Scoped.closed {x : Target} (h : x.Scoped) : x.Closed :=
  ⟨fun g hg l hl => ((h.groups g hg).luns l hl).closed, fun l hl => (h.luns l hl).closed⟩

theorem ScstConfig.Scoped.scopeSafe {c : ScstConfig} (h : c.Scoped) : c.ScopeSafe where
  handlers := h.handlers
  drivers d hd := ⟨(h.drivers d hd).name, fun t ht => ((h.drivers d hd).targets t ht).readable⟩
  deviceGroups := h.deviceGroups
  closed := ScstConfig.closed_of_forall fun d hd t ht => ((h.drivers d hd).targets t ht).closed

/-- The fields that no check looks at are pasted into lines that are read where they stand. -/
def Request.Readable : Request → Prop
  | createTarget driverName _ => IsWord driverName
  | createDevice handlerName _ filename attrs =>
    IsWord handlerName ∧ '\n' ∉ trim filename ∧ ∀ e ∈ attrs.entries, AttrReadable e
  | _ => True

section

variable {c c' : ScstConfig}

theorem ScstConfig.Scoped.modifyDriver (h : c.Scoped) {i : Nat} {f : Driver → Driver}
    (hf : ∀ x : Driver, x.Scoped → (f x).Scoped) : (c.modifyDriver i f).Scoped :=
  { h with drivers := forall_mem_modify h.drivers hf }

theorem ScstConfig.Scoped.modifyTarget (h : c.Scoped) {d t : Nat} {f : Target → Target}
    (hf : ∀ x : Target, x.Scoped → (f x).Scoped) : (c.modifyTarget d t f).Scoped :=
  h.modifyDriver fun _ hx => ⟨hx.name, forall_mem_modify hx.targets hf⟩

theorem ScstConfig.Scoped.modifyGroup (h : c.Scoped) {d t g : Nat} {f : Group → Group}
    (hf : ∀ x : Group, x.Scoped → (f x).Scoped) : (c.modifyGroup d t g f).Scoped :=
  h.modifyTarget fun _ hx => { hx with groups := forall_mem_modify hx.groups hf }

theorem closed_of_isDeviceName {x : Lun} (h : isDeviceName x.device) : x.Closed := by
  rintro ⟨-, hBrace⟩
  obtain ⟨hne, hAll⟩ : x.device ≠ [] ∧ ∀ c ∈ x.device, _ = true := by
    simpa only [isDeviceName, consistsOf, Bool.and_eq_true, Bool.not_eq_true',
      List.isEmpty_eq_false_iff, List.all_eq_true] using h
  rw [endsWithBrace, beq_iff_eq] at hBrace
  exact absurd (hAll '{' (List.mem_of_getLast? hBrace)) (by decide)

theorem Request.edit_scoped {toLowerCase : Text → Text} {r : Request} (hc : c.Scoped)
    (hr : r.Readable) (h : r.edit toLowerCase c = .ok c') : c'.Scoped := by
  cases r with
  | createTarget driverName targetName =>
    obtain ⟨hName, rfl⟩ := createTarget_eq_ok h
    have hNew : (newTarget driverName targetName).Scoped :=
      ⟨hName, by simp [newTarget, Record.empty], by simp [newTarget], by simp [newTarget]⟩
    have hDrivers := forall_addTarget_iff (c := c) (P := fun _ t => t.Scoped) (Q := IsWord)
      (t := newTarget driverName targetName) |>.mpr
      ⟨fun d hd => ⟨(hc.drivers d hd).name, (hc.drivers d hd).targets⟩, hr, hNew⟩
    obtain ⟨hHandlers, hGroups⟩ := addTarget_others (c := c) (newTarget driverName targetName)
    exact ⟨hHandlers ▸ hc.handlers, fun d hd => ⟨(hDrivers d hd).1, (hDrivers d hd).2⟩,
      hGroups ▸ hc.deviceGroups⟩
  | deleteTarget targetName =>
    obtain ⟨found, -, rfl⟩ := deleteTarget_eq_ok h
    exact hc.modifyDriver fun x hx =>
      ⟨hx.name, fun t ht => hx.targets t (List.mem_of_mem_eraseIdx ht)⟩
  | setTargetEnabled targetName enabled =>
    obtain ⟨found, -, rfl⟩ := setTargetEnabled_eq_ok h
    exact hc.modifyTarget fun x hx => { hx with }
  | createGroup targetName groupName =>
    obtain ⟨hName, found, -, -, rfl⟩ := createGroup_eq_ok h
    exact hc.modifyTarget fun x hx =>
      { hx with groups := forall_mem_append_singleton hx.groups ⟨hName, by simp, by simp⟩ }
  | deleteGroup targetName groupName force =>
    obtain ⟨found, -, rfl⟩ := deleteGroup_eq_ok h
    exact hc.modifyTarget fun x hx =>
      { hx with groups := fun g hg => hx.groups g (List.mem_of_mem_filter hg) }
  | addInitiator targetName groupName initiatorRaw options =>
    obtain ⟨⟨c'', initiator⟩, hAdd, rfl⟩ := map_eq_ok.mp h
    obtain ⟨hWord, -, found, group, -, -, -, -, rfl⟩ := addInitiator_eq_ok hAdd
    exact hc.modifyGroup fun x hx =>
      { hx with initiators := forall_mem_append_singleton hx.initiators hWord }
  | removeInitiator targetName groupName initiatorRaw =>
    obtain ⟨found, group, i, -, -, rfl⟩ := removeInitiator_eq_ok h
    exact hc.modifyGroup fun x hx =>
      { hx with initiators := fun i hi => hx.initiators i (List.mem_of_mem_eraseIdx hi) }
  | addLunToGroup targetName groupName lunId deviceName readOnly =>
    obtain ⟨⟨c'', result⟩, hAdd, rfl⟩ := map_eq_ok.mp h
    obtain ⟨hId, hDevice, found, group, -, -, -, -, -, rfl⟩ := addLunToGroup_eq_ok hAdd
    exact hc.modifyGroup fun x hx =>
      { hx with
        luns := forall_mem_append_singleton hx.luns
          ⟨⟨printsAsDigits_of_isLunId hId, isWord_of_isDeviceName hDevice⟩,
            closed_of_isDeviceName hDevice⟩ }
  | removeLunFromGroup targetName groupName lunId =>
    obtain ⟨found, group, -, -, rfl⟩ := removeLunFromGroup_eq_ok h
    exact hc.modifyGroup fun x hx =>
      { hx with luns := fun l hl => hx.luns l (List.mem_of_mem_filter hl) }
  | createDevice handlerName deviceName filename attrs =>
    obtain ⟨hName, rfl⟩ := createDevice_eq_ok h
    obtain ⟨hHandler, hFilename, hAttrs⟩ := hr
    have hHandlers := forall_addDevice_iff (c := c) (P := fun _ d => d.Readable) (Q := IsWord)
      (y := { name := deviceName, handler := handlerName, filename := trim filename, attrs := attrs })
      |>.mpr ⟨fun x hx => ⟨(hc.handlers x hx).name, (hc.handlers x hx).devices⟩, hHandler,
        ⟨hName, hFilename, hAttrs⟩⟩
    obtain ⟨hDrivers, hGroups⟩ := addDevice_others (c := c)
      { name := deviceName, handler := handlerName, filename := trim filename, attrs := attrs }
    exact ⟨fun x hx => ⟨(hHandlers x hx).1, (hHandlers x hx).2⟩, hDrivers ▸ hc.drivers,
      hGroups ▸ hc.deviceGroups⟩
  | deleteDevice deviceName =>
    obtain ⟨-, i, x, hx, -, rfl⟩ := deleteDevice_eq_ok h
    have hx := hc.handlers x (List.mem_of_getElem? hx)
    split
    · exact { hc with handlers := fun y hy => hc.handlers y (List.mem_of_mem_eraseIdx hy) }
    · exact { hc with
        handlers := forall_mem_modify hc.handlers fun y hy =>
          ⟨hy.name, fun d hd => hx.devices d (List.mem_of_mem_eraseP hd)⟩ }

end

/-- A request is allowed on a file whose lines survive being written, in fields plain enough. -/
structure Request.Allowed (r : Request) (file : Text) : Prop where
  lines : (parseScstConf file).Scoped
  fields : r.Readable

theorem Request.run_eq_ok {toLowerCase : Text → Text} {r : Request} {file written : Text}
    (hr : r.Allowed file) (h : r.run toLowerCase file = .ok written) :
    ∃ c', r.edit toLowerCase (parseScstConf file) = .ok c' ∧ parseScstConf written = c'.reread := by
  simp only [Request.run, bind_eq_ok, pure_eq_ok, parseScstConfSafe_eq] at h
  obtain ⟨c', hEdit, rfl⟩ := h
  exact ⟨c', hEdit,
    parseScstConf_serializeScstConfig (Request.edit_scoped hr.lines hr.fields hEdit).scopeSafe⟩

theorem parseScstConf_nil : parseScstConf [] = .empty := by decide +kernel

theorem scoped_nil : (parseScstConf []).Scoped := by
  rw [parseScstConf_nil]
  exact ⟨by simp [ScstConfig.empty], by simp [ScstConfig.empty], by simp [ScstConfig.empty]⟩

end EsosWebui.Scst
