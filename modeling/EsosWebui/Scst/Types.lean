import EsosWebui.Js.Arrays
import EsosWebui.Js.Number
import EsosWebui.Js.Record

/-! The configuration of a SAN: `ScstConfig` and what it is made of. The live
sessions of a target are never read from the file and are left out. -/
namespace EsosWebui.Scst

open Js

structure Device where
  name : Text
  handler : Text
  filename : Text
  attrs : Record Text
  deriving DecidableEq

structure Handler where
  name : Text
  devices : List Device
  deriving DecidableEq

structure Lun where
  id : Number
  device : Text
  readOnly : Bool
  attrs : Record Text
  deriving DecidableEq

structure Group where
  name : Text
  initiators : List Text
  luns : List Lun
  deriving DecidableEq

structure Target where
  name : Text
  driver : Text
  enabled : Bool
  hwTarget : Bool
  attrs : Record Text
  groups : List Group
  luns : List Lun
  deriving DecidableEq

structure Driver where
  name : Text
  enabled : Bool
  targets : List Target
  deriving DecidableEq

structure AluaTargetGroupConfig where
  name : Text
  groupId : Number
  targets : List Text
  deriving DecidableEq

structure AluaDeviceGroupConfig where
  name : Text
  devices : List Text
  targetGroups : List AluaTargetGroupConfig
  deriving DecidableEq

structure ScstConfig where
  handlers : List Handler
  drivers : List Driver
  deviceGroups : List AluaDeviceGroupConfig
  deriving DecidableEq

/-- `{ handlers: [], drivers: [], deviceGroups: [] }` -/
def ScstConfig.empty : ScstConfig := ⟨[], [], []⟩

/-! ### Changing the object at a position

An object that the source holds by reference is named by its position in the
arrays of the configuration; a position outside them changes nothing. -/

def Handler.addDevice (d : Device) (x : Handler) : Handler := { x with devices := x.devices ++ [d] }

def Driver.addTarget (t : Target) (x : Driver) : Driver := { x with targets := x.targets ++ [t] }

def Target.addGroup (g : Group) (x : Target) : Target := { x with groups := x.groups ++ [g] }

def Target.addLun (l : Lun) (x : Target) : Target := { x with luns := x.luns ++ [l] }

def Group.addLun (l : Lun) (x : Group) : Group := { x with luns := x.luns ++ [l] }

def Group.addInitiator (i : Text) (x : Group) : Group := { x with initiators := x.initiators ++ [i] }

def AluaDeviceGroupConfig.addTargetGroup (t : AluaTargetGroupConfig)
    (x : AluaDeviceGroupConfig) : AluaDeviceGroupConfig :=
  { x with targetGroups := x.targetGroups ++ [t] }

def Handler.modifyDevice (d : Nat) (f : Device → Device) (x : Handler) : Handler :=
  { x with devices := x.devices.modify d f }

def Driver.modifyTarget (t : Nat) (f : Target → Target) (x : Driver) : Driver :=
  { x with targets := x.targets.modify t f }

def Target.modifyGroup (g : Nat) (f : Group → Group) (x : Target) : Target :=
  { x with groups := x.groups.modify g f }

def Target.modifyLun (l : Nat) (f : Lun → Lun) (x : Target) : Target :=
  { x with luns := x.luns.modify l f }

def Group.modifyLun (l : Nat) (f : Lun → Lun) (x : Group) : Group :=
  { x with luns := x.luns.modify l f }

def AluaDeviceGroupConfig.modifyTargetGroup (t : Nat)
    (f : AluaTargetGroupConfig → AluaTargetGroupConfig) (x : AluaDeviceGroupConfig) :
    AluaDeviceGroupConfig :=
  { x with targetGroups := x.targetGroups.modify t f }

namespace ScstConfig

def modifyHandler (h : Nat) (f : Handler → Handler) (c : ScstConfig) : ScstConfig :=
  { c with handlers := c.handlers.modify h f }

def modifyDriver (d : Nat) (f : Driver → Driver) (c : ScstConfig) : ScstConfig :=
  { c with drivers := c.drivers.modify d f }

def modifyDeviceGroup (g : Nat) (f : AluaDeviceGroupConfig → AluaDeviceGroupConfig)
    (c : ScstConfig) : ScstConfig :=
  { c with deviceGroups := c.deviceGroups.modify g f }

def modifyTarget (d t : Nat) (f : Target → Target) (c : ScstConfig) : ScstConfig :=
  c.modifyDriver d (Driver.modifyTarget t f)

def modifyGroup (d t g : Nat) (f : Group → Group) (c : ScstConfig) : ScstConfig :=
  c.modifyTarget d t (Target.modifyGroup g f)

def deviceCount (h : Nat) (c : ScstConfig) : Nat := (c.handlers[h]?.map (·.devices.length)).getD 0

def target? (d t : Nat) (c : ScstConfig) : Option Target := c.drivers[d]?.bind (·.targets[t]?)

def group? (d t g : Nat) (c : ScstConfig) : Option Group := (c.target? d t).bind (·.groups[g]?)

def targetCount (d : Nat) (c : ScstConfig) : Nat := (c.drivers[d]?.map (·.targets.length)).getD 0

def groupCount (d t : Nat) (c : ScstConfig) : Nat := ((c.target? d t).map (·.groups.length)).getD 0

def targetLunCount (d t : Nat) (c : ScstConfig) : Nat := ((c.target? d t).map (·.luns.length)).getD 0

def groupLunCount (d t g : Nat) (c : ScstConfig) : Nat :=
  ((c.group? d t g).map (·.luns.length)).getD 0

def targetGroupCount (g : Nat) (c : ScstConfig) : Nat :=
  (c.deviceGroups[g]?.map (·.targetGroups.length)).getD 0

theorem modifyHandler_same {h : Nat} {f : Handler → Handler} {c : ScstConfig}
    (hf : ∀ x, f x = x) : c.modifyHandler h f = c := by
  rw [modifyHandler, modify_same hf]

theorem modifyDriver_same {d : Nat} {f : Driver → Driver} {c : ScstConfig}
    (hf : ∀ x, f x = x) : c.modifyDriver d f = c := by
  rw [modifyDriver, modify_same hf]

theorem modifyDeviceGroup_same {g : Nat} {f : AluaDeviceGroupConfig → AluaDeviceGroupConfig}
    {c : ScstConfig} (hf : ∀ x, f x = x) : c.modifyDeviceGroup g f = c := by
  rw [modifyDeviceGroup, modify_same hf]

theorem modifyDevice_same {d : Nat} {f : Device → Device} (hf : ∀ x, f x = x) (x : Handler) :
    x.modifyDevice d f = x := by rw [Handler.modifyDevice, modify_same hf]

theorem modifyTargetGroup_same {t : Nat} {f : AluaTargetGroupConfig → AluaTargetGroupConfig}
    (hf : ∀ x, f x = x) (x : AluaDeviceGroupConfig) : x.modifyTargetGroup t f = x := by
  rw [AluaDeviceGroupConfig.modifyTargetGroup, modify_same hf]

theorem modifyTarget_same {d t : Nat} {f : Target → Target} {c : ScstConfig}
    (hf : ∀ x, f x = x) : c.modifyTarget d t f = c :=
  modifyDriver_same fun x => by rw [Driver.modifyTarget, modify_same hf]

theorem modifyGroup_same {d t g : Nat} {f : Group → Group} {c : ScstConfig}
    (hf : ∀ x, f x = x) : c.modifyGroup d t g f = c :=
  modifyTarget_same fun x => by rw [Target.modifyGroup, modify_same hf]

theorem modifyHandler_modifyHandler (h : Nat) (f g : Handler → Handler) (c : ScstConfig) :
    (c.modifyHandler h f).modifyHandler h g = c.modifyHandler h (g ∘ f) := by
  simp [modifyHandler, List.modify_modify_eq]

theorem modifyDriver_modifyDriver (d : Nat) (f g : Driver → Driver) (c : ScstConfig) :
    (c.modifyDriver d f).modifyDriver d g = c.modifyDriver d (g ∘ f) := by
  simp [modifyDriver, List.modify_modify_eq]

theorem modifyDeviceGroup_modifyDeviceGroup (g : Nat)
    (f k : AluaDeviceGroupConfig → AluaDeviceGroupConfig) (c : ScstConfig) :
    (c.modifyDeviceGroup g f).modifyDeviceGroup g k = c.modifyDeviceGroup g (k ∘ f) := by
  simp [modifyDeviceGroup, List.modify_modify_eq]

theorem modifyDevice_comp (d : Nat) (f g : Device → Device) :
    Handler.modifyDevice d g ∘ Handler.modifyDevice d f = Handler.modifyDevice d (g ∘ f) := by
  funext x
  simp [Handler.modifyDevice, List.modify_modify_eq]

theorem modifyTarget_comp (t : Nat) (f g : Target → Target) :
    Driver.modifyTarget t g ∘ Driver.modifyTarget t f = Driver.modifyTarget t (g ∘ f) := by
  funext x
  simp [Driver.modifyTarget, List.modify_modify_eq]

theorem modifyGroup_comp (i : Nat) (f g : Group → Group) :
    Target.modifyGroup i g ∘ Target.modifyGroup i f = Target.modifyGroup i (g ∘ f) := by
  funext x
  simp [Target.modifyGroup, List.modify_modify_eq]

theorem modifyTargetGroup_comp (t : Nat)
    (f g : AluaTargetGroupConfig → AluaTargetGroupConfig) :
    AluaDeviceGroupConfig.modifyTargetGroup t g ∘ AluaDeviceGroupConfig.modifyTargetGroup t f =
      AluaDeviceGroupConfig.modifyTargetGroup t (g ∘ f) := by
  funext x
  simp [AluaDeviceGroupConfig.modifyTargetGroup, List.modify_modify_eq]

theorem modifyTarget_modifyTarget (d t : Nat) (f g : Target → Target) (c : ScstConfig) :
    (c.modifyTarget d t f).modifyTarget d t g = c.modifyTarget d t (g ∘ f) := by
  rw [modifyTarget, modifyTarget, modifyDriver_modifyDriver, modifyTarget_comp, modifyTarget]

theorem modifyGroup_modifyGroup (d t i : Nat) (f g : Group → Group) (c : ScstConfig) :
    (c.modifyGroup d t i f).modifyGroup d t i g = c.modifyGroup d t i (g ∘ f) := by
  rw [modifyGroup, modifyGroup, modifyTarget_modifyTarget, modifyGroup_comp, modifyGroup]

theorem target?_modifyTarget {d t : Nat} (f : Target → Target) {c : ScstConfig} {x : Target}
    (h : c.target? d t = some x) : (c.modifyTarget d t f).target? d t = some (f x) := by
  obtain ⟨y, hy, hyx⟩ := Option.bind_eq_some_iff.mp h
  simp [target?, modifyTarget, modifyDriver, Driver.modifyTarget, hy, hyx]

theorem group?_modifyGroup {d t g : Nat} (f : Group → Group) {c : ScstConfig} {x : Group}
    (h : c.group? d t g = some x) : (c.modifyGroup d t g f).group? d t g = some (f x) := by
  obtain ⟨y, hy, hyx⟩ := Option.bind_eq_some_iff.mp h
  rw [group?, modifyGroup, target?_modifyTarget _ hy]
  simp [Target.modifyGroup, hyx]

theorem modifyHandler_append (c : ScstConfig) (x : Handler) (f : Handler → Handler) :
    ({ c with handlers := c.handlers ++ [x] } : ScstConfig).modifyHandler c.handlers.length f =
      { c with handlers := c.handlers ++ [f x] } := by
  simp [modifyHandler, modify_append_length]

theorem modifyDriver_append (c : ScstConfig) (x : Driver) (f : Driver → Driver) :
    ({ c with drivers := c.drivers ++ [x] } : ScstConfig).modifyDriver c.drivers.length f =
      { c with drivers := c.drivers ++ [f x] } := by
  simp [modifyDriver, modify_append_length]

theorem modifyDeviceGroup_append (c : ScstConfig) (x : AluaDeviceGroupConfig)
    (f : AluaDeviceGroupConfig → AluaDeviceGroupConfig) :
    ({ c with deviceGroups := c.deviceGroups ++ [x] } : ScstConfig).modifyDeviceGroup
      c.deviceGroups.length f = { c with deviceGroups := c.deviceGroups ++ [f x] } := by
  simp [modifyDeviceGroup, modify_append_length]

theorem modifyDevice_addDevice (h : Nat) (x : Handler → Device) (f : Device → Device)
    (c : ScstConfig) :
    (c.modifyHandler h fun y => y.addDevice (x y)).modifyHandler h
        (Handler.modifyDevice (c.deviceCount h) f) =
      c.modifyHandler h fun y => y.addDevice (f (x y)) := by
  rw [modifyHandler_modifyHandler]
  simp only [modifyHandler]
  congr 1
  refine modify_congr fun y hy => ?_
  simp [deviceCount, Option.mem_def.mp hy, Handler.modifyDevice, Handler.addDevice,
    modify_append_length]

theorem modifyTarget_addTarget (d : Nat) (x : Driver → Target) (f : Target → Target)
    (c : ScstConfig) :
    (c.modifyDriver d fun y => y.addTarget (x y)).modifyTarget d (c.targetCount d) f =
      c.modifyDriver d fun y => y.addTarget (f (x y)) := by
  rw [modifyTarget, modifyDriver_modifyDriver]
  simp only [modifyDriver]
  congr 1
  refine modify_congr fun y hy => ?_
  simp [targetCount, Option.mem_def.mp hy, Driver.modifyTarget, Driver.addTarget,
    modify_append_length]

theorem modifyTargetGroup_addTargetGroup (g : Nat) (x : AluaTargetGroupConfig)
    (f : AluaTargetGroupConfig → AluaTargetGroupConfig) (c : ScstConfig) :
    (c.modifyDeviceGroup g (AluaDeviceGroupConfig.addTargetGroup x)).modifyDeviceGroup g
        (AluaDeviceGroupConfig.modifyTargetGroup (c.targetGroupCount g) f) =
      c.modifyDeviceGroup g (AluaDeviceGroupConfig.addTargetGroup (f x)) := by
  rw [modifyDeviceGroup_modifyDeviceGroup]
  simp only [modifyDeviceGroup]
  congr 1
  refine modify_congr fun y hy => ?_
  simp [targetGroupCount, Option.mem_def.mp hy, AluaDeviceGroupConfig.modifyTargetGroup,
    AluaDeviceGroupConfig.addTargetGroup, modify_append_length]

theorem modifyTarget_congr {d t : Nat} {f g : Target → Target} {c : ScstConfig}
    (h : ∀ x ∈ c.target? d t, f x = g x) : c.modifyTarget d t f = c.modifyTarget d t g := by
  simp only [modifyTarget, modifyDriver]
  congr 1
  refine modify_congr fun y hy => ?_
  simp only [Driver.modifyTarget]
  congr 1
  refine modify_congr fun x hx => h x ?_
  simp [target?, Option.mem_def.mp hy, Option.mem_def.mp hx]

theorem modifyGroup_congr {d t i : Nat} {f g : Group → Group} {c : ScstConfig}
    (h : ∀ x ∈ c.group? d t i, f x = g x) : c.modifyGroup d t i f = c.modifyGroup d t i g := by
  simp only [modifyGroup]
  refine modifyTarget_congr fun y hy => ?_
  simp only [Target.modifyGroup]
  congr 1
  refine modify_congr fun x hx => h x ?_
  simp [group?, Option.mem_def.mp hy, Option.mem_def.mp hx]

theorem modifyGroup_addGroup (d t : Nat) (x : Group) (f : Group → Group) (c : ScstConfig) :
    (c.modifyTarget d t (Target.addGroup x)).modifyGroup d t (c.groupCount d t) f =
      c.modifyTarget d t (Target.addGroup (f x)) := by
  rw [modifyGroup, modifyTarget_modifyTarget]
  refine modifyTarget_congr fun y hy => ?_
  simp [groupCount, Option.mem_def.mp hy, Target.modifyGroup, Target.addGroup,
    modify_append_length]

theorem modifyTargetLun_addLun (d t : Nat) (x : Lun) (f : Lun → Lun) (c : ScstConfig) :
    (c.modifyTarget d t (Target.addLun x)).modifyTarget d t
        (Target.modifyLun (c.targetLunCount d t) f) =
      c.modifyTarget d t (Target.addLun (f x)) := by
  rw [modifyTarget_modifyTarget]
  refine modifyTarget_congr fun y hy => ?_
  simp [targetLunCount, Option.mem_def.mp hy, Target.modifyLun, Target.addLun,
    modify_append_length]

theorem modifyGroupLun_addLun (d t i : Nat) (x : Lun) (f : Lun → Lun) (c : ScstConfig) :
    (c.modifyGroup d t i (Group.addLun x)).modifyGroup d t i
        (Group.modifyLun (c.groupLunCount d t i) f) =
      c.modifyGroup d t i (Group.addLun (f x)) := by
  rw [modifyGroup_modifyGroup]
  refine modifyGroup_congr fun y hy => ?_
  simp [groupLunCount, Option.mem_def.mp hy, Group.modifyLun, Group.addLun, modify_append_length]

end ScstConfig

end EsosWebui.Scst
