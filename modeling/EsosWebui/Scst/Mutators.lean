import EsosWebui.Scst.Validation
import EsosWebui.Scst.Parser

/-! The functions that change the configuration. Each reads the file, edits the
configuration it was read as, and writes the whole file again. -/
namespace EsosWebui.Scst

open Js

/-- An object that was found by its name, with its position. -/
structure Found (α : Type) where
  index : Nat
  value : α

/-- `array.find(...)`, where the object found may be changed later. -/
def findFirst {α : Type} (p : α → Bool) (l : List α) : Option (Found α) := do
  let i ← l.findIdx? p
  let a ← l[i]?
  return ⟨i, a⟩

structure FoundTarget where
  driver : Nat
  index : Nat
  target : Target

def findTargetInConfig (config : ScstConfig) (targetName : Text) : Option FoundTarget := do
  let driver ← findFirst (·.targets.any (·.name = targetName)) config.drivers
  let target ← findFirst (·.name = targetName) driver.value.targets
  return ⟨driver.index, target.index, target.value⟩

def findGroup (target : Target) (groupName : Text) : Option (Found Group) :=
  findFirst (·.name = groupName) target.groups

def targetNotFound (targetName : Text) : Text :=
  "Target \"".toList ++ targetName ++ "\" introuvable".toList

def groupNotFound (groupName : Text) : Text :=
  "Groupe \"".toList ++ groupName ++ "\" introuvable".toList

def ScstConfig.ensureDriver (config : ScstConfig) (driverName : Text) : ScstConfig × Found Driver :=
  match findFirst (·.name = driverName) config.drivers with
  | some driver => (config, driver)
  | none =>
    let driver := { name := driverName, enabled := true, targets := [] }
    ({ config with drivers := config.drivers ++ [driver] }, ⟨config.drivers.length, driver⟩)

def newTarget (driverName targetName : Text) : Target :=
  { name := targetName, driver := driverName, enabled := true, hwTarget := false,
    attrs := .empty, groups := [], luns := [] }

def createTarget (driverName targetName : Text) (config : ScstConfig) :
    Except Text ScstConfig := do
  validateTargetName targetName driverName
  let (config, driver) := config.ensureDriver driverName
  throwIf (driver.value.targets.any (·.name = targetName))
    ("La target \"".toList ++ targetName ++ "\" existe déjà".toList)
  return config.modifyDriver driver.index (Driver.addTarget (newTarget driverName targetName))

def deleteTarget (targetName : Text) (config : ScstConfig) : Except Text ScstConfig := do
  let found ← orThrow (targetNotFound targetName) (findTargetInConfig config targetName)
  return config.modifyDriver found.driver fun driver =>
    { driver with targets := driver.targets.eraseIdx found.index }

def setTargetEnabled (targetName : Text) (enabled : Bool) (config : ScstConfig) :
    Except Text ScstConfig := do
  let found ← orThrow (targetNotFound targetName) (findTargetInConfig config targetName)
  return config.modifyTarget found.driver found.index fun target => { target with enabled := enabled }

def createGroup (targetName groupName : Text) (config : ScstConfig) : Except Text ScstConfig := do
  let normalized ← (validateGroupName groupName).mapError fun _ => "Nom de groupe invalide".toList
  let found ← orThrow (targetNotFound targetName) (findTargetInConfig config targetName)
  throwIf (found.target.groups.any (·.name = normalized))
    ("Le groupe \"".toList ++ normalized ++ "\" existe déjà".toList)
  return config.modifyTarget found.driver found.index
    (Target.addGroup { name := normalized, initiators := [], luns := [] })

/-- What stands in the way of a deletion that is not forced. -/
def groupContents (group : Group) : List Text :=
  (if group.initiators = [] then []
    else [Nat.toDigits 10 group.initiators.length ++ " initiateur(s)".toList]) ++
  (if group.luns = [] then [] else [Nat.toDigits 10 group.luns.length ++ " LUN(s)".toList])

def deleteGroup (targetName groupName : Text) (force : Bool) (config : ScstConfig) :
    Except Text ScstConfig := do
  let found ← orThrow (targetNotFound targetName) (findTargetInConfig config targetName)
  let group ← orThrow (groupNotFound groupName) (findGroup found.target groupName)
  throwIf ((group.value.initiators ≠ [] ∨ group.value.luns ≠ []) ∧ force = false)
    ("Le groupe \"".toList ++ groupName ++ "\" contient ".toList ++
      " et ".toList.intercalate (groupContents group.value) ++
      " — confirmez la suppression forcée".toList)
  return config.modifyTarget found.driver found.index fun target =>
    { target with groups := target.groups.filter (·.name ≠ groupName) }

section

variable (toLowerCase : Text → Text)

def addInitiator (targetName groupName initiatorRaw : Text) (options : ValidateInitiatorOptions)
    (config : ScstConfig) : Except Text (ScstConfig × Text) := do
  let found ← orThrow (targetNotFound targetName) (findTargetInConfig config targetName)
  let group ← orThrow (groupNotFound groupName) (findGroup found.target groupName)
  let validated ← (validateInitiatorValue toLowerCase initiatorRaw
    { options with type := some (options.type.getD .auto) }).mapError
      fun _ => "Initiateur invalide".toList
  let normalized := validated.normalized
  throwIf (normalized = []) "Initiateur invalide".toList
  throwIf (group.value.initiators.any fun i => toLowerCase (trim i) = toLowerCase normalized)
    ("L'initiateur est déjà présent dans le groupe \"".toList ++ groupName ++ "\"".toList)
  throwIf (initiatorAlreadyOnTarget toLowerCase found.target.groups normalized (some groupName))
    "L'initiateur est déjà utilisé dans un autre groupe de cette target".toList
  return (config.modifyGroup found.driver found.index group.index (Group.addInitiator normalized),
    normalized)

def removeInitiator (targetName groupName initiatorRaw : Text) (config : ScstConfig) :
    Except Text ScstConfig := do
  let found ← orThrow (targetNotFound targetName) (findTargetInConfig config targetName)
  let group ← orThrow (groupNotFound groupName) (findGroup found.target groupName)
  let needle := toLowerCase (trim initiatorRaw)
  let initiator ← orThrow
    ("Initiateur introuvable dans le groupe \"".toList ++ groupName ++ "\"".toList)
    (findFirst (fun i => toLowerCase (trim i) = needle) group.value.initiators)
  return config.modifyGroup found.driver found.index group.index fun group =>
    { group with initiators := group.initiators.eraseIdx initiator.index }

end

def addLunToGroup (targetName groupName : Text) (lunId : Number) (deviceName : Text)
    (readOnly : Bool) (config : ScstConfig) : Except Text (ScstConfig × Number × Text) := do
  let found ← orThrow (targetNotFound targetName) (findTargetInConfig config targetName)
  let _ ← (validateMapLun lunId deviceName readOnly config found.target groupName).mapError
    fun _ => "Mappage LUN invalide".toList
  let group ← orThrow (groupNotFound groupName) (findGroup found.target groupName)
  let lun := { id := lunId, device := trim deviceName, readOnly := readOnly, attrs := .empty }
  return (config.modifyGroup found.driver found.index group.index (Group.addLun lun),
    lun.id, lun.device)

def removeLunFromGroup (targetName groupName : Text) (lunId : Number) (config : ScstConfig) :
    Except Text ScstConfig := do
  let found ← orThrow (targetNotFound targetName) (findTargetInConfig config targetName)
  (validateUnmapLun lunId found.target groupName).mapError fun _ => "LUN introuvable".toList
  let group ← orThrow (groupNotFound groupName) (findGroup found.target groupName)
  return config.modifyGroup found.driver found.index group.index fun group =>
    { group with luns := group.luns.filter (·.id ≠ lunId) }

def ScstConfig.ensureHandler (config : ScstConfig) (handlerName : Text) :
    ScstConfig × Found Handler :=
  match findFirst (·.name = handlerName) config.handlers with
  | some handler => (config, handler)
  | none =>
    let handler := { name := handlerName, devices := [] }
    ({ config with handlers := config.handlers ++ [handler] }, ⟨config.handlers.length, handler⟩)

def createDevice (handlerName deviceName filename : Text) (attrs : Record Text)
    (config : ScstConfig) : Except Text ScstConfig := do
  throwIf (isDeviceName deviceName = false)
    "Nom de device invalide (lettres, chiffres, _ et - uniquement)".toList
  throwIf (handlerName ≠ "nullio".toList ∧ trim filename = [])
    "Le chemin du fichier/périphérique est requis".toList
  let (config, handler) := config.ensureHandler handlerName
  throwIf (handler.value.devices.any (·.name = deviceName))
    ("Le device \"".toList ++ deviceName ++ "\" existe déjà".toList)
  match handler.value.devices.find? fun d => trim d.filename = trim filename with
  | some fileConflict =>
    .error ("Le fichier \"".toList ++ trim filename ++
      "\" est déjà utilisé par le device FILEIO \"".toList ++ fileConflict.name ++ "\"".toList)
  | none =>
    return config.modifyHandler handler.index (Handler.addDevice
      { name := deviceName, handler := handlerName, filename := trim filename, attrs := attrs })

def ScstConfig.allLuns (config : ScstConfig) : List Lun :=
  (config.drivers.flatMap (·.targets)).flatMap allLunsOnTarget

def deleteDevice (deviceName : Text) (config : ScstConfig) : Except Text ScstConfig := do
  let lunCount := (config.allLuns.filter (·.device = deviceName)).length
  throwIf (0 < lunCount)
    ("Le device \"".toList ++ deviceName ++ "\" est utilisé par ".toList ++
      Nat.toDigits 10 lunCount ++
      " LUN(s) — retirez-le des groupes avant de le supprimer".toList)
  let handler ← orThrow ("Device \"".toList ++ deviceName ++ "\" introuvable".toList)
    (findFirst (·.devices.any (·.name = deviceName)) config.handlers)
  let devices := handler.value.devices.eraseP (·.name = deviceName)
  -- A handler without devices is dropped.
  if devices = [] then
    return { config with handlers := config.handlers.eraseIdx handler.index }
  else
    return config.modifyHandler handler.index fun x => { x with devices := devices }

/-- A call of one of the functions above, with its arguments. -/
inductive Request where
  | createTarget (driverName targetName : Text)
  | deleteTarget (targetName : Text)
  | setTargetEnabled (targetName : Text) (enabled : Bool)
  | createGroup (targetName groupName : Text)
  | deleteGroup (targetName groupName : Text) (force : Bool)
  | addInitiator (targetName groupName initiatorRaw : Text) (options : ValidateInitiatorOptions)
  | removeInitiator (targetName groupName initiatorRaw : Text)
  | addLunToGroup (targetName groupName : Text) (lunId : Number) (deviceName : Text)
      (readOnly : Bool)
  | removeLunFromGroup (targetName groupName : Text) (lunId : Number)
  | createDevice (handlerName deviceName filename : Text) (attrs : Record Text)
  | deleteDevice (deviceName : Text)

def Request.edit (toLowerCase : Text → Text) (config : ScstConfig) :
    Request → Except Text ScstConfig
  | createTarget driverName targetName => Scst.createTarget driverName targetName config
  | deleteTarget targetName => Scst.deleteTarget targetName config
  | setTargetEnabled targetName enabled => Scst.setTargetEnabled targetName enabled config
  | createGroup targetName groupName => Scst.createGroup targetName groupName config
  | deleteGroup targetName groupName force => Scst.deleteGroup targetName groupName force config
  | addInitiator targetName groupName initiatorRaw options =>
    (Scst.addInitiator toLowerCase targetName groupName initiatorRaw options config).map (·.1)
  | removeInitiator targetName groupName initiatorRaw =>
    Scst.removeInitiator toLowerCase targetName groupName initiatorRaw config
  | addLunToGroup targetName groupName lunId deviceName readOnly =>
    (Scst.addLunToGroup targetName groupName lunId deviceName readOnly config).map (·.1)
  | removeLunFromGroup targetName groupName lunId =>
    Scst.removeLunFromGroup targetName groupName lunId config
  | createDevice handlerName deviceName filename attrs =>
    Scst.createDevice handlerName deviceName filename attrs config
  | deleteDevice deviceName => Scst.deleteDevice deviceName config

def Request.run (toLowerCase : Text → Text) (r : Request) (file : Text) : Except Text Text := do
  let config ← r.edit toLowerCase (parseScstConfSafe file)
  return serializeScstConfig config

theorem findFirst_eq_some {α : Type} {p : α → Bool} {l : List α} {x : Found α}
    (h : findFirst p l = some x) : l[x.index]? = some x.value ∧ p x.value = true := by
  simp only [findFirst, Option.bind_eq_bind, Option.bind_eq_some_iff, Option.pure_def,
    Option.some.injEq] at h
  obtain ⟨i, hi, a, ha, rfl⟩ := h
  obtain ⟨hlt, hp, -⟩ := List.findIdx?_eq_some_iff_getElem.mp hi
  rw [List.getElem?_eq_getElem hlt, Option.some.injEq] at ha
  exact ⟨by rw [List.getElem?_eq_getElem hlt, ha], ha ▸ hp⟩

theorem findIdx_of_findFirst {α : Type} {p : α → Bool} {l : List α} {x : Found α}
    (h : findFirst p l = some x) : l.findIdx? p = some x.index := by
  simp only [findFirst, Option.bind_eq_bind, Option.bind_eq_some_iff, Option.pure_def,
    Option.some.injEq] at h
  obtain ⟨i, hi, -, -, rfl⟩ := h
  exact hi

theorem find?_of_findFirst {α : Type} {p : α → Bool} {l : List α} {x : Found α}
    (h : findFirst p l = some x) : l.find? p = some x.value := by
  obtain ⟨hAt, hp⟩ := findFirst_eq_some h
  obtain ⟨hlt, -, hBefore⟩ := List.findIdx?_eq_some_iff_getElem.mp (findIdx_of_findFirst h)
  rw [List.getElem?_eq_getElem hlt, Option.some.injEq] at hAt
  exact List.find?_eq_some_iff_getElem.mpr ⟨hp, x.index, hlt, hAt, fun j hj => by simp [hBefore j hj]⟩

theorem findFirst_eq_none {α : Type} {p : α → Bool} {l : List α} (h : findFirst p l = none) :
    ∀ a ∈ l, p a = false := by
  cases hIdx : l.findIdx? p with
  | none => exact List.findIdx?_eq_none_iff.mp hIdx
  | some i =>
    obtain ⟨hlt, -, -⟩ := List.findIdx?_eq_some_iff_getElem.mp hIdx
    simp [findFirst, hIdx, List.getElem?_eq_getElem hlt] at h

theorem findTargetInConfig_eq_some {c : ScstConfig} {targetName : Text} {found : FoundTarget}
    (h : findTargetInConfig c targetName = some found) :
    c.target? found.driver found.index = some found.target ∧ found.target.name = targetName := by
  simp only [findTargetInConfig, Option.bind_eq_bind, Option.bind_eq_some_iff, Option.pure_def,
    Option.some.injEq] at h
  obtain ⟨driver, hDriver, target, hTarget, rfl⟩ := h
  obtain ⟨hAt, -⟩ := findFirst_eq_some hDriver
  obtain ⟨hTargetAt, hName⟩ := findFirst_eq_some hTarget
  exact ⟨by simp [ScstConfig.target?, hAt, hTargetAt], by simpa using hName⟩

theorem findGroup_eq_some {target : Target} {groupName : Text} {found : Found Group}
    (h : findGroup target groupName = some found) :
    target.groups[found.index]? = some found.value ∧ found.value.name = groupName := by
  obtain ⟨hAt, hName⟩ := findFirst_eq_some h
  exact ⟨hAt, by simpa using hName⟩

end EsosWebui.Scst
