import EsosWebui.Scst.Mutators

/-! The preflights of changes to groups, initiators and LUNs: what they show before a change is
made, from the configuration as it is read. The configuration that is read has no sessions, so that
the warnings about sessions are left out. -/
namespace EsosWebui.Scst

open Js

structure ScstPreflightResult where
  ok : Bool
  configPreview : List Text
  warnings : List Text := []
  blockers : List Text := []
  requiredConfirmation : Option Text := none

def orBlocked : Except Text ScstPreflightResult → ScstPreflightResult
  | .ok result => result
  | .error blocker => { ok := false, configPreview := [], blockers := [blocker] }

def findTarget (config : ScstConfig) (targetName : Text) : Option Target :=
  config.drivers.findSome? fun driver => driver.targets.find? (·.name = targetName)

def preflightCreateGroup (targetName groupName : Text) (config : ScstConfig) :
    ScstPreflightResult := orBlocked do
  let target ← orThrow (targetNotFound targetName) (findTarget config targetName)
  let normalized ← (validateGroupName groupName).mapError fun _ => "Nom de groupe invalide".toList
  throwIf (target.groups.any (·.name = normalized))
    ("Le groupe \"".toList ++ normalized ++ "\" existe déjà".toList)
  return {
    ok := true
    configPreview := ["GROUP ".toList ++ normalized ++ " \x7b".toList,
      "\t# INITIATOR …".toList, "\t# LUN …".toList, "\x7d".toList] }

def preflightAddInitiator (toLowerCase : Text → Text) (targetName groupName initiator : Text)
    (type : Option InitiatorType) (config : ScstConfig) : ScstPreflightResult := orBlocked do
  let target ← orThrow (targetNotFound targetName) (findTarget config targetName)
  let _ ← orThrow (groupNotFound groupName) (target.groups.find? (·.name = groupName))
  let v ← (validateInitiatorValue toLowerCase initiator
    { type := some (type.getD .auto), ibOneTargetPerPort := none }).mapError
      fun _ => "Initiateur invalide".toList
  throwIf (v.normalized = []) "Initiateur invalide".toList
  throwIf (initiatorAlreadyOnTarget toLowerCase target.groups v.normalized (some groupName))
    "Initiateur déjà présent sur cette target".toList
  return { ok := true, configPreview := ["INITIATOR ".toList ++ v.normalized] }

def expectedDeleteGroupConfirmation (targetName groupName : Text) : Text :=
  "DELETE GROUP ".toList ++ targetName ++ '/' :: groupName

def deleteGroupWarnings (group : Group) : List Text :=
  if group.initiators ≠ [] ∧ group.luns ≠ [] then
    ["Le groupe contient ".toList ++ Nat.toDigits 10 group.initiators.length ++
      " initiateur(s) et ".toList ++ Nat.toDigits 10 group.luns.length ++
      " LUN(s) — la suppression forcée retire tout le contenu du groupe.".toList]
  else if group.initiators ≠ [] then
    ["Le groupe contient ".toList ++ Nat.toDigits 10 group.initiators.length ++
      " initiateur(s) — la suppression forcée les retire de scst.conf.".toList]
  else if group.luns ≠ [] then
    ["Le groupe contient ".toList ++ Nat.toDigits 10 group.luns.length ++
      " LUN(s) — retirez les mappages ou confirmez la suppression forcée.".toList]
  else []

def preflightDeleteGroup (targetName groupName : Text) (config : ScstConfig) :
    ScstPreflightResult := orBlocked do
  let target ← orThrow (targetNotFound targetName) (findTarget config targetName)
  let group ← orThrow (groupNotFound groupName) (target.groups.find? (·.name = groupName))
  return {
    ok := true
    configPreview := ["# remove GROUP ".toList ++ groupName]
    warnings := deleteGroupWarnings group
    requiredConfirmation :=
      if group.initiators ≠ [] ∨ group.luns ≠ [] then
        some (expectedDeleteGroupConfirmation targetName groupName)
      else none }

def preflightRemoveInitiator (toLowerCase : Text → Text) (targetName groupName initiator : Text)
    (config : ScstConfig) : ScstPreflightResult := orBlocked do
  let target ← orThrow (targetNotFound targetName) (findTarget config targetName)
  let group ← orThrow (groupNotFound groupName) (target.groups.find? (·.name = groupName))
  let needle := toLowerCase (trim initiator)
  throwIf (group.initiators.any (fun i => toLowerCase (trim i) = needle) = false)
    "Initiateur introuvable dans ce groupe".toList
  return {
    ok := true
    configPreview := ["# remove INITIATOR ".toList ++ trim initiator]
    warnings := ["Arrêtez les I/O côté client avant de retirer un initiateur du groupe.".toList] }

/-- A refused mapping is shown with its error key. -/
def preflightMapLun (targetName groupName : Text) (lunId : Number) (deviceName : Text)
    (readOnly : Bool) (config : ScstConfig) : ScstPreflightResult := orBlocked do
  let target ← orThrow (targetNotFound targetName) (findTarget config targetName)
  let previewLine ← validateMapLun lunId deviceName readOnly config target groupName
  return { ok := true, configPreview := [previewLine] }

def preflightUnmapLun (targetName groupName : Text) (lunId : Number) (config : ScstConfig) :
    ScstPreflightResult := orBlocked do
  let target ← orThrow (targetNotFound targetName) (findTarget config targetName)
  (validateUnmapLun lunId target groupName).mapError fun _ => "LUN introuvable".toList
  return {
    ok := true
    configPreview :=
      ["# remove LUN ".toList ++ lunId.toText ++ " from GROUP ".toList ++ groupName] }

/-- A request that has a preflight, with the arguments of its mutator. -/
inductive HostRequest where
  | createGroup (targetName groupName : Text)
  | addInitiator (targetName groupName initiator : Text) (options : ValidateInitiatorOptions)
  | deleteGroup (targetName groupName : Text)
  | removeInitiator (targetName groupName initiator : Text)
  | mapLun (targetName groupName : Text) (lunId : Number) (deviceName : Text) (readOnly : Bool)
  | unmapLun (targetName groupName : Text) (lunId : Number)

/-- The preflight of a request; the one of an initiator is not given how InfiniBand ports are
named. -/
def HostRequest.preflight (toLowerCase : Text → Text) (config : ScstConfig) :
    HostRequest → ScstPreflightResult
  | createGroup targetName groupName => preflightCreateGroup targetName groupName config
  | addInitiator targetName groupName initiator options =>
    preflightAddInitiator toLowerCase targetName groupName initiator options.type config
  | deleteGroup targetName groupName => preflightDeleteGroup targetName groupName config
  | removeInitiator targetName groupName initiator =>
    preflightRemoveInitiator toLowerCase targetName groupName initiator config
  | mapLun targetName groupName lunId deviceName readOnly =>
    preflightMapLun targetName groupName lunId deviceName readOnly config
  | unmapLun targetName groupName lunId => preflightUnmapLun targetName groupName lunId config

def HostRequest.mutator (config : ScstConfig) : HostRequest → Request
  | createGroup targetName groupName => .createGroup targetName groupName
  | addInitiator targetName groupName initiator options =>
    .addInitiator targetName groupName initiator options
  | deleteGroup targetName groupName =>
    .deleteGroup targetName groupName
      (preflightDeleteGroup targetName groupName config).requiredConfirmation.isSome
  | removeInitiator targetName groupName initiator =>
    .removeInitiator targetName groupName initiator
  | mapLun targetName groupName lunId deviceName readOnly =>
    .addLunToGroup targetName groupName lunId deviceName readOnly
  | unmapLun targetName groupName lunId => .removeLunFromGroup targetName groupName lunId

theorem map_value_findFirst {α : Type} (p : α → Bool) (l : List α) :
    (findFirst p l).map (·.value) = l.find? p := by
  cases hFirst : findFirst p l with
  | none => exact (List.find?_eq_none.mpr fun a ha => by simp [findFirst_eq_none hFirst a ha]).symm
  | some found => exact (find?_of_findFirst hFirst).symm

theorem findTarget_eq (config : ScstConfig) (targetName : Text) :
    findTarget config targetName = (findTargetInConfig config targetName).map (·.target) := by
  have hDriver (drivers : List Driver) :
      drivers.findSome? (fun x => x.targets.find? (·.name = targetName)) =
        (drivers.find? (·.targets.any (·.name = targetName))).bind fun x =>
          x.targets.find? (·.name = targetName) := by
    induction drivers with
    | nil => rfl
    | cons driver drivers ih =>
      have hAny : driver.targets.any (·.name = targetName) =
          (driver.targets.find? (·.name = targetName)).isSome := (Bool.eq_iff_iff.mpr <| by simp)
      rw [List.findSome?_cons, List.find?_cons, hAny]
      cases hTarget : driver.targets.find? (·.name = targetName) with
      | none => exact ih
      | some target => simp [hTarget]
  rw [findTarget, hDriver, ← map_value_findFirst]
  unfold findTargetInConfig
  cases findFirst (fun x : Driver => x.targets.any (·.name = targetName)) config.drivers with
  | none => rfl
  | some driver =>
    rw [Option.map_some, Option.bind_some, ← map_value_findFirst, Option.bind_eq_bind,
      Option.bind_some]
    cases findFirst (fun x : Target => decide (x.name = targetName)) driver.value.targets <;> rfl

theorem findTarget_eq_some {config : ScstConfig} {targetName : Text} {target : Target} :
    findTarget config targetName = some target ↔
      ∃ found, findTargetInConfig config targetName = some found ∧ found.target = target := by
  rw [findTarget_eq, Option.map_eq_some_iff]

theorem find?_eq_some_iff_findGroup {target : Target} {groupName : Text} {group : Group} :
    target.groups.find? (·.name = groupName) = some group ↔
      ∃ found, findGroup target groupName = some found ∧ found.value = group := by
  rw [← map_value_findFirst, Option.map_eq_some_iff]
  rfl

theorem orBlocked_ok_iff {check : Except Text ScstPreflightResult}
    (h : ∀ result, check = .ok result → result.ok = true) :
    (orBlocked check).ok = true ↔ ∃ result, check = .ok result := by
  cases check with
  | error blocker => exact iff_of_false nofun nofun
  | ok result => exact iff_of_true (h result rfl) ⟨result, rfl⟩

end EsosWebui.Scst
