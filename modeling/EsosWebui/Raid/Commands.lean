import EsosWebui.Js.Labels
import EsosWebui.Js.Strings
import EsosWebui.Js.Throw
import EsosWebui.Raid.Types

/-! Names and paths that may go into a command, and the commands that are built
from them. -/
namespace EsosWebui.Raid

open Js

/-- `[a-z0-9_-]` -/
def isArrayNameChar (c : Char) : Bool := c.isLower || c.isDigit || c == '_' || c == '-'

/-- `^md[a-z0-9_-]{0,15}$` -/
def isValidMdArrayName (name : String) : Bool :=
  match name.toList with
  | 'm' :: 'd' :: rest => rest.length ≤ 15 && rest.all isArrayNameChar
  | _ => false

/-- `^md[a-z0-9_-]{0,15}$`, ignoring case. -/
def isMdArrayNameAnyCase (name : String) : Bool :=
  match name.toList with
  | m :: d :: rest =>
    (m == 'm' || m == 'M') && (d == 'd' || d == 'D') && rest.length ≤ 15 &&
      rest.all fun c => isArrayNameChar c || c.isUpper
  | _ => false

/-- `^\/dev\/md[a-z0-9_-]{0,15}$` -/
def isMdArrayPath (path : String) : Bool :=
  (afterLiteral "/dev/" path).any fun name => isValidMdArrayName (String.ofList name)

/-- `^md\d+$` -/
def isNumericMdArrayName (name : String) : Bool :=
  match name.toList with
  | 'm' :: 'd' :: digits => isDigits digits
  | _ => false

/-- `[-a-z0-9_./]` -/
def isPathChar (c : Char) : Bool := isArrayNameChar c || c == '.' || c == '/'

/-- `^\/dev\/[-a-z0-9_./]{1,64}$` -/
def isLowerDevicePath (path : String) : Bool :=
  (afterLiteral "/dev/" path).any fun rest =>
    !rest.isEmpty && rest.length ≤ 64 && rest.all isPathChar

/-- `^\/dev\/[-a-z0-9_./]{1,64}$`, ignoring case. -/
def isSafeDevicePath (dev : String) : Bool :=
  match dev.toList with
  | '/' :: d :: e :: v :: '/' :: rest =>
    (d == 'd' || d == 'D') && (e == 'e' || e == 'E') && (v == 'v' || v == 'V') &&
      !rest.isEmpty && rest.length ≤ 64 && rest.all fun c => isPathChar c || c.isUpper
  | _ => false

def normalizeMdArrayName (name : String) : Except HttpError String :=
  let trimmed := trimString name
  if isMdArrayNameAnyCase trimmed then .ok trimmed
  else .error ⟨400, s!"Nom MD invalide : {name}"⟩

def sanitizeArrayName (name : String) : Except HttpError String :=
  if isValidMdArrayName name then .ok name
  else .error ⟨400, s!"Nom d'array invalide : {name}"⟩

def sanitizeMemberPath (dev : String) : Except HttpError String :=
  let path := if (afterLiteral "/dev/" dev).isSome then dev else s!"/dev/{dev}"
  if isLowerDevicePath path then .ok path
  else .error ⟨400, s!"Chemin device invalide : {dev}"⟩

def buildMdAssembleCommand (name : String) (members : List String) :
    Except HttpError String := do
  let arrayName ← sanitizeArrayName name
  let arrayPath := s!"/dev/{arrayName}"
  let memberPaths ← members.mapM sanitizeMemberPath
  if memberPaths.length > 0 then
    return s!"mdadm --assemble {arrayPath} " ++ join " " memberPaths
  else
    return s!"mdadm --assemble {arrayPath}"

def expectedMdAssembleConfirmation (name : String) : Except HttpError String := do
  let name ← sanitizeArrayName name
  return s!"ASSEMBLE {name}"

def mdZeroMetadataConfirmation : String := "ZERO RAID METADATA"

def mdAdvancedCleanupConfirmation : String := "FORCE CLEAN MD METADATA"

def sanitizeMdArrayName (name : String) : Except HttpError String :=
  if isNumericMdArrayName name then .ok name
  else .error ⟨400, s!"Nom d'array invalide : {name}"⟩

def sanitizeDevicePath (dev : String) : Except HttpError String :=
  if isSafeDevicePath dev then .ok dev
  else .error ⟨400, s!"Chemin device invalide : {dev}"⟩

def mdRaidLevels : List String := ["0", "1", "5", "6", "10"]

def mdChunkKbAllowlist : List Nat := [16, 32, 64, 128, 256, 512, 1024]

def mdCreateEmptyMembersMessage : String :=
  "Commande MD invalide : aucune partition membre transmise."

def minDevices (level : String) : Nat :=
  if level = "5" then 3 else if level = "6" ∨ level = "10" then 4 else 2

def sanitizeChunkKb (chunkKb : Nat) : Except HttpError Nat :=
  if chunkKb ∈ mdChunkKbAllowlist then .ok chunkKb
  else .error ⟨400, s!"Taille de chunk invalide : {chunkKb}"⟩

def sanitizeRaidLevel (level : String) : Except HttpError String :=
  if level ∈ mdRaidLevels then .ok level
  else .error ⟨400, s!"Niveau RAID invalide : {level}"⟩

def sanitizeMdMemberDevices (rawDevices : List String) : Except HttpError (List String) := do
  throwIf (rawDevices = []) ⟨400, mdCreateEmptyMembersMessage⟩
  let devices ← rawDevices.mapM sanitizeDevicePath
  throwIf ((unique devices).length ≠ devices.length)
    ⟨400, "Chaque partition membre doit être sélectionnée une seule fois"⟩
  return devices

def assertMdMemberCount (level : String) (count : Nat) : Except HttpError Unit := do
  let min := minDevices level
  throwIf (count < min) ⟨400, s!"RAID{level} requiert au minimum {min} partitions"⟩
  throwIf (level = "10" ∧ count % 2 ≠ 0) ⟨400, "RAID10 requiert un nombre pair de partitions"⟩

/-- A text that starts with a match of `\/dev\/[-a-z0-9_./]+`, ignoring case. -/
def startsDevicePath (text : Text) : Bool :=
  match text with
  | '/' :: d :: e :: v :: '/' :: c :: _ => isSafeDevicePath (String.ofList ['/', d, e, v, '/', c])
  | _ => false

/-- The matches of `\/dev\/[-a-z0-9_./]+`, ignoring case, one after the other. -/
def devicePathsIn : Option Text → Text → List Text
  | current, [] => current.toList
  | some path, c :: rest =>
    if isPathChar c || c.isUpper then devicePathsIn (some (path ++ [c])) rest
    else path :: devicePathsIn none rest
  | none, c :: rest =>
    if startsDevicePath (c :: rest) then devicePathsIn (some [c]) rest
    else devicePathsIn none rest

def raidDevicesLabel : Text := "--raid-devices=".toList

def statedMembers (command : String) : Option Nat :=
  (firstDigits raidDevicesLabel command.toList).map (Nat.ofDigitChars 10 · 0)

/-- The command is checked as it was rendered: its number of members, and the paths in it that
do not belong to an array. -/
def assertRenderedMdCreateCommand (command : String) (expectedMembers : Nat) :
    Except HttpError Unit := do
  throwIf (statedMembers command ≠ some expectedMembers ∨ expectedMembers = 0)
    ⟨400, "Commande mdadm invalide : nombre de membres incohérent"⟩
  let memberCount := ((devicePathsIn none command.toList).filter fun path =>
    (afterLiteral "/dev/md" (String.ofList path)).isNone).length
  throwIf (memberCount ≠ expectedMembers) ⟨400, "Commande mdadm invalide : membres manquants"⟩

def buildMdCreateCommand (name level : String) (devices : List String) (chunkKb : Nat) :
    Except HttpError String := do
  let name ← sanitizeMdArrayName name
  let level ← sanitizeRaidLevel level
  let devices ← sanitizeMdMemberDevices devices
  let chunkKb ← sanitizeChunkKb chunkKb
  assertMdMemberCount level devices.length
  let command := s!"mdadm --create /dev/{name} --chunk={chunkKb} --level={level}" ++
    s!" --raid-devices={devices.length} --run " ++ join " " devices
  assertRenderedMdCreateCommand command devices.length
  return command

def expectedMdCreateConfirmation (name : String) : Except HttpError String := do
  let name ← sanitizeMdArrayName name
  return s!"CREATE {name}"

def buildMdAddDeviceCommand (arrayPath device : String) : Except HttpError String := do
  let arr ← if (afterLiteral "/dev/" arrayPath).isSome then pure arrayPath
    else (sanitizeMdArrayName arrayPath).map fun name => s!"/dev/{name}"
  let dev ← sanitizeDevicePath device
  return s!"mdadm {arr} --add {dev}"

def expectedMdAddSpareConfirmation (arrayName device : String) : Except HttpError String := do
  let name ← sanitizeMdArrayName arrayName
  let dev ← sanitizeDevicePath device
  return s!"ADD SPARE {name} {dev}"

def expectedMdAddReplacementConfirmation (arrayName device : String) :
    Except HttpError String := do
  let name ← sanitizeMdArrayName arrayName
  let dev ← sanitizeDevicePath device
  return s!"ADD REPLACEMENT {name} {dev}"

def expectedClusterAddMdMemberConfirmation (arrayName : String) (intent : MdAddMemberIntent) :
    Except HttpError String := do
  let kind := if intent = .spare then "SPARE" else "REPLACEMENT"
  let name ← sanitizeMdArrayName arrayName
  return s!"ADD MD MEMBER CLUSTER {kind} {name}"

theorem sanitizeMemberPath_eq_ok {dev path : String} (h : sanitizeMemberPath dev = .ok path) :
    isLowerDevicePath path = true ∧ (path = dev ∨ path.toList = "/dev/".toList ++ dev.toList) := by
  have hSafe {text : String} {error : HttpError}
      (hText : (if isLowerDevicePath text then Except.ok text else .error error) = .ok path) :
      isLowerDevicePath path = true ∧ path = text := by
    split at hText
    · rename_i hPath
      cases hText
      exact ⟨hPath, rfl⟩
    · cases hText
  unfold sanitizeMemberPath at h
  obtain ⟨hPath, rfl⟩ := hSafe h
  refine ⟨hPath, ?_⟩
  split
  · exact Or.inl rfl
  · exact Or.inr String.toList_append

theorem afterLiteral_of_isLowerDevicePath {path : String} (h : isLowerDevicePath path) :
    (afterLiteral "/dev/" path).isSome := by
  unfold isLowerDevicePath at h
  cases hRest : afterLiteral "/dev/" path with
  | none => simp [hRest] at h
  | some rest => rfl

theorem sanitizeMemberPath_self {path : String} (h : isLowerDevicePath path) :
    sanitizeMemberPath path = .ok path := by
  unfold sanitizeMemberPath
  rw [if_pos (afterLiteral_of_isLowerDevicePath h), if_pos h]

theorem isPathChar_of_isLowerDevicePath {path : String} (h : isLowerDevicePath path) :
    ∀ c ∈ path.toList, isPathChar c = true := by
  unfold isLowerDevicePath afterLiteral at h
  split at h
  · rename_i hPrefix
    obtain ⟨rest, hRest⟩ := List.isPrefixOf_iff_prefix.mp hPrefix
    rw [← hRest] at h ⊢
    simp only [List.drop_left, Option.any_some, Bool.and_eq_true, List.all_eq_true] at h
    intro c hc
    rcases List.mem_append.mp hc with hDev | hc
    · have hAll : "/dev/".toList.all isPathChar = true := by decide
      exact List.all_eq_true.mp hAll c hDev
    · exact h.2 c hc
  · cases h

theorem newline_notMem_of_isLowerDevicePath {path : String} (h : isLowerDevicePath path) :
    '\n' ∉ path.toList := by
  intro hMem
  exact absurd (isPathChar_of_isLowerDevicePath h _ hMem) (by decide)

end EsosWebui.Raid
