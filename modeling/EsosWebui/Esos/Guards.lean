import EsosWebui.Esos.Protection
import EsosWebui.Js.Throw
import Mathlib.Tactic.SplitIfs

/-! The guards of mount points and files of the ESOS system: the shared predicates, and the checks
that the server makes. -/
namespace EsosWebui.Esos

open Js

def isEsosProtectionDetectionFailed (snapshot : ProtectionSnapshot) : Bool :=
  snapshot.detectionFailed || snapshot.errors.length > 0

def isMountPointEsosProtected (mountPoint : Text) (snapshot : Option ProtectionSnapshot) : Bool :=
  let mp := trim mountPoint
  mp ≠ [] && (mp = ['/'] || esosOverlayMountPoints.contains mp ||
    snapshot.any (·.protectedMountPoints.contains mp))

/-- `path.split('/').pop() ?? ''` -/
def baseName (path : Text) : Text := ((path.splitOn '/').getLast?).getD []

/-- `path === p || path.startsWith(`p/`)` -/
def isOrIsUnder (p path : Text) : Bool := path = p || startsWith path (p ++ ['/'])

def isFilePathEsosProtected (filePath : Text) (snapshot : Option ProtectionSnapshot) : Bool :=
  let path := trim filePath
  path ≠ [] &&
    (snapshot.any (·.protectedFilePaths.any (isOrIsUnder · path)) ||
      squashRootFilePaths.any (isOrIsUnder · path) ||
      squashRootBasenames.contains (baseName path) ||
      (contains path "/mnt/root/".toList && endsWith (baseName path) ".sqsh".toList))

structure HttpError where
  statusCode : Nat
  statusMessage : Text

def detectionFailedMessage : Text :=
  ("Détection des volumes système ESOS indisponible" ++
    " — action destructive refusée par sécurité").toList

def assertEsosProtectionReliable (snapshot : ProtectionSnapshot) : Except HttpError Unit :=
  throwIf (snapshot.detectionFailed ∨ snapshot.errors.length > 0) ⟨503, detectionFailedMessage⟩

def esosProtectedError (protectedDevice : Text) : HttpError :=
  ⟨403, "Volume système ESOS protégé (".toList ++ protectedDevice ++ [')']⟩

def findProtectionForMountPoint (mountPoint : Text) (snapshot : ProtectionSnapshot) : Option Text :=
  if mountPoint ∈ snapshot.protectedMountPoints then
    some ((snapshot.protectedDevices.head?.map (·.protectedDevice)).getD mountPoint)
  else none

def assertMountPointNotEsosProtected (mountPoint : Text) (snapshot : ProtectionSnapshot) :
    Except HttpError Unit := do
  assertEsosProtectionReliable snapshot
  match findProtectionForMountPoint mountPoint snapshot with
  | some protectedDevice => .error (esosProtectedError protectedDevice)
  | none => return ()

def assertFilePathNotEsosProtected (filePath : Text) (snapshot : ProtectionSnapshot) :
    Except HttpError Unit := do
  assertEsosProtectionReliable snapshot
  if snapshot.protectedFilePaths.any (isOrIsUnder · filePath) then
    .error (esosProtectedError filePath)
  else
    throwIf (squashRootBasenames.any fun name =>
        endsWith filePath ('/' :: name) || contains filePath name)
      (esosProtectedError filePath)

/-- The names between the slashes of a path, without blanks around it. -/
def pathSegments (path : Text) : List Text := ((trim path).splitOn '/').filter (· ≠ [])

def isAbsolute (path : Text) : Bool := startsWith (trim path) ['/']

/-- Paths that differ in blanks around them and in doubled and trailing slashes. -/
def SamePath (s t : Text) : Prop :=
  isAbsolute s = isAbsolute t ∧ pathSegments s = pathSegments t

instance (s t : Text) : Decidable (SamePath s t) := inferInstanceAs (Decidable (_ ∧ _))

/-- The two kinds of strings that are guarded. -/
inductive Guarded where
  | mountPoint
  | filePath

namespace Guarded

variable (snapshot : ProtectionSnapshot)

def shown : Guarded → Text → Bool
  | mountPoint, s => isMountPointEsosProtected s (some snapshot)
  | filePath, s => isFilePathEsosProtected s (some snapshot)

def thrown : Guarded → Text → Bool
  | mountPoint, s => !(assertMountPointNotEsosProtected s snapshot).isOk
  | filePath, s => !(assertFilePathNotEsosProtected s snapshot).isOk

/-- The predicate and the check agree on a string, and it gets by neither when another spelling of
the same path does not. -/
structure Agrees (kind : Guarded) (s : Text) : Prop where
  same : kind.shown snapshot s = kind.thrown snapshot s
  shown_of_same : ∀ t, SamePath t s → kind.shown snapshot t = true → kind.shown snapshot s = true
  thrown_of_same : ∀ t, SamePath t s → kind.thrown snapshot t = true → kind.thrown snapshot s = true

end Guarded

def parentOfProtected : ProtectionReason :=
  ⟨.parentDiskOfProtected, "Périphérique parent du volume système ESOS".toList⟩

def findProtectionForBlockPath (path : Text) (snapshot : ProtectionSnapshot)
    (blockDevices : List BlockDevice) : Option ProtectedDevice :=
  let norm := normalizeBlockPath path
  let disk := resolveParentDiskPath norm blockDevices
  if norm ∉ snapshot.protectedBlockPaths ∧ disk ∉ snapshot.protectedDiskPaths then none
  else
    match snapshot.protectedDevices.find? (·.protectedDevice = disk) with
    | none =>
      some { protectedDevice := disk, reasons := [parentOfProtected], relatedBlockPaths := [norm] }
    | some entry => some entry

def assertBlockPathNotEsosProtected (path : Text) (snapshot : ProtectionSnapshot)
    (blockDevices : List BlockDevice) : Except HttpError Unit :=
  match findProtectionForBlockPath path snapshot blockDevices with
  | none => .ok ()
  | some info => .error (esosProtectedError info.protectedDevice)

def assertBlockPathNotEsosProtectedForDestructive (path : Text) (snapshot : ProtectionSnapshot)
    (blockDevices : List BlockDevice) : Except HttpError Unit := do
  assertEsosProtectionReliable snapshot
  assertBlockPathNotEsosProtected path snapshot blockDevices

theorem findProtectionForBlockPath_eq_none_iff {path : Text} {snapshot : ProtectionSnapshot}
    {blockDevices : List BlockDevice} :
    findProtectionForBlockPath path snapshot blockDevices = none ↔
      normalizeBlockPath path ∉ snapshot.protectedBlockPaths ∧
        resolveParentDiskPath (normalizeBlockPath path) blockDevices ∉
          snapshot.protectedDiskPaths := by
  simp only [findProtectionForBlockPath]
  split_ifs with hNot
  · exact iff_of_true rfl hNot
  · refine iff_of_false ?_ hNot
    split <;> exact Option.some_ne_none _

/-- A destructive action passes exactly if the detection worked and does not know the device. -/
theorem assertBlockPathNotEsosProtectedForDestructive_eq_ok {path : Text}
    {snapshot : ProtectionSnapshot} {blockDevices : List BlockDevice} {u : Unit} :
    assertBlockPathNotEsosProtectedForDestructive path snapshot blockDevices = .ok u ↔
      assertEsosProtectionReliable snapshot = .ok () ∧
        findProtectionForBlockPath path snapshot blockDevices = none := by
  simp only [assertBlockPathNotEsosProtectedForDestructive, bind_eq_ok,
    assertBlockPathNotEsosProtected]
  constructor
  · rintro ⟨_, hReliable, hPath⟩
    refine ⟨hReliable, ?_⟩
    cases hFind : findProtectionForBlockPath path snapshot blockDevices with
    | none => rfl
    | some info => simp [hFind] at hPath
  · rintro ⟨hReliable, hNone⟩
    exact ⟨(), hReliable, by rw [hNone]⟩

end EsosWebui.Esos
