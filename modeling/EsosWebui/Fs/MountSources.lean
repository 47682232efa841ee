import EsosWebui.Js.Json
import EsosWebui.Js.Lines
import EsosWebui.Js.OrderedMap
import EsosWebui.Js.ParseInt

/-! Where the overview of the file systems finds what is mounted: `findmnt`, as a tree or else as a
list, `lsblk` and `df`. -/
namespace EsosWebui.Fs

open Js

structure MountRow where
  target : Text
  source : Text
  fstype : Text

/-- `FileSystemMount['source']`, as far as the collector sets it. -/
inductive MountOrigin where
  | findmnt
  | lsblk
  | df
  deriving DecidableEq

def fsTypes : List Text :=
  ["xfs".toList, "ext4".toList, "ext3".toList, "ext2".toList, "btrfs".toList]

def isFsMountPath (mountPoint : Text) : Bool :=
  startsWith mountPoint ['/'] &&
    !(mountPoint == ['/'] || startsWith mountPoint "/proc".toList ||
      startsWith mountPoint "/sys".toList)

/-- The row of the first three words of a line. -/
def findmntColumns : List Text → Option MountRow
  | target :: source :: fstype :: _ =>
    if !isFsMountPath target then none
    else if !fsTypes.contains fstype && fstype != "auto".toList then none
    else some { target, source, fstype }
  | _ => none

def findmntLine (line : Text) : Option MountRow :=
  let t := trim line
  if t = [] ∨ startsWith t "TARGET".toList = true then none else findmntColumns (words t)

def parseFindmntLines (stdout : Text) : List MountRow := (lines stdout).filterMap findmntLine

/-- `fs[key]?.trim() ?? ''`; none when it throws. -/
def trimmedField (key : String) (fs : Json) : Option Text :=
  match fs with
  | .null => none
  | fs =>
    match fs.field key with
    | none => some []
    | some .null => some []
    | some (.string value) => some (trim value)
    | some _ => none

/-- What one element of the list adds; none when it throws. -/
def findmntElement (fs : Json) : Option (Option MountRow) := do
  let target ← trimmedField "target" fs
  let source ← trimmedField "source" fs
  let fstype ← trimmedField "fstype" fs
  if !isFsMountPath target then return none
  if fstype != [] && !fsTypes.contains fstype && fstype != "auto".toList then return none
  return some { target, source, fstype := if fstype = [] then "xfs".toList else fstype }

/-- The rows up to the first exception. The children of an element are not read. -/
def findmntElements : List Json → List MountRow
  | [] => []
  | fs :: rest =>
    match findmntElement fs with
    | none => []
    | some row => row.toList ++ findmntElements rest

def parseFindmntJson (stdout : Text) : List MountRow :=
  match (Json.parse stdout).bind (Json.field "filesystems") with
  | some (.array elements) => findmntElements elements
  | _ => []

/-- A block device with those that are stacked on it. -/
inductive BlockNode where
  | node (name : Text) (path mountpoint fstype : Option Text) (children : List BlockNode)

def blockRow (name : Text) (path mountpoint fstype : Option Text) : Option MountRow :=
  let mp := mountpoint.getD []
  let path := path.getD ("/dev/".toList ++ name)
  let fstype := fstype.getD []
  if mp != [] && isFsMountPath mp && fstype != [] && fsTypes.contains fstype then
    some { target := mp, source := path, fstype }
  else none

mutual

def walkLsblk : BlockNode → List MountRow
  | .node name path mountpoint fstype children =>
    (blockRow name path mountpoint fstype).toList ++ walkChildren children

def walkChildren : List BlockNode → List MountRow
  | [] => []
  | child :: rest => walkLsblk child ++ walkChildren rest

end

/-- Of the devices that `JSON.parse` gives; none when it throws. -/
def parseLsblkMounts (blockdevices : Option (List BlockNode)) : List MountRow :=
  walkChildren (blockdevices.getD [])

structure DfBytes where
  totalBytes : Number
  usedBytes : Number
  availBytes : Number

def parseDfBytesLine (line : Text) : Option DfBytes :=
  match words line with
  | _ :: total :: used :: avail :: _ =>
    if Number.parseIntText total = Number.nan then none
    else some
      { totalBytes := Number.parseIntText total
        usedBytes := Number.parseIntText used
        availBytes := Number.parseIntText avail }
  | _ => none

/-- The directories for disk images of which `df` tells a size, mounted or not. -/
def measuredRoots (vdiskMountRoots : List Text) (df : Text → Text) : List Text :=
  vdiskMountRoots.filter fun root =>
    (parseDfBytesLine (trim (df root))).any fun parsed => parsed.totalBytes.isPositive

def dfRow (root : Text) : MountRow := { target := root, source := root, fstype := "xfs".toList }

abbrev MountMap := OrderedMap Text (MountRow × MountOrigin)

def addRow (kind : MountOrigin) (map : MountMap) (row : MountRow) : MountMap :=
  if row.target ∈ map.keys then map else map.set row.target (row, kind)

def mergeMountSources (sources : List (List MountRow × MountOrigin)) : MountMap :=
  [MountOrigin.findmnt, .lsblk, .df].foldl
    (fun map kind =>
      match sources.find? (·.2 = kind) with
      | none => map
      | some block => block.1.foldl (addRow kind) map)
    OrderedMap.empty

def findmntRows (findmntJson findmntLo : Text) : List MountRow :=
  if parseFindmntJson findmntJson = [] then parseFindmntLines findmntLo
  else parseFindmntJson findmntJson

def collectMounts (findmntJson findmntLo : Text) (lsblk : Option (List BlockNode))
    (vdiskMountRoots : List Text) (df : Text → Text) : MountMap :=
  mergeMountSources
    [(findmntRows findmntJson findmntLo, .findmnt), (parseLsblkMounts lsblk, .lsblk),
      ((measuredRoots vdiskMountRoots df).map dfRow, .df)]

def rowAt (rows : List MountRow) (target : Text) : Option MountRow :=
  rows.find? (·.target = target)

variable {rows : List MountRow} {row : MountRow} {target : Text}

theorem mem_of_rowAt (h : rowAt rows target = some row) : row ∈ rows :=
  List.mem_of_find?_eq_some h

theorem target_of_rowAt (h : rowAt rows target = some row) : row.target = target := by
  simpa using List.find?_some h

theorem rowAt_cons (row : MountRow) (rows : List MountRow) (target : Text) :
    rowAt (row :: rows) target = if row.target = target then some row else rowAt rows target := by
  rw [rowAt, List.find?_cons]
  by_cases hTarget : row.target = target
  · simp [hTarget]
  · simp [hTarget, rowAt]

theorem rowAt_isSome (h : row ∈ rows) : ∃ first, rowAt rows row.target = some first :=
  Option.isSome_iff_exists.mp (List.find?_isSome.mpr ⟨row, h, by simp⟩)

theorem rowAt_congr {left right : List MountRow}
    (hAgree : ∀ l ∈ left, ∀ r ∈ right, l.target = r.target → l = r)
    (hLeft : ∀ l ∈ left, ∃ r ∈ right, r.target = l.target)
    (hRight : ∀ r ∈ right, ∃ l ∈ left, l.target = r.target) (target : Text) :
    rowAt left target = rowAt right target := by
  cases hl : rowAt left target with
  | none =>
    cases hr : rowAt right target with
    | none => rfl
    | some r =>
      obtain ⟨l, hMem, hSame⟩ := hRight r (mem_of_rowAt hr)
      obtain ⟨first, hFirst⟩ := rowAt_isSome hMem
      rw [hSame, target_of_rowAt hr, hl] at hFirst
      cases hFirst
  | some l =>
    obtain ⟨r, hMem, hSame⟩ := hLeft l (mem_of_rowAt hl)
    obtain ⟨first, hFirst⟩ := rowAt_isSome hMem
    rw [hSame, target_of_rowAt hl] at hFirst
    have hTargets : l.target = first.target :=
      (target_of_rowAt hl).trans (target_of_rowAt hFirst).symm
    rw [hFirst, hAgree l (mem_of_rowAt hl) first (mem_of_rowAt hFirst) hTargets]

theorem get_addRow (kind : MountOrigin) (map : MountMap) (row : MountRow) (target : Text) :
    (addRow kind map row).get target =
      (map.get target).or (if row.target = target then some (row, kind) else none) := by
  unfold addRow
  split_ifs with hKnown hTarget hTarget
  · obtain ⟨entry, hEntry⟩ := OrderedMap.mem_keys_iff_get.mp hKnown
    rw [← hTarget, hEntry, Option.some_or]
  · rw [Option.or_none]
  · rw [← hTarget, OrderedMap.get_set_self, OrderedMap.get_eq_none_iff.mpr hKnown, Option.none_or]
  · rw [OrderedMap.get_set_of_ne (Ne.symm hTarget), Option.or_none]

theorem get_addRows (kind : MountOrigin) (map : MountMap) (rows : List MountRow) (target : Text) :
    (rows.foldl (addRow kind) map).get target =
      (map.get target).or ((rowAt rows target).map fun row => (row, kind)) := by
  induction rows generalizing map with
  | nil => exact (Option.or_none).symm
  | cons row rows ih =>
    rw [List.foldl_cons, ih, get_addRow, Option.or_assoc, rowAt_cons]
    split_ifs <;> rfl

/-- What `lsblk` and `df` say of a target that `findmnt` does not show. -/
def otherAt (lsblk : Option (List BlockNode)) (vdiskMountRoots : List Text) (df : Text → Text)
    (target : Text) : Option (MountRow × MountOrigin) :=
  ((rowAt (parseLsblkMounts lsblk) target).map fun row => (row, .lsblk)).or
    ((rowAt ((measuredRoots vdiskMountRoots df).map dfRow) target).map fun row => (row, .df))

theorem get_collectMounts (findmntJson findmntLo : Text) (lsblk : Option (List BlockNode))
    (vdiskMountRoots : List Text) (df : Text → Text) (target : Text) :
    (collectMounts findmntJson findmntLo lsblk vdiskMountRoots df).get target =
      ((rowAt (findmntRows findmntJson findmntLo) target).map fun row =>
        (row, MountOrigin.findmnt)).or (otherAt lsblk vdiskMountRoots df target) := by
  have hMerge : collectMounts findmntJson findmntLo lsblk vdiskMountRoots df =
      ((measuredRoots vdiskMountRoots df).map dfRow).foldl (addRow .df)
        ((parseLsblkMounts lsblk).foldl (addRow .lsblk)
          ((findmntRows findmntJson findmntLo).foldl (addRow .findmnt) OrderedMap.empty)) := rfl
  rw [hMerge, get_addRows, get_addRows, get_addRows, OrderedMap.get_empty, Option.none_or,
    Option.or_assoc]
  rfl

theorem parseFindmntJson_nil : parseFindmntJson [] = [] := by decide

theorem parseFindmntLines_nil : parseFindmntLines [] = [] := by decide

theorem findmntRows_tree (findmntJson : Text) :
    findmntRows findmntJson [] = parseFindmntJson findmntJson := by
  unfold findmntRows
  split
  · rename_i hNone
    rw [hNone, parseFindmntLines_nil]
  · rfl

theorem findmntRows_list (findmntLo : Text) :
    findmntRows [] findmntLo = parseFindmntLines findmntLo := if_pos parseFindmntJson_nil

end EsosWebui.Fs
