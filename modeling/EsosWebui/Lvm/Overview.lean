import EsosWebui.Lvm.NodeScan
import EsosWebui.Scst.Parser

/-! The reports of the LVM commands in JSON. A function that throws gives nothing. -/
namespace EsosWebui.Lvm

open Js

/-- The sections of `parsed.report`, or nothing where it is none that can be looped over. -/
def reportBlocks (parsed : Json) : Option (List Json) :=
  match parsed with
  | .null => none
  | _ =>
    match parsed.field "report" with
    | none | some .null => some []
    | some (.array blocks) => some blocks
    | some (.string _) => some []
    | some _ => none

/-- The rows of a section in the blocks of a report; a block that is `null` throws. -/
def sectionRows (section_ : String) (blocks : List Json) : Option (List Json) :=
  (blocks.mapM fun (block : Json) =>
    match block with
    | .null => none
    | _ =>
      match block.field section_ with
      | some (.array rows) => some rows
      | _ => some []).map List.flatten

def rowsFromReport (jsonText : Text) (section_ : String) : List Json :=
  if trim jsonText = [] then []
  else (((Json.parse jsonText).bind reportBlocks).bind (sectionRows section_)).getD []

/-- `String(row[key] ?? '').trim()` -/
def str (row : Json) (key : String) : Option Text :=
  match row with
  | .null => none
  | _ =>
    match row.field key with
    | none | some .null => some []
    | some value => some (trim value.toText)

/-- A size or a count; nothing but a decimal numeral stands for one. -/
def num (row : Json) (key : String) : Nat :=
  let text := ((row.field key).map Json.toText).getD []
  if isDigits text then Nat.ofDigitChars 10 text 0 else 0

structure ParsedPv where
  path : Text
  vgName : Text
  deriving DecidableEq

structure ParsedVg where
  name : Text
  freeBytes : Nat
  pvCount : Nat
  clustered : Bool
  deriving DecidableEq

structure ParsedLvRow where
  name : Text
  vgName : Text
  lvPath : Text
  lvDmPath : Text
  sizeBytes : Nat
  deriving DecidableEq

def parsePvsJson (jsonText : Text) : Option (List ParsedPv) := do
  let rows ← (rowsFromReport jsonText "pv").mapM fun row => do
    return ⟨← str row "pv_name", ← str row "vg_name"⟩
  return rows.filter fun r => r.path ≠ []

def parseVgsJson (jsonText : Text) : Option (List ParsedVg) := do
  let rows ← (rowsFromReport jsonText "vg").mapM fun row => do
    let clustered ← str row "vg_clustered"
    return {
      name := ← str row "vg_name"
      freeBytes := num row "vg_free"
      pvCount := num row "pv_count"
      clustered := clustered = "yes".toList || clustered = "1".toList }
  return rows.filter fun r => r.name ≠ []

structure LvNames where
  vgName : Text
  lvName : Text

/-- The parts of a full name around its first slash; the second one alone without a slash. -/
def splitFullName (full : Text) : Text × Text :=
  if '/' ∈ full then (full.takeWhile (· ≠ '/'), (full.dropWhile (· ≠ '/')).drop 1) else ([], full)

/-- The names of a volume, from its own and its full name. The group's name stands in a pattern,
where it is read literally here. -/
def normalizeLvNames (vgName lvName full : Text) : LvNames :=
  let names : LvNames :=
    if lvName = [] ∧ full ≠ [] then
      ⟨if vgName ≠ [] then vgName else (splitFullName full).1, (splitFullName full).2⟩
    else ⟨vgName, lvName⟩
  let names : LvNames :=
    if '/' ∈ names.lvName ∧ names.vgName = [] then
      match (names.lvName.splitOn '/').filter (· ≠ []) with
      | first :: second :: rest => ⟨first, ['/'].intercalate (second :: rest)⟩
      | _ => names
    else names
  if names.lvName = [] ∧ names.vgName ≠ [] ∧ full ≠ [] then
    let start := names.vgName ++ ['/']
    { names with lvName := if start.isPrefixOf full then full.drop start.length else full }
  else names

def parseLvsJson (jsonText : Text) : Option (List ParsedLvRow) := do
  let rows ← (rowsFromReport jsonText "lv").mapM fun row => do
    let names := normalizeLvNames (← str row "vg_name") (← str row "lv_name")
      (← str row "lv_full_name")
    return {
      name := names.lvName
      vgName := names.vgName
      lvPath := ← str row "lv_path"
      lvDmPath := ← str row "lv_dm_path"
      sizeBytes := num row "lv_size" : ParsedLvRow }
  return rows.filter fun r => r.name ≠ [] ∧ r.vgName ≠ []

def lvmMapperSegment (name : Text) : Text :=
  name.flatMap fun c => if c = '-' then ['-', '-'] else [c]

def lvmMapperDevicePath (vgName lvName : Text) : Text :=
  "/dev/mapper/".toList ++ lvmMapperSegment vgName ++ '-' :: lvmMapperSegment lvName

def buildLvPathCandidates (vgName lvName lvPath lvDmPath : Text) : List Text :=
  unique (([lvPath, lvDmPath, lvmMapperDevicePath vgName lvName,
    "/dev/".toList ++ vgName ++ '/' :: lvName].map trim).filter (startsWith · ['/']))

def pickLvBackingPath (raw : ParsedLvRow) : Text :=
  let candidates := buildLvPathCandidates raw.vgName raw.name raw.lvPath raw.lvDmPath
  let lvPath := trim raw.lvPath
  let lvDmPath := trim raw.lvDmPath
  if startsWith lvDmPath "/dev/".toList then lvDmPath
  else if startsWith lvPath "/dev/".toList then lvPath
  else ((candidates.find? (startsWith · "/dev/mapper/".toList)).or candidates.getLast?).getD
    (lvmMapperDevicePath raw.vgName raw.name)

/-- The names of the devices that are known, and those of each path. -/
structure ScstDeviceIndex where
  /-- The devices in the order in which they are added, with their file if they have one. -/
  devices : List (Text × Option Text) := []

namespace ScstDeviceIndex

def addDevice (index : ScstDeviceIndex) (name filename : Text) : ScstDeviceIndex :=
  let file := trim filename
  ⟨index.devices ++ [(name, if file = [] then none else some file)]⟩

/-- `pathToDevices.get(path) ?? []` -/
def devicesOf (index : ScstDeviceIndex) (path : Text) : List Text :=
  unique ((index.devices.filter (·.2 = some path)).map (·.1))

end ScstDeviceIndex

/-- A line `name|filename` of what is printed of the live devices. -/
def addSysfsLine (index : ScstDeviceIndex) (line : Text) : ScstDeviceIndex :=
  let trimmed := trim line
  let name := trimmed.takeWhile (· ≠ '|')
  if trimmed = [] ∨ name = [] then index
  else index.addDevice name ((trimmed.dropWhile (· ≠ '|')).drop 1)

def readScstDeviceIndex (conf sysfs : Text) : ScstDeviceIndex :=
  let configured := (Scst.parseScstConfSafe conf).handlers.flatMap (·.devices)
  let index := configured.foldl (fun index d => index.addDevice d.name d.filename) {}
  (sysfs.splitOn '\n').foldl addSysfsLine index

def scstFilenamesByPath (conf sysfs : Except String Text) : ScstDeviceIndex :=
  match conf, sysfs with
  | .ok conf, .ok sysfs => readScstDeviceIndex conf sysfs
  | _, _ => {}

/-- `/^===(\w+)===$/` -/
def sectionName (line : Text) : Option Text :=
  let bar := "===".toList
  let name := (line.drop 3).take (line.length - 6)
  if line = bar ++ name ++ bar ∧ name ≠ [] ∧ (name.all fun c => c.isAlphanum || c = '_') = true then
    some name
  else none

structure SectionState where
  current : Text := []
  sections : List (Text × Text) := []

def SectionState.text (st : SectionState) (name : Text) : Option Text := st.sections.lookup name

def SectionState.set (st : SectionState) (name text : Text) : SectionState :=
  ⟨name, (name, text) :: st.sections.filter (·.1 ≠ name)⟩

def SectionState.step (st : SectionState) (line : Text) : SectionState :=
  match sectionName line with
  | some name => st.set name []
  | none =>
    if st.current = [] then st
    else
      let text := (st.text st.current).getD []
      st.set st.current (text ++ (if text = [] then [] else ['\n']) ++ line)

def splitSections (stdout : Text) : SectionState := (stdout.splitOn '\n').foldl SectionState.step {}

def parseTools (raw : Text) : LvmToolsInfo :=
  let found := (raw.splitOn '\n').map trim
  { pvcreate := found.contains "pvcreate".toList
    vgcreate := found.contains "vgcreate".toList
    lvcreate := found.contains "lvcreate".toList
    clvmd := found.contains "clvmd".toList }

/-- What the scan of the block devices comes to; nothing when it fails. -/
structure RaidScan where
  rows : List ScannedDevice := []
  mdArrays : List Raid.MdArray := []
  hardwareControllers : List Raid.Inventory.HardwareController := []
  hasRaidCliTool : Bool := false
  systemProtection : Esos.ProtectionSnapshot := {}

/-- What the probes of a scan come to: the output of the LVM commands, what is printed of the SCST
devices, or that their command failed, and the block devices. -/
structure LvmProbes where
  sanId : String
  label : String
  lvm : Text
  scstConf : Except String Text
  scstSysfs : Except String Text
  raid : RaidScan := {}

namespace LvmProbes

variable (probes : LvmProbes)

/-- `sections.X ?? fallback` -/
def sectionText (name fallback : String) : Text :=
  ((splitSections probes.lvm).text name.toList).getD fallback.toList

def tools : LvmToolsInfo := parseTools (probes.sectionText "TOOLS" "")

def index : ScstDeviceIndex := scstFilenamesByPath probes.scstConf probes.scstSysfs

def scstDeviceNames (raw : ParsedLvRow) : List Text :=
  unique ((buildLvPathCandidates raw.vgName raw.name raw.lvPath raw.lvDmPath).flatMap
    probes.index.devicesOf)

/-- `blockByPath.get(path)` -/
def blockByPath (path : Text) : Option ScannedDevice :=
  probes.raid.rows.reverse.find? fun row => row.path.toList = path

def blockOf (raw : ParsedLvRow) : Option ScannedDevice :=
  (probes.blockByPath (pickLvBackingPath raw)).or
    ((buildLvPathCandidates raw.vgName raw.name raw.lvPath raw.lvDmPath).findSome?
      probes.blockByPath)

def mapParsedLvToLogicalVolume (raw : ParsedLvRow) : LogicalVolume :=
  { name := String.ofList raw.name
    vgName := String.ofList raw.vgName
    sizeBytes := raw.sizeBytes
    usedBy :=
      (if probes.scstDeviceNames raw ≠ [] then [.scst] else []) ++
        if (probes.blockOf raw).any (fun row => isSet row.mountpoint) then [.mounted] else [] }

def lvPaths (raw : ParsedLvRow) : List Text :=
  pickLvBackingPath raw :: buildLvPathCandidates raw.vgName raw.name raw.lvPath raw.lvDmPath

/-- What the report of the physical volumes is read as; an empty one if there is none. -/
def pvsReport : Option (List ParsedPv) :=
  parsePvsJson (probes.sectionText "PVS_JSON" "\x7b\x7d")

def vgsReport : Option (List ParsedVg) :=
  parseVgsJson (probes.sectionText "VGS_JSON" "\x7b\x7d")

def lvsReport : Option (List ParsedLvRow) :=
  parseLvsJson (probes.sectionText "LVS_JSON" "\x7b\x7d")

def scanOf (pvs : List ParsedPv) (vgs : List ParsedVg) (lvs : List ParsedLvRow) : NodeScan :=
  { sanId := probes.sanId
    label := probes.label
    tools := probes.tools
    pvs := pvs.map fun pv => ⟨String.ofList pv.path, String.ofList pv.vgName⟩
    vgs := vgs.map fun vg => ⟨String.ofList vg.name, vg.freeBytes, vg.pvCount, vg.clustered⟩
    lvs := lvs.map probes.mapParsedLvToLogicalVolume
    lvPaths := (lvs.flatMap lvPaths).map String.ofList
    rows := probes.raid.rows
    mdArrays := probes.raid.mdArrays
    hardwareControllers := probes.raid.hardwareControllers
    hasRaidCliTool := probes.raid.hasRaidCliTool
    systemProtection := probes.raid.systemProtection }

def collectLvmOverview : Option NodeScan := do
  let pvs ← probes.pvsReport
  let vgs ← probes.vgsReport
  let lvs ← probes.lvsReport
  return probes.scanOf pvs vgs lvs

end LvmProbes

end EsosWebui.Lvm
