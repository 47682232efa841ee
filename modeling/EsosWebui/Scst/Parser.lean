import EsosWebui.Scst.Types

/-! The parser of `scst.conf`: a stack of scopes, one line at a time. A line that
ends with an opening brace may open a scope; a line that is a closing brace
closes one. -/
namespace EsosWebui.Scst

open Js

namespace Keyword

def handler : Text := "HANDLER".toList
def targetDriver : Text := "TARGET_DRIVER".toList
def deviceGroup : Text := "DEVICE_GROUP".toList
def device : Text := "DEVICE".toList
def target : Text := "TARGET".toList
def targetGroup : Text := "TARGET_GROUP".toList
def group : Text := "GROUP".toList
def lun : Text := "LUN".toList
def initiator : Text := "INITIATOR".toList
def hwTarget : Text := "HW_TARGET".toList
def enabled : Text := "enabled".toList
def filename : Text := "filename".toList
def groupId : Text := "group_id".toList
def readOnly : Text := "read_only".toList

end Keyword

/-- The LUN that a `lun_attrs` scope refers to. -/
inductive LunRef where
  | ofTarget (d t l : Nat)
  | ofGroup (d t g l : Nat)
  deriving DecidableEq

/-- A scope of the file, with the position of the object it belongs to. -/
inductive ParserContext where
  | root
  | handler (h : Nat)
  | driver (d : Nat)
  | deviceGroup (g : Nat)
  | device (h d : Nat)
  | target (d t : Nat)
  | aluaTargetGroup (g t : Nat)
  | group (d t g : Nat)
  | lunAttrs (lun : LunRef)
  deriving DecidableEq

def ScstConfig.modifyLun (c : ScstConfig) (f : Lun → Lun) : LunRef → ScstConfig
  | .ofTarget d t l => c.modifyTarget d t (Target.modifyLun l f)
  | .ofGroup d t g l => c.modifyGroup d t g (Group.modifyLun l f)

/-- The stack of scopes is never empty: `top` is its last element and `below`
holds the others, the innermost first. -/
structure ParserState where
  config : ScstConfig
  top : ParserContext
  below : List ParserContext

/-- What a line does in its scope: the configuration after it, and the scope it opens. -/
abbrev LineResult := ScstConfig × Option ParserContext

def opens (line : Text) (ctx : ParserContext) : Option ParserContext :=
  if endsWithBrace line then some ctx else none

def rootLine (c : ScstConfig) (line : Text) : LineResult :=
  match blockName Keyword.handler (words line) with
  | some name =>
    ({ c with handlers := c.handlers ++ [{ name := name, devices := [] }] },
      opens line (.handler c.handlers.length))
  | none =>
    match blockName Keyword.targetDriver (words line) with
    | some name =>
      ({ c with drivers := c.drivers ++ [{ name := name, enabled := true, targets := [] }] },
        opens line (.driver c.drivers.length))
    | none =>
      match blockName Keyword.deviceGroup (words line) with
      | some name =>
        ({ c with
            deviceGroups :=
              c.deviceGroups ++ [{ name := name, devices := [], targetGroups := [] }] },
          opens line (.deviceGroup c.deviceGroups.length))
      | none => (c, none)

def handlerLine (h : Nat) (c : ScstConfig) (line : Text) : LineResult :=
  match blockName Keyword.device (words line) with
  | some name =>
    (c.modifyHandler h fun x =>
        x.addDevice { name := name, handler := x.name, filename := [], attrs := .empty },
      opens line (.device h (c.deviceCount h)))
  | none => (c, none)

def driverLine (d : Nat) (c : ScstConfig) (line : Text) : LineResult :=
  match soleDigit Keyword.enabled (words line) with
  | some digit => (c.modifyDriver d fun x => { x with enabled := digit == '1' }, none)
  | none =>
    match blockName Keyword.target (words line) with
    | some name =>
      (c.modifyDriver d fun x =>
          x.addTarget
            { name := name, driver := x.name, enabled := true, hwTarget := false,
              attrs := .empty, groups := [], luns := [] },
        opens line (.target d (c.targetCount d)))
    | none => (c, none)

def deviceGroupLine (g : Nat) (c : ScstConfig) (line : Text) : LineResult :=
  match soleWord Keyword.device (words line) with
  | some name => (c.modifyDeviceGroup g fun x => { x with devices := x.devices ++ [name] }, none)
  | none =>
    match blockName Keyword.targetGroup (words line) with
    | some name =>
      (c.modifyDeviceGroup g fun x =>
          x.addTargetGroup { name := name, groupId := .int 0, targets := [] },
        opens line (.aluaTargetGroup g (c.targetGroupCount g)))
    | none => (c, none)

/-- The attribute line of a device: `filename` has a field of its own. -/
def Device.readAttr (line : Text) (x : Device) : Device :=
  match keyValue line with
  | some (key, value) =>
    if key = Keyword.filename then { x with filename := unquote (trim value) }
    else { x with attrs := x.attrs.set key (unquote (trim value)) }
  | none => x

def deviceLine (h d : Nat) (c : ScstConfig) (line : Text) : LineResult :=
  (c.modifyHandler h (Handler.modifyDevice d (Device.readAttr line)), none)

def Target.readAttr (line : Text) (x : Target) : Target :=
  match keyValue line with
  | some (key, value) => { x with attrs := x.attrs.set key (unquote (trim value)) }
  | none => x

def newLun (digits device : Text) : Lun :=
  { id := Number.parseInt digits, device := device, readOnly := false, attrs := .empty }

def targetLine (d t : Nat) (c : ScstConfig) (line : Text) : LineResult :=
  if line = Keyword.hwTarget then
    (c.modifyTarget d t fun x => { x with hwTarget := true }, none)
  else
    match soleDigit Keyword.enabled (words line) with
    | some digit => (c.modifyTarget d t fun x => { x with enabled := digit == '1' }, none)
    | none =>
      match blockName Keyword.group (words line) with
      | some name =>
        (c.modifyTarget d t (Target.addGroup { name := name, initiators := [], luns := [] }),
          opens line (.group d t (c.groupCount d t)))
      | none =>
        match numberedBlock Keyword.lun (words line) with
        | some (digits, device) =>
          (c.modifyTarget d t (Target.addLun (newLun digits device)),
            opens line (.lunAttrs (.ofTarget d t (c.targetLunCount d t))))
        | none => (c.modifyTarget d t (Target.readAttr line), none)

def aluaTargetGroupLine (g t : Nat) (c : ScstConfig) (line : Text) : LineResult :=
  match soleDigits Keyword.groupId (words line) with
  | some digits =>
    (c.modifyDeviceGroup g (AluaDeviceGroupConfig.modifyTargetGroup t fun x =>
        { x with groupId := Number.parseInt digits }), none)
  | none =>
    match soleWord Keyword.target (words line) with
    | some name =>
      (c.modifyDeviceGroup g (AluaDeviceGroupConfig.modifyTargetGroup t fun x =>
          { x with targets := x.targets ++ [name] }), none)
    | none => (c, none)

def groupLine (d t g : Nat) (c : ScstConfig) (line : Text) : LineResult :=
  match soleWord Keyword.initiator (words line) with
  | some name => (c.modifyGroup d t g (Group.addInitiator name), none)
  | none =>
    match numberedBlock Keyword.lun (words line) with
    | some (digits, device) =>
      (c.modifyGroup d t g (Group.addLun (newLun digits device)),
        opens line (.lunAttrs (.ofGroup d t g (c.groupLunCount d t g))))
    | none => (c, none)

/-- The attribute line of a LUN: `read_only 1` has a field of its own. -/
def Lun.readAttr (line : Text) (x : Lun) : Lun :=
  if soleWord Keyword.readOnly (words line) = some ['1'] then { x with readOnly := true }
  else
    match keyValue line with
    | some (key, value) => { x with attrs := x.attrs.set key (unquote (trim value)) }
    | none => x

def lunAttrsLine (lun : LunRef) (c : ScstConfig) (line : Text) : LineResult :=
  (c.modifyLun (Lun.readAttr line) lun, none)

/-- The line read in the innermost scope. -/
def contextLine : ParserContext → ScstConfig → Text → LineResult
  | .root => rootLine
  | .handler h => handlerLine h
  | .driver d => driverLine d
  | .deviceGroup g => deviceGroupLine g
  | .device h d => deviceLine h d
  | .target d t => targetLine d t
  | .aluaTargetGroup g t => aluaTargetGroupLine g t
  | .group d t g => groupLine d t g
  | .lunAttrs lun => lunAttrsLine lun

namespace ParserState

/-- `{ level: 0 }` and an empty configuration. -/
def initial : ParserState := ⟨.empty, .root, []⟩

/-- `if (stack.length > 1) stack.pop()` -/
def pop (st : ParserState) : ParserState :=
  match st.below with
  | [] => st
  | ctx :: below => ⟨st.config, ctx, below⟩

/-- The effect of a line that is neither skipped nor a closing brace. -/
def readLine (st : ParserState) (line : Text) : ParserState :=
  let result := contextLine st.top st.config line
  match result.2 with
  | some ctx => ⟨result.1, ctx, st.top :: st.below⟩
  | none => ⟨result.1, st.top, st.below⟩

def step (st : ParserState) (rawLine : Text) : ParserState :=
  let line := trim rawLine
  if line = [] ∨ line.head? = some '#' then st
  else if line = closeBrace then st.pop
  else st.readLine line

def run (st : ParserState) (lines : List Text) : ParserState := lines.foldl step st

end ParserState

def parseScstConf (raw : Text) : ScstConfig := (ParserState.initial.run (raw.splitOn '\n')).config

/-- The tolerant wrapper of the readers; the parser itself never throws. -/
def parseScstConfSafe (raw : Text) : ScstConfig :=
  if trim raw = [] then .empty else parseScstConf raw

def attrLines (tabs : Nat) (attrs : Record Text) : List Text :=
  attrs.entries.map fun e => templateLine tabs [e.1, e.2]

def Device.lines (x : Device) : List Text :=
  [templateLine 1 [Keyword.device, x.name, openBrace]] ++
    (if x.filename = [] then [] else [templateLine 2 [Keyword.filename, x.filename]]) ++
    attrLines 2 x.attrs ++ [templateLine 1 [closeBrace]]

def Handler.lines (x : Handler) : List Text :=
  [templateLine 0 [Keyword.handler, x.name, openBrace]] ++ x.devices.flatMap Device.lines ++
    [templateLine 0 [closeBrace], []]

/-- A LUN at a depth; only its `read_only` attribute is written. -/
def Lun.lines (tabs : Nat) (x : Lun) : List Text :=
  if x.readOnly then
    [templateLine tabs [Keyword.lun, x.id.toText, x.device, openBrace],
      templateLine (tabs + 1) [Keyword.readOnly, ['1']], templateLine tabs [closeBrace]]
  else [templateLine tabs [Keyword.lun, x.id.toText, x.device]]

def Group.lines (x : Group) : List Text :=
  [templateLine 2 [Keyword.group, x.name, openBrace]] ++
    x.initiators.map (fun i => templateLine 3 [Keyword.initiator, i]) ++
    x.luns.flatMap (Lun.lines 3) ++ [templateLine 2 [closeBrace]]

def Target.lines (x : Target) : List Text :=
  [templateLine 1 [Keyword.target, x.name, openBrace]] ++
    (if x.hwTarget then [templateLine 2 [Keyword.hwTarget]] else []) ++
    (if x.enabled then [] else [templateLine 2 [Keyword.enabled, ['0']]]) ++
    attrLines 2 x.attrs ++ x.groups.flatMap Group.lines ++ x.luns.flatMap (Lun.lines 2) ++
    [templateLine 1 [closeBrace]]

def Driver.lines (x : Driver) : List Text :=
  [templateLine 0 [Keyword.targetDriver, x.name, openBrace]] ++
    (if x.enabled then [] else [templateLine 1 [Keyword.enabled, ['0']]]) ++
    x.targets.flatMap Target.lines ++ [templateLine 0 [closeBrace], []]

def AluaTargetGroupConfig.lines (x : AluaTargetGroupConfig) : List Text :=
  [templateLine 1 [Keyword.targetGroup, x.name, openBrace]] ++
    (if x.groupId.isPositive then [templateLine 2 [Keyword.groupId, x.groupId.toText]] else []) ++
    x.targets.map (fun t => templateLine 2 [Keyword.target, t]) ++ [templateLine 1 [closeBrace]]

def AluaDeviceGroupConfig.lines (x : AluaDeviceGroupConfig) : List Text :=
  [templateLine 0 [Keyword.deviceGroup, x.name, openBrace]] ++
    x.devices.map (fun d => templateLine 1 [Keyword.device, d]) ++
    x.targetGroups.flatMap AluaTargetGroupConfig.lines ++ [templateLine 0 [closeBrace], []]

def ScstConfig.lines (c : ScstConfig) : List Text :=
  c.handlers.flatMap Handler.lines ++ c.drivers.flatMap Driver.lines ++
    c.deviceGroups.flatMap AluaDeviceGroupConfig.lines

def serializeScstConfig (config : ScstConfig) : Text := ['\n'].intercalate config.lines

end EsosWebui.Scst
