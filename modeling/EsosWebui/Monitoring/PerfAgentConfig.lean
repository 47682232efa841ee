import EsosWebui.Js.ParseInt
import EsosWebui.Js.Record
import EsosWebui.Js.RegExp
import EsosWebui.Js.Utf8
import EsosWebui.SystemConfig.ConfigReads

/-! The configuration of the performance agent: how it is read, checked and written, and whether
what the request for a change reports is what was saved. -/
namespace EsosWebui.Monitoring

open Js
open Ssh (RemoteFile ConfigFaults Closing configLines execLines)
open SystemConfig (indexOf)

inductive DbType where
  | postgres
  | mysql
  | unknown
  deriving DecidableEq

structure PerfAgentConfig where
  dburiMasked : Text
  dbType : DbType
  dbHost : Text
  dbName : Text
  system : Text
  hostAddress : Text
  pollingIntervalSec : Number
  blockDevices : List Text
  rawExists : Bool
  updatedAt : Int
  deriving DecidableEq

structure PerfAgentConfigUpdate where
  dburi : Option Text := none
  system : Text
  hostAddress : Option Text := none
  pollingIntervalSec : Number
  blockDevices : List Text

def settingOn (line : Text) : Option (Text × Text) :=
  let trimmed := trim line
  if trimmed = [] ∨ startsWith trimmed ['#'] then none
  else if '=' ∈ trimmed then
    some (trim (trimmed.takeWhile (· ≠ '=')), trim ((trimmed.dropWhile (· ≠ '=')).drop 1))
  else none

def parseConFile (content : Text) : Record Text :=
  Record.ofEntries ((lines content).filterMap settingOn)

/-- `raw[key] ?? missing` -/
def setting (raw : Record Text) (key : String) (missing : Text := []) : Text :=
  (raw.entries.lookup key.toList).getD missing

def maskDbUri (dburi : Text) : Text :=
  match indexOf "://".toList dburi with
  | none => dburi
  | some schemeIdx =>
    let scheme := dburi.take (schemeIdx + 3)
    let rest := dburi.drop (schemeIdx + 3)
    let creds := (rest.rdropWhile (· ≠ '@')).dropLast
    if '@' ∉ rest ∨ ':' ∉ creds then dburi
    else
      scheme ++ creds.takeWhile (· ≠ ':') ++ ":********@".toList ++ rest.rtakeWhile (· ≠ '@')

/-- `/^(postgres(ql)?):\/\//i` and `/^mysql:\/\//i` -/
def detectDbType (dburi : Text) : DbType :=
  let lower := dburi.map Char.toLower
  if startsWith lower "postgres://".toList || startsWith lower "postgresql://".toList then .postgres
  else if startsWith lower "mysql://".toList then .mysql
  else .unknown

/-- `text.match(pattern)?.[1] ?? ''` -/
def firstGroup (pattern : RegExp) (text : Text) : Text :=
  ((pattern.match text).bind (·.head?)).getD []

/-- `/@([^/]+)\//` -/
def extractDbHost : Text → Text :=
  firstGroup (.chain [.literal ['@'], .group (.plus (· ≠ '/')), .literal ['/']])

/-- `/\/([^/?]+)\s*$/` -/
def extractDbName : Text → Text :=
  firstGroup (.chain [.literal ['/'], .group (.plus fun c => c ≠ '/' && c ≠ '?'), .star isSpace,
    .stop false])

/-- `---EXISTS:(\d+)$` -/
def existsPattern : RegExp :=
  .chain [.literal "---EXISTS:".toList, .group (.plus Char.isDigit), .stop false]

/-- The text before `---EXISTS:\d+\n?$`. -/
def contentPattern : RegExp :=
  .chain [.group (.starLazy fun _ => true), .literal "---EXISTS:".toList, .plus Char.isDigit,
    .either (.literal ['\n']) (.literal []), .stop false]

/-- `cat file 2>/dev/null; echo "---EXISTS:$?"` -/
def catOutput (file : Option Bytes) : Text :=
  let status := if file.isSome then ['0'] else ['1']
  Utf8.decode (file.getD [] ++ utf8 ("---EXISTS:".toList ++ status ++ ['\n']))

def readPerfAgentConfig (file : Option Bytes) (now : Int) : PerfAgentConfig :=
  let stdout := catOutput file
  let raw := parseConFile (((contentPattern.match stdout).bind (·.head?)).getD stdout)
  let dburi := setting raw "DBURI"
  let interval := Number.parseIntText (setting raw "PollingInterval" ['5'])
  { dburiMasked := maskDbUri dburi
    dbType := detectDbType dburi
    dbHost := extractDbHost dburi
    dbName := extractDbName dburi
    system := setting raw "System"
    hostAddress := setting raw "HostAddress"
    pollingIntervalSec := if interval = .int 0 ∨ interval = Number.nan then .int 5 else interval
    blockDevices := words (setting raw "BlockDevices")
    rawExists := firstGroup existsPattern stdout = ['0']
    updatedAt := now }

/-- `[cC]` for each character of a word. -/
def anyCase (word : String) : List RegExp :=
  word.toList.map fun letter => .one fun c => c.toLower = letter.toLower

/-- `/^DBURI\s*=\s*(.+)$/im` -/
def dbUriPattern : RegExp :=
  .chain (.start true :: anyCase "DBURI" ++
    [.star isSpace, .literal ['='], .star isSpace, .group (.plus RegExp.dot), .stop true])

/-- `grep -i "^DBURI" file 2>/dev/null | head -1` -/
def grepOutput (file : Option Bytes) : Text :=
  let found := (lines (Utf8.decode (file.getD []))).find? fun line =>
    startsWith (line.map Char.toLower) "dburi".toList
  found.elim [] (· ++ ['\n'])

def readRawDbUri (file : Option Bytes) : Text := trim (firstGroup dbUriPattern (grepOutput file))

structure HttpError where
  statusCode : Nat
  message : Text
  deriving DecidableEq

/-- `[-a-zA-Z0-9_./]` -/
def isDeviceChar (c : Char) : Bool := c.isAlphanum || "_./-".toList.contains c

def validatePerfAgentConfigUpdate (body : PerfAgentConfigUpdate) (hasExistingDbUri : Bool) :
    Except HttpError Unit := do
  let refuse (refused : Bool) (message : Text) : Except HttpError Unit :=
    throwIf (refused = true) ⟨400, message⟩
  refuse (trim body.system = []) "system est requis".toList
  refuse (body.system.any (";&|`$\\".toList.contains ·))
    "system contient des caractères interdits".toList
  refuse (match body.pollingIntervalSec with | .int v => v < 5 || 300 < v | _ => true)
    "pollingIntervalSec doit être entre 5 et 300".toList
  refuse (body.blockDevices = []) "blockDevices ne peut pas être vide".toList
  body.blockDevices.forM fun d =>
    refuse (d = [] || !d.all isDeviceChar) ("Nom de device invalide: ".toList ++ d)
  match body.dburi.filter (· ≠ []) with
  | some dburi =>
    refuse (detectDbType dburi = .unknown)
      "dburi doit commencer par postgres://, postgresql:// ou mysql://".toList
  | none => refuse (!hasExistingDbUri) "dburi requis (aucune configuration existante)".toList

/-- `d.replace(/^\/dev\//, '')` -/
def withoutDev (d : Text) : Text := if startsWith d "/dev/".toList then d.drop 5 else d

def conFile (update : PerfAgentConfigUpdate) (existingDbUri : Text) : Text :=
  let blockDevices := [' '].intercalate
    ((update.blockDevices.map fun d => (withoutDev d).filter isDeviceChar).filter (· ≠ []))
  joinLines
    ["DBURI = ".toList ++ update.dburi.getD existingDbUri, "System = ".toList ++ update.system,
      "HostAddress = ".toList ++ update.hostAddress.getD [],
      "PollingInterval = ".toList ++ update.pollingIntervalSec.toText,
      "BlockDevices = ".toList ++ blockDevices] ++ ['\n']

def perfAgentConf : Text := "/etc/perf-agent.con".toList

/-- The answer to the script is dropped, unless the execution is rejected. -/
def writePerfAgentConfig (update : PerfAgentConfigUpdate) (existingDbUri delimiter : Text)
    (faults : ConfigFaults) (closing : Closing) (file : RemoteFile) :
    RemoteFile × Except Text Unit :=
  let content := conFile update existingDbUri
  let (after, answer) :=
    execLines (configLines ⟨perfAgentConf, content, delimiter, true⟩ faults true) closing file
  (after, answer.map fun _ => ())

/-- The handler of the request, whose reading commands print all of their output. -/
def patchConfig (ready : Bool) (body : PerfAgentConfigUpdate) (delimiter : Text)
    (faults : ConfigFaults) (closing : Closing) (now : Int) (file : RemoteFile) :
    RemoteFile × Except HttpError PerfAgentConfig :=
  let existingDbUri := readRawDbUri file.target
  match (do throwIf (ready = false) ⟨503, "SSH non connecté".toList⟩
            validatePerfAgentConfigUpdate body (existingDbUri ≠ []) : Except HttpError Unit) with
  | .error error => (file, .error error)
  | .ok () =>
    let (after, written) :=
      writePerfAgentConfig body existingDbUri delimiter faults closing file
    (after, do
      written.mapError fun message => ⟨500, message⟩
      return readPerfAgentConfig after.target now)

/-- The database that the agent is to use: the given one, or else the stored one. -/
def dbUriInForce (update : PerfAgentConfigUpdate) (before : RemoteFile) : Text :=
  (update.dburi.filter (· ≠ [])).getD (readRawDbUri before.target)

/-- The file holds the five settings of the update, and the configuration that is reported is the
update. -/
structure ReadsBackSaved (update : PerfAgentConfigUpdate) (before after : RemoteFile)
    (config : PerfAgentConfig) : Prop where
  written : ∃ content, after.target = some (utf8 content) ∧
    (parseConFile content).entries.map Prod.fst =
      ["DBURI", "System", "HostAddress", "PollingInterval", "BlockDevices"].map String.toList
  found : config.rawExists = true
  system : config.system = trim update.system
  hostAddress : config.hostAddress = trim (update.hostAddress.getD [])
  interval : config.pollingIntervalSec = update.pollingIntervalSec
  devices : config.blockDevices = update.blockDevices.map withoutDev
  dbType : config.dbType = detectDbType (dbUriInForce update before)
  dbUri : dbUriInForce update before ≠ []

/-- What `echo` prints is decoded as it is, whatever the bytes before it are. -/
theorem catOutput_eq (file : Option Bytes) : catOutput file =
    Utf8.decode (file.getD []) ++ "---EXISTS:".toList ++
      (if file.isSome then ['0'] else ['1']) ++ ['\n'] := by
  rcases Utf8.decodeFrom_append_cases none (file.getD []) (utf8 ("---EXISTS:".toList ++
    (if file.isSome then ['0'] else ['1']) ++ ['\n'])) with
    ⟨-, hEq⟩ | ⟨⟨s, -, byte, hByte, hLow, -⟩, -⟩
  · rw [catOutput, Utf8.decode, hEq, Utf8.decode_utf8]
    simp [Utf8.decode]
  · cases hByte
    have hLower := s.le_lower
    have hDash : s.lower ≤ 0x2D := hLow
    omega

theorem reads_of_search {r : RegExp} {before : Option Char} {text : Text} {captures : List Text}
    (h : r.search before text = some captures) :
    ∃ front read rest last, text = front ++ (read ++ rest) ∧ r.Reads last read rest captures := by
  have hHere {before : Option Char} {text : Text}
      (h : (r.results before text).head?.map (·.captures) = some captures) :
      ∃ read rest, text = read ++ rest ∧ r.Reads before read rest captures := by
    obtain ⟨f, hf, rfl⟩ := Option.map_eq_some_iff.mp h
    obtain ⟨hText, hReads⟩ := RegExp.mem_results.mp (List.mem_of_head? hf)
    exact ⟨_, _, hText.symm, hReads⟩
  induction text generalizing before with
  | nil =>
    obtain ⟨read, rest, hText, hReads⟩ := hHere h
    exact ⟨[], read, rest, before, hText, hReads⟩
  | cons c text ih =>
    rw [RegExp.search, Option.or_eq_some_iff] at h
    rcases h with h | ⟨-, h⟩
    · obtain ⟨read, rest, hText, hReads⟩ := hHere h
      exact ⟨[], read, rest, before, hText, hReads⟩
    · obtain ⟨front, read, rest, last, rfl, hReads⟩ := ih h
      exact ⟨c :: front, read, rest, last, rfl, hReads⟩

/-- The marker is looked for at the end of an output that ends with a line end. -/
theorem rawExists_readPerfAgentConfig (file : Option Bytes) (now : Int) :
    (readPerfAgentConfig file now).rawExists = false := by
  have hNone : existsPattern.match (catOutput file) = none := by
    refine Option.eq_none_iff_forall_ne_some.mpr fun captures hMatch => ?_
    obtain ⟨front, read, rest, last, hText, hReads⟩ := reads_of_search hMatch
    rw [existsPattern, RegExp.reads_chain_literal] at hReads
    obtain ⟨_, rfl, hReads⟩ := hReads
    obtain ⟨digits, _, _, rfl, -, ⟨hNe, hDigits⟩, hStop⟩ := RegExp.reads_chain_group_plus.mp hReads
    obtain ⟨rfl, -, rfl⟩ := RegExp.reads_chain_stop.mp hStop
    rw [catOutput_eq, List.append_nil, List.append_nil, ← List.append_assoc] at hText
    have hEnd : '\n' ∈ digits.getLast? := by
      have hLast := congrArg List.getLast? hText
      rw [List.getLast?_concat, List.getLast?_append_of_ne_nil _ hNe] at hLast
      exact hLast.symm
    exact absurd (hDigits _ (List.mem_of_getLast? hEnd)) (by decide)
  simp only [readPerfAgentConfig, firstGroup, hNone]
  decide

/-- No request that is answered reports the configuration that it has saved. -/
theorem saved_config_not_read_back {ready : Bool} {body : PerfAgentConfigUpdate}
    {delimiter : Text} {faults : ConfigFaults} {closing : Closing} {now : Int} {file : RemoteFile}
    {config : PerfAgentConfig}
    (hAnswer : (patchConfig ready body delimiter faults closing now file).2 = .ok config) :
    ¬ ReadsBackSaved body file (patchConfig ready body delimiter faults closing now file).1
      config := by
  intro h
  have hFound := h.found
  unfold patchConfig at hAnswer
  dsimp only at hAnswer
  split at hAnswer
  · cases hAnswer
  · obtain ⟨_, -, hAnswer⟩ := bind_eq_ok.mp hAnswer
    rw [← pure_eq_ok.mp hAnswer, rawExists_readPerfAgentConfig] at hFound
    cases hFound

def firstUpdate : PerfAgentConfigUpdate where
  dburi := some "mysql://db/perf".toList
  system := "esos".toList
  pollingIntervalSec := .int 10
  blockDevices := ["/dev/sda".toList]

def firstAnswer : RemoteFile × Except HttpError PerfAgentConfig :=
  patchConfig true firstUpdate "EOF".toList {} (.passesOn []) 0 ⟨none, none, []⟩

theorem firstAnswer_not_found : firstAnswer.2.map (·.rawExists) = .ok false := by decide +kernel

theorem saved_config_reported_missing : ∃ config, firstAnswer.2 = .ok config ∧
    ¬ ReadsBackSaved firstUpdate ⟨none, none, []⟩ firstAnswer.1 config := by
  obtain ⟨config, hConfig, hMissing⟩ := map_eq_ok.mp firstAnswer_not_found
  refine ⟨config, hConfig, fun hSaved => ?_⟩
  rw [hSaved.found] at hMissing
  cases hMissing

theorem first_config_not_read_back : ∃ config, firstAnswer.2 = .ok config ∧
    ¬ ReadsBackSaved firstUpdate ⟨none, none, []⟩ firstAnswer.1 config := by
  obtain ⟨config, hConfig, -⟩ := map_eq_ok.mp firstAnswer_not_found
  exact ⟨config, hConfig, saved_config_not_read_back hConfig⟩

end EsosWebui.Monitoring
