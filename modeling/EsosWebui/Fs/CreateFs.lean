import EsosWebui.Esos.Guards
import EsosWebui.Js.Session

/-! File systems of a node and the requests to make them. -/
namespace EsosWebui.Fs

open Js
open Esos (ProtectionSnapshot)

inductive PartitionStrategy where
  | none
  | gpt
  deriving DecidableEq

inductive BackendEligibility where
  | eligibleClean
  | eligibleWithWipeRequired
  | blocked
  deriving DecidableEq

structure CreateFsPayload where
  backendPath : Text
  fsType : Text
  label : Text
  mountPoint : Text
  partitionStrategy : Option PartitionStrategy := none
  allowWipeSignatures : Bool := false
  allowUseEmptyMountDir : Bool := false
  confirmation : Option Text := none

inductive VdiskAllocMode where
  | fallocate
  | dd

structure CreateVdiskPayload where
  mountPoint : Text
  fileName : Text
  sizeBytes : Nat
  allocMode : Option VdiskAllocMode := none
  confirmation : Option Text := none

structure CreateFileioPayload where
  deviceName : Text
  vdiskPath : Text
  nvCache : Option Bool := none
  confirmation : Option Text := none

structure FsBackendCandidate where
  path : Text
  eligible : Bool
  eligibility : Option BackendEligibility := none
  reasons : List Text := []

structure FileSystemMount where
  mountPoint : Text
  mounted : Bool

structure FsOverview where
  mounts : List FileSystemMount := []
  systemProtection : Option ProtectionSnapshot := none

structure FileioBindConflict where
  code : Text
  message : Text

structure FsPreflightResult where
  ok : Bool := false
  configPreview : List Text := []
  commands : List Text := []
  warnings : List Text := []
  blockers : List Text := []
  requiredConfirmation : Option Text := none
  conflict : Option FileioBindConflict := none

def shellSingleQuoteForRemote (s : Text) : Text :=
  '\'' :: (s.flatMap fun c => if c = '\'' then "'\\''".toList else [c]) ++ ['\'']

def mkfsDevicePath (backendPath : Text) : PartitionStrategy → Text
  | .gpt =>
    if contains backendPath "mapper".toList || startsWith backendPath "/dev/md".toList then
      backendPath
    else backendPath ++ ['1']
  | .none => backendPath

def buildGptPartitionCommands (diskPath : Text) : List Text :=
  let disk := shellSingleQuoteForRemote diskPath
  ["parted -s ".toList ++ disk ++ " mklabel gpt".toList,
    "parted -s -a optimal ".toList ++ disk ++ " mkpart primary 1MiB 100%".toList]

def buildMkfsCommand (device fsType label : Text) : Text :=
  let dev := shellSingleQuoteForRemote device
  let lbl := shellSingleQuoteForRemote label
  if fsType = "xfs".toList then "mkfs.xfs -f -L ".toList ++ lbl ++ " ".toList ++ dev
  else "mkfs.ext4 -F -L ".toList ++ lbl ++ " ".toList ++ dev

def buildFstabLine (uuid mountPoint fsType : Text) : Text :=
  "UUID=".toList ++ uuid ++ "  ".toList ++ mountPoint ++ "  ".toList ++ fsType ++
    "  defaults  0  0".toList

structure CreateFsCommandsInput where
  backendPath : Text
  fsType : Text
  label : Text
  mountPoint : Text
  partitionStrategy : PartitionStrategy
  wipeBeforeFormat : Bool

namespace CreateFsCommandsInput

variable (input : CreateFsCommandsInput)

def mkfsTarget : Text := mkfsDevicePath input.backendPath input.partitionStrategy

def wipefsCommand : Text := "wipefs -a ".toList ++ shellSingleQuoteForRemote input.backendPath

def mkfsCommand : Text := buildMkfsCommand input.mkfsTarget input.fsType input.label

def mkdirCommand : Text := "mkdir -p ".toList ++ shellSingleQuoteForRemote input.mountPoint

def blkidCommand : Text :=
  "blkid -o export ".toList ++ shellSingleQuoteForRemote input.mkfsTarget ++
    " | grep ^UUID=".toList

def mountCommand : Text := "mount ".toList ++ shellSingleQuoteForRemote input.mountPoint

def formatCommands : List Text :=
  (if input.wipeBeforeFormat then [input.wipefsCommand] else []) ++
    (if input.partitionStrategy = .gpt then buildGptPartitionCommands input.backendPath else []) ++
    [input.mkfsCommand, input.mkdirCommand]

end CreateFsCommandsInput

def buildCreateFilesystemCommands (input : CreateFsCommandsInput) : List Text :=
  input.formatCommands ++ [input.blkidCommand, input.mountCommand]

/-- `[-a-zA-Z0-9_./]` -/
def isPathChar (c : Char) : Bool := c.isAlphanum || "_./-".toList.contains c

/-- `^\/[a-zA-Z0-9][-a-zA-Z0-9_./]*$` -/
def matchesMountPoint : Text → Bool
  | '/' :: c :: rest => c.isAlphanum && rest.all isPathChar
  | _ => false

/-- `^[a-zA-Z0-9._-]{1,32}$` -/
def matchesLabel (label : Text) : Bool :=
  consistsOf (fun c => c.isAlphanum || "._-".toList.contains c) label && label.length ≤ 32

/-- `^\/dev\/[-a-zA-Z0-9_./]+$` -/
def matchesDevicePath (path : Text) : Bool :=
  startsWith path "/dev/".toList && consistsOf isPathChar (path.drop 5)

def blockedMountPrefixes : List Text :=
  ["/boot".toList, "/etc".toList, "/proc".toList, "/sys".toList, "/dev".toList, "/run".toList,
    "/var/run".toList, "/mnt/root".toList]

def expectedCreateFilesystemConfirmation (mountPoint : Text) : Text :=
  "CREATE FILESYSTEM ".toList ++ trim mountPoint

def validateMountPoint (mountPoint : Text) : Option Text :=
  let mp := trim mountPoint
  if mp = [] ∨ mp = ['/'] then some "storage.fs.errors.mount_point_invalid".toList
  else if matchesMountPoint mp = false then some "storage.fs.errors.mount_point_invalid".toList
  else if blockedMountPrefixes.any (Esos.isOrIsUnder · mp) then
    some "storage.fs.errors.mount_point_system".toList
  else none

def validateFsLabel (label : Text) : Option Text :=
  let v := trim label
  if v = [] then some "storage.fs.errors.label_required".toList
  else if matchesLabel v = false then some "storage.fs.errors.label_invalid".toList
  else none

def validateBackendPath (path : Text) : Option Text :=
  if matchesDevicePath (trim path) = false then some "storage.fs.errors.backend_invalid".toList
  else none

def validateFsType (fsType : Text) : Bool := fsType = "xfs".toList || fsType = "ext4".toList

/-- The blockers known before, then the keys of the errors. -/
def validateCreateFsInput (payload : CreateFsPayload) (blockers : List Text) : List Text :=
  blockers ++ [validateBackendPath payload.backendPath, validateMountPoint payload.mountPoint,
    validateFsLabel payload.label,
    if validateFsType payload.fsType then none
    else some "storage.fs.errors.fs_type_invalid".toList].filterMap id

def blkidExport : Text := "blkid -o export".toList

theorem quote_of_not_mem {s : Text} (h : '\'' ∉ s) :
    shellSingleQuoteForRemote s = '\'' :: s ++ ['\''] := by
  have hSame : (s.flatMap fun c => if c = '\'' then "'\\''".toList else [c]) = s.flatMap ([·]) := by
    apply List.flatMap_congr
    intro c hc
    have hNe : c ≠ '\'' := fun hEq => h (hEq ▸ hc)
    rw [if_neg hNe]
  rw [shellSingleQuoteForRemote, hSame, List.flatMap_singleton']

theorem infix_quoted_iff {part before s after : Text} (hPart : '\'' ∉ part) (hs : '\'' ∉ s) :
    part <:+: before ++ shellSingleQuoteForRemote s ++ after ↔
      part <:+: before ∨ part <:+: s ∨ part <:+: after := by
  have hText : before ++ shellSingleQuoteForRemote s ++ after =
      before ++ '\'' :: (s ++ '\'' :: after) := by
    rw [quote_of_not_mem hs]
    simp
  rw [hText, infix_append_cons_iff hPart, infix_append_cons_iff hPart]

open Esos (isEsosProtectionDetectionFailed isMountPointEsosProtected)

inductive MountPathRemoteState where
  | notExists
  | emptyDir
  | nonEmptyDir
  | notDirectory
  | alreadyMounted
  | parentMissing
  deriving DecidableEq

def mountPathScript (mountPoint : Text) : Text :=
  ['\n'].intercalate
    ["mp=".toList ++ shellSingleQuoteForRemote (trim mountPoint),
      ("if findmnt -n \"$mp\" 2>/dev/null | grep -q .; then " ++
        "echo already_mounted; exit 0; fi").toList,
      "if [ -e \"$mp\" ]; then".toList,
      "  if [ ! -d \"$mp\" ]; then echo not_directory; exit 0; fi".toList,
      ("  if [ -n \"$(ls -A \"$mp\" 2>/dev/null | head -1)\" ]; then " ++
        "echo non_empty_dir; else echo empty_dir; fi").toList,
      "  exit 0".toList,
      "fi".toList,
      "parent=$(dirname \"$mp\")".toList,
      ("if [ \"$parent\" = \"$mp\" ] || [ -d \"$parent\" ]; then " ++
        "echo not_exists; else echo parent_missing; fi").toList]

def mountPathState (stdout : Text) : MountPathRemoteState :=
  let line := trim ((((trim stdout).splitOn '\n').getLast?).getD [])
  if line = "already_mounted".toList then .alreadyMounted
  else if line = "non_empty_dir".toList then .nonEmptyDir
  else if line = "empty_dir".toList then .emptyDir
  else if line = "not_directory".toList then .notDirectory
  else if line = "parent_missing".toList then .parentMissing
  else .notExists

def probeMountPathOnNode (exec : Text → Except Text Answer) (mountPoint : Text) :
    Except Text MountPathRemoteState := do
  let answer ← exec ("bash -lc ".toList ++ shellSingleQuoteForRemote (mountPathScript mountPoint))
  return mountPathState answer.stdout

def mountPathStateBlockerKey : MountPathRemoteState → Option Text
  | .alreadyMounted => some "storage.fs.errors.mount_point_already_mounted".toList
  | .nonEmptyDir => some "storage.fs.errors.mount_point_not_empty".toList
  | .notDirectory => some "storage.fs.errors.mount_point_not_directory".toList
  | .parentMissing => some "storage.fs.errors.mount_point_parent_missing".toList
  | .notExists | .emptyDir => none

def mountPathStateWarningKey (state : MountPathRemoteState) : Option Text :=
  if state = .emptyDir then some "storage.fs.wizard.create_fs.warn_mount_dir_empty".toList
  else none

def esosBlockers (overview : FsOverview) : List Text :=
  if overview.systemProtection.any isEsosProtectionDetectionFailed then
    [Esos.detectionFailedMessage]
  else []

def esosProtectedMountBlocker (mountPoint : Text) : Text :=
  "Point de montage protégé (volume système ESOS) : ".toList ++ mountPoint

namespace CreateFsPayload

variable (payload : CreateFsPayload)

def strategy : PartitionStrategy := payload.partitionStrategy.getD .none

def systemBlockers (overview : FsOverview) : List Text :=
  esosBlockers overview ++
    if overview.systemProtection.any fun snapshot => !isEsosProtectionDetectionFailed snapshot &&
        isMountPointEsosProtected payload.mountPoint (some snapshot) then
      [esosProtectedMountBlocker payload.mountPoint]
    else []

def backendBlockers : Option FsBackendCandidate → List Text
  | none => ["Backend introuvable".toList]
  | some cand =>
    if cand.eligibility = some .blocked ∨ cand.eligible = false then cand.reasons
    else if cand.eligibility = some .eligibleWithWipeRequired ∧
        payload.allowWipeSignatures = false then
      ["storage.fs.wizard.create_fs.blocker_wipe_not_confirmed".toList]
    else []

def mountedBlockers (overview : FsOverview) : List Text :=
  if overview.mounts.any fun m => m.mountPoint = payload.mountPoint && m.mounted then
    ["storage.fs.errors.mount_point_already_mounted".toList]
  else []

def mountPathBlockers : Except Text MountPathRemoteState → List Text
  | .error _ => ["storage.fs.errors.mount_point_probe_failed".toList]
  | .ok state =>
    match mountPathStateBlockerKey state with
    | some blocker => [blocker]
    | none =>
      if state = .emptyDir ∧ payload.allowUseEmptyMountDir = false then
        ["storage.fs.wizard.create_fs.blocker_empty_mount_not_confirmed".toList]
      else []

def commandsInput (wipeBeforeFormat : Bool) : CreateFsCommandsInput where
  backendPath := payload.backendPath
  fsType := payload.fsType
  label := payload.label
  mountPoint := payload.mountPoint
  partitionStrategy := payload.strategy
  wipeBeforeFormat := wipeBeforeFormat

end CreateFsPayload

def findCandidate (candidates : List FsBackendCandidate) (path : Text) :
    Option FsBackendCandidate :=
  candidates.find? (·.path = path)

def requiresWipe (candidates : List FsBackendCandidate) (path : Text) : Bool :=
  (findCandidate candidates path).any (·.eligibility = some .eligibleWithWipeRequired)

def preflightCreateFs (exec : Text → Except Text Answer) (overview : FsOverview)
    (candidates : List FsBackendCandidate) (payload : CreateFsPayload) : FsPreflightResult :=
  let state := probeMountPathOnNode exec payload.mountPoint
  let blockers := payload.systemBlockers overview ++
    payload.backendBlockers (findCandidate candidates payload.backendPath) ++
    payload.mountedBlockers overview ++ payload.mountPathBlockers state
  let confirmation := expectedCreateFilesystemConfirmation payload.mountPoint
  let validated := validateCreateFsInput payload blockers
  if validated ≠ [] then { blockers := validated, requiredConfirmation := some confirmation }
  else
    let wipe := requiresWipe candidates payload.backendPath
    { ok := blockers.length = 0
      configPreview := [buildFstabLine "<uuid>".toList payload.mountPoint payload.fsType]
      commands := buildCreateFilesystemCommands (payload.commandsInput wipe)
      warnings := (state.toOption.bind mountPathStateWarningKey).toList ++
        (if payload.strategy = .gpt then
          ["storage.fs.wizard.create_fs.warn_gpt_partition".toList] else []) ++
        (if wipe then ["storage.fs.wizard.create_fs.warn_wipe_required".toList] else [])
      blockers := blockers
      requiredConfirmation := some confirmation }

/-- The coding of a file's text, and the random mark that ends it in a script. -/
structure FileCoding where
  contentToBase64 : Text → Text
  delimiter : Text

def buildAtomicBase64FileWriteScript (coding : FileCoding) (targetPath content : Text) :
    Except Text Text :=
  let b64 := coding.contentToBase64 content
  let qPath := shellSingleQuoteForRemote targetPath
  if contains b64 coding.delimiter then
    .error "Internal error: base64 payload collides with heredoc delimiter".toList
  else .ok (['\n'].intercalate
    ["tmp=$(printf '%s.tmp.%s' ".toList ++ qPath ++ " $$)".toList,
      "base64 -d > \"$tmp\" <<'".toList ++ coding.delimiter ++ ['\''],
      b64,
      coding.delimiter,
      "[ -s \"$tmp\" ]".toList,
      "mv \"$tmp\" ".toList ++ qPath])

def fstabPath : Text := "/etc/fstab".toList

/-- The lines of other mount points and comments stay. -/
def buildFstabAppendScript (coding : FileCoding) (existingContent newLine : Text) :
    Except Text Text :=
  let trimmed := trim newLine
  let lines := existingContent.splitOn '\n'
  if trimmed = [] then .error "Ligne fstab vide".toList
  else if lines.any (trim · = trimmed) then .ok "true".toList
  else
    let kept := lines.filter fun l => trim l = [] || startsWith (trim l) ['#'] ||
      (words l)[1]? != (words trimmed)[1]?
    let next := ['\n'].intercalate (kept ++ [trimmed])
    buildAtomicBase64FileWriteScript coding fstabPath (next.rdropWhile (· = '\n') ++ ['\n'])

/-- `text || otherwise` -/
def orElseText (text otherwise : Text) : Text := if text = [] then otherwise else text

variable (coding : FileCoding) (shell : Shell)

def execCmds : List Text → Session Unit
  | [] => pure ()
  | cmd :: commands => do
      let r ← Session.send shell cmd
      Session.ofExcept (throwIf (r.code ≠ 0)
        (orElseText (trim r.stderr) (orElseText (trim r.stdout) ("Échec: ".toList ++ cmd))))
      execCmds commands

def appendFstabLine (line : Text) : Session Unit := do
  let read ← Session.send shell
    ("cat ".toList ++ shellSingleQuoteForRemote fstabPath ++ " 2>/dev/null || true".toList)
  let script ← Session.ofExcept (buildFstabAppendScript coding read.stdout line)
  let result ← Session.send shell script
  Session.ofExcept (throwIf (result.code ≠ 0)
    (orElseText (trim result.stderr) "Échec mise à jour fstab".toList))

structure CreateFsResult where
  mountPoint : Text
  uuid : Option Text

/-- A device without an identifier gets no line. -/
def registerMount (payload : CreateFsPayload) (uuid : Text) : Session Unit :=
  if uuid ≠ [] then
    appendFstabLine coding shell (buildFstabLine uuid payload.mountPoint payload.fsType)
  else pure ()

/-- The end of the run: the new file system is registered and mounted. -/
def mountCreated (payload : CreateFsPayload) (mkfsTarget : Text) (mountCmd : Option Text) :
    Session CreateFsResult := do
  let blkid ← Session.send shell
    ("blkid -o value -s UUID ".toList ++ shellSingleQuoteForRemote mkfsTarget)
  let uuid := trim blkid.stdout
  registerMount coding shell payload uuid
  execCmds shell (mountCmd.filter (· ≠ [])).toList
  return ⟨payload.mountPoint, if uuid = [] then none else some uuid⟩

def runCreateFilesystem (payload : CreateFsPayload) : Session CreateFsResult := do
  let input := payload.commandsInput payload.allowWipeSignatures
  let cmds := (buildCreateFilesystemCommands input).filter (!contains · blkidExport)
  execCmds shell cmds.dropLast
  mountCreated coding shell payload input.mkfsTarget cmds.getLast?

end EsosWebui.Fs
