import EsosWebui.Ssh.RemoteFileWriter

/-! The steps that put `perccli64` into the image a SAN boots from: what their commands do to the
partition, whatever becomes of each, and the loop over them. -/
namespace EsosWebui.Raid.PerccliPersist

open Js
open Posix (Command Ending FileTree)
open Fs (shellSingleQuoteForRemote orElseText)
open Ssh (Closing)

/-- An image: the one that is there before, what an earlier run left beside it, one that is
written in part, or a whole one of a tree. -/
inductive Image where
  | old
  | leftover
  | torn
  | packed (tree : FileTree Bytes)

structure Given where
  root : Option (FileTree Bytes)
  rpm : FileTree Bytes

def Given.tree (given : Given) : Image → Option (FileTree Bytes)
  | .old => given.root
  | .packed tree => some tree
  | .leftover | .torn => none

structure Remote where
  /-- `PRIMARY-root.sqsh` -/
  primary : Option Image
  /-- What `PRIMARY-root.sqsh` was before. -/
  earlier : List (Option Image) := []
  backup : Option Image := none
  newImg : Option Image
  workdir : FileTree Bytes
  tmp : FileTree Bytes
  /-- What `rpm2cpio` prints. -/
  archive : FileTree Bytes := FileTree.missing
  /-- The variable `p` of the shell. -/
  p : Text := []

structure Before where
  primary : Bool
  newImg : Bool := false
  workdir : FileTree Bytes := FileTree.missing
  tmp : FileTree Bytes := FileTree.missing

def Before.remote (before : Before) : Remote where
  primary := if before.primary then some .old else none
  newImg := if before.newImg then some .leftover else none
  workdir := before.workdir
  tmp := before.tmp

structure Fate where
  works : Bool := true
  killed : Bool := false

def Fate.ending (fate : Fate) (status : Nat) : Ending :=
  if fate.killed then .killed else .exited status

/-- The paths that a command gets to when it does not do its work. -/
structure TreeFate extends Fate where
  reached : Text → Bool := fun _ => false

def TreeFate.done (fate : TreeFate) (path : Text) : Bool := fate.works || fate.reached path

def work (fate : Fate) (done : Remote → Remote) (spoiled : Remote → Remote) : Command Remote :=
  fun s => if fate.works then (done s, fate.ending 0) else (spoiled s, fate.ending 1)

/-- A command that changes nothing here. -/
def idle (fate : Fate) : Command Remote := work fate id id

def removeWorkdir (fate : TreeFate) : Command Remote :=
  let remove (s : Remote) : Remote := { s with workdir := s.workdir.remove fate.done }
  work fate.toFate remove remove

def removeTmp (fate : TreeFate) : Command Remote :=
  let remove (s : Remote) : Remote := { s with tmp := s.tmp.remove fate.done }
  work fate.toFate remove remove

structure MountFates where
  mkdir : Fate := {}
  mount : Fate := {}

def mountEsosRoot (fates : MountFates) : Command Remote :=
  (idle fates.mkdir).andThen (idle fates.mount)

structure BackupFates where
  test : Fate := {}
  copy : Fate := {}

def backupPrimary (fates : BackupFates) : Command Remote :=
  Command.andThen (fun s => (s, fates.test.ending (if s.primary.isSome then 0 else 1)))
    (work fates.copy (fun s => { s with backup := s.primary })
      fun s => { s with backup := some .torn })

structure UnsquashfsFates where
  remove : TreeFate := {}
  unsquashfs : TreeFate := {}

/-- An image that cannot be read is not extracted. -/
def unsquashfs (given : Given) (fate : TreeFate) : Command Remote := fun s =>
  match s.primary.bind given.tree with
  | some root =>
    let extract (s : Remote) : Remote :=
      { s with workdir := s.workdir.extract root fate.done }
    work fate.toFate extract extract s
  | none => (s, fate.ending 1)

def unsquashfsStep (given : Given) (fates : UnsquashfsFates) : Command Remote :=
  Posix.script [(removeWorkdir fates.remove).orTrue, unsquashfs given fates.unsquashfs]

structure ExtractFates where
  assign : Fate := {}
  remove : TreeFate := {}
  mkdir : Fate := {}
  cd : Fate := {}
  rpm2cpio : TreeFate := {}
  cpio : TreeFate := {}

def rpm2cpio (given : Given) (fate : TreeFate) : Command Remote :=
  let print (s : Remote) : Remote :=
    { s with archive := fun path => if fate.done path then given.rpm path else none }
  work fate.toFate print print

/-- What exists already may be kept as it is. -/
def cpio (fate : TreeFate) : Command Remote :=
  let extract (s : Remote) : Remote :=
    { s with tmp := s.tmp.extract s.archive fun path =>
        fate.reached path || fate.works && (s.tmp path).isNone }
  work fate.toFate extract extract

def extractRpm (given : Given) (fates : ExtractFates) : Command Remote :=
  Posix.script [
    idle fates.assign,
    (removeTmp fates.remove).orTrue,
    work fates.mkdir (fun s => { s with tmp := s.tmp.makeDirs [[]] fun _ => true }) id,
    Command.andThen (fun s => (s, fates.cd.ending (if s.tmp.isDir [] then 0 else 1)))
      ((rpm2cpio given fates.rpm2cpio).pipe (cpio fates.cpio))]

def perccliDir : Text := "/opt/MegaRAID/perccli".toList

def perccliPath : Text := "/opt/MegaRAID/perccli/perccli64".toList

def sbinDir : Text := "/usr/local/sbin".toList

def perccliDirs : List Text := [[], "/opt".toList, "/opt/MegaRAID".toList, perccliDir]

def sbinDirs : List Text := [[], "/usr".toList, "/usr/local".toList, sbinDir]

/-- `-name 'perccli64'` -/
def isPerccliName (path : Text) : Bool := endsWith path "/perccli64".toList

/-- The paths in the order in which `find` comes to them, up to where it is killed. -/
structure FindFate extends Fate where
  visited : List Text

/-- What the copy leaves when it does not do its work. -/
structure CopyFate extends Fate where
  spoiled : Option Bytes := none

structure InjectFates where
  assignRoot : Fate := {}
  assignTmp : Fate := {}
  find : FindFate
  test : Fate := {}
  mkdirPerccli : TreeFate := {}
  copy : CopyFate := {}
  chmod : Fate := {}
  mkdirSbin : TreeFate := {}
  linkPerccli64 : Fate := {}
  linkPerccli : Fate := {}

/-- `p=$(cd "$tmp" && find . -type f -name 'perccli64' 2>/dev/null | head -1)` -/
def findPerccli (fate : FindFate) : Command Remote := fun s =>
  let found := fate.visited.find? fun path => isPerccliName path && (s.tmp.content path).isSome
  ({ s with p := if s.tmp.isDir [] then found.getD [] else [] }, fate.ending 0)

def mkdirWorkdir (dirs : List Text) (fate : TreeFate) : Command Remote :=
  let mkdir (s : Remote) : Remote := { s with workdir := s.workdir.makeDirs dirs fate.done }
  work fate.toFate mkdir mkdir

/-- Where a copy under the name ends up: in a directory that is there, and nowhere in the tree
through a link that is there or without a directory for it. -/
def placeFor (tree : FileTree Bytes) (dir name : Text) : Option Text :=
  let path := dir ++ '/' :: name
  match tree path with
  | some .dir => some (path ++ '/' :: name)
  | some (.link _) => none
  | _ => if tree.isDir dir then some path else none

def copyPerccli (fate : CopyFate) : Command Remote := fun s =>
  let put (content : Bytes) : Remote :=
    match placeFor s.workdir perccliDir "perccli64".toList with
    | some place => { s with workdir := s.workdir.put place (.file content) }
    | none => s
  match s.tmp.content s.p with
  | some content =>
    work fate.toFate (fun _ => put content)
      (fun s => match fate.spoiled with
        | some part => put part
        | none => s) s
  -- without a path, the source is the directory
  | none => (s, fate.ending 1)

/-- `ln -sf /opt/MegaRAID/perccli/perccli64 "$root/usr/local/sbin/…"` -/
def linkPerccli (name : Text) (fate : Fate) : Command Remote :=
  work fate (fun s =>
    if s.workdir.isDir sbinDir then
      { s with workdir := s.workdir.put (sbinDir ++ '/' :: name) (.link perccliPath) }
    else s) id

def injectPerccli (fates : InjectFates) : Command Remote :=
  Posix.script [
    idle fates.assignRoot,
    idle fates.assignTmp,
    findPerccli fates.find,
    fun s => (s, fates.test.ending (if s.p ≠ [] then 0 else 1)),
    mkdirWorkdir perccliDirs fates.mkdirPerccli,
    copyPerccli fates.copy,
    idle fates.chmod,
    mkdirWorkdir sbinDirs fates.mkdirSbin,
    linkPerccli "perccli64".toList fates.linkPerccli64,
    linkPerccli "perccli".toList fates.linkPerccli]

/-- Whether the command gets to opening its output. -/
structure RebuildFate extends Fate where
  begins : Bool := true

def mksquashfs (fate : RebuildFate) : Command Remote :=
  work fate.toFate (fun s => { s with newImg := some (.packed s.workdir) })
    fun s => if fate.begins then { s with newImg := some .torn } else s

/-- The renaming is done or not. -/
def replacePrimary (fate : Fate) : Command Remote := fun s =>
  match s.newImg with
  | some image =>
    work fate (fun s => { s with
      primary := some image
      earlier := s.earlier ++ [s.primary]
      newImg := none }) id s
  | none => (s, fate.ending 1)

structure CleanupFates where
  removeWorkdir : TreeFate := {}
  removeTmp : TreeFate := {}
  sync : Fate := {}
  umount : Fate := {}

/-- The first line removes both directories. -/
def syncAndCleanup (fates : CleanupFates) : Command Remote :=
  Posix.script [
    ((removeWorkdir fates.removeWorkdir).next fun _ => removeTmp fates.removeTmp).orTrue,
    (idle fates.sync).orTrue,
    (idle fates.umount).orTrue]

inductive StepKind where
  | mountEsosRoot
  | backup
  | unsquashfs
  | extractRpm
  | inject
  | rebuildXz
  | rebuildGzip
  | replace
  | cleanup
  deriving DecidableEq

namespace StepKind

def label : StepKind → Text
  | mountEsosRoot => "Mount esos_root (rw)".toList
  | backup => "Backup PRIMARY-root.sqsh".toList
  | unsquashfs => "Unsquashfs".toList
  | extractRpm => "Extract RPM to temp (inside workdir)".toList
  | inject => "Inject perccli64 + symlinks into rootfs".toList
  | rebuildXz => "Rebuild SquashFS (xz)".toList
  | rebuildGzip => "Rebuild SquashFS (gzip)".toList
  | replace => "Replace PRIMARY-root.sqsh atomically".toList
  | cleanup => "Sync and cleanup".toList

end StepKind

structure Params where
  stagingId : Text
  remoteRpmPath : Text
  rootPartition : Text
  /-- The time of the run, in the name of the backup. -/
  ts : Text

namespace Params

variable (params : Params)

def mnt : Text := "/mnt/esos-root-inject".toList

def qMnt : Text := shellSingleQuoteForRemote mnt

def backup : Text := mnt ++ "/PRIMARY-root.sqsh.bak.".toList ++ params.ts

def workdir : Text := mnt ++ "/_work_unsquash_".toList ++ params.stagingId

def rpmDir : Text := mnt ++ "/_rpm_".toList ++ params.stagingId

def newImg : Text := mnt ++ "/PRIMARY-root.sqsh.new".toList

def mksquashfs (compression : Text) : Text :=
  "mksquashfs ".toList ++ shellSingleQuoteForRemote params.workdir ++ ' ' ::
    shellSingleQuoteForRemote newImg ++ " -comp ".toList ++ compression ++
    " -noappend 2>&1".toList

def command : StepKind → Text
  | .mountEsosRoot => "mkdir -p ".toList ++ qMnt ++ " && mount ".toList ++
      shellSingleQuoteForRemote params.rootPartition ++ ' ' :: qMnt ++ " 2>&1".toList
  | .backup => "test -f ".toList ++ qMnt ++ "/PRIMARY-root.sqsh && cp -a ".toList ++ qMnt ++
      "/PRIMARY-root.sqsh ".toList ++ shellSingleQuoteForRemote params.backup ++ " 2>&1".toList
  | .unsquashfs => "rm -rf ".toList ++ shellSingleQuoteForRemote params.workdir ++
      " 2>/dev/null || true; unsquashfs -f -d ".toList ++
      shellSingleQuoteForRemote params.workdir ++ ' ' :: qMnt ++ "/PRIMARY-root.sqsh 2>&1".toList
  | .extractRpm => "tmp=".toList ++ shellSingleQuoteForRemote params.rpmDir ++
      "; rm -rf \"$tmp\" 2>/dev/null || true; mkdir -p \"$tmp\"; cd \"$tmp\" && rpm2cpio ".toList ++
      shellSingleQuoteForRemote params.remoteRpmPath ++ " | cpio -idmv 2>&1".toList
  | .inject => ['\n'].intercalate [
      "root=".toList ++ shellSingleQuoteForRemote params.workdir,
      "tmp=".toList ++ shellSingleQuoteForRemote params.rpmDir,
      "p=$(cd \"$tmp\" && find . -type f -name 'perccli64' 2>/dev/null | head -1)".toList,
      "test -n \"$p\"".toList,
      "mkdir -p \"$root/opt/MegaRAID/perccli\"".toList,
      "cp -f \"$tmp/$p\" \"$root/opt/MegaRAID/perccli/perccli64\"".toList,
      "chmod 755 \"$root/opt/MegaRAID/perccli/perccli64\"".toList,
      "mkdir -p \"$root/usr/local/sbin\"".toList,
      "ln -sf /opt/MegaRAID/perccli/perccli64 \"$root/usr/local/sbin/perccli64\"".toList,
      "ln -sf /opt/MegaRAID/perccli/perccli64 \"$root/usr/local/sbin/perccli\"".toList]
  | .rebuildXz => params.mksquashfs "xz".toList
  | .rebuildGzip => params.mksquashfs "gzip".toList
  | .replace => "mv ".toList ++ shellSingleQuoteForRemote newImg ++ ' ' :: qMnt ++
      "/PRIMARY-root.sqsh 2>&1".toList
  | .cleanup => ['\n'].intercalate [
      "rm -rf ".toList ++ shellSingleQuoteForRemote params.workdir ++ ' ' ::
        shellSingleQuoteForRemote params.rpmDir ++ " 2>/dev/null || true".toList,
      "sync 2>/dev/null || true".toList,
      "umount ".toList ++ qMnt ++ " 2>/dev/null || true".toList]

end Params

/-- What becomes of the commands of a run; `again` is the second time that a step is taken. -/
structure Outcomes where
  mountEsosRoot : MountFates := {}
  backup : BackupFates := {}
  unsquashfs : UnsquashfsFates := {}
  extractRpm : ExtractFates := {}
  inject : InjectFates
  rebuildXz : RebuildFate := {}
  rebuildGzip : (again : Bool) → RebuildFate := fun _ => {}
  replace : Fate := {}
  cleanup : CleanupFates := {}
  closing : StepKind → (again : Bool) → Closing := fun _ _ => .passesOn []
  stderr : StepKind → (again : Bool) → Text := fun _ _ => []

variable (given : Given) (outcomes : Outcomes) (params : Params)

def effect (again : Bool) : StepKind → Command Remote
  | .mountEsosRoot => mountEsosRoot outcomes.mountEsosRoot
  | .backup => backupPrimary outcomes.backup
  | .unsquashfs => unsquashfsStep given outcomes.unsquashfs
  | .extractRpm => extractRpm given outcomes.extractRpm
  | .inject => injectPerccli outcomes.inject
  | .rebuildXz => mksquashfs outcomes.rebuildXz
  | .rebuildGzip => mksquashfs (outcomes.rebuildGzip again)
  | .replace => replacePrimary outcomes.replace
  | .cleanup => syncAndCleanup outcomes.cleanup

inductive StepStatus where
  | pending
  | running
  | success
  | failed

/-- `MissingToolsOperationStep` -/
structure Step where
  label : Text
  command : Text
  status : StepStatus := .pending
  stdoutPreview : Text := []
  stderrPreview : Text := []

def step (kind : StepKind) : Step := ⟨kind.label, params.command kind, .pending, [], []⟩

def maxPreview : Nat := 8000

def clip (s : Text) : Text :=
  let t := trim s
  if t.length ≤ maxPreview then t
  else t.take maxPreview ++ "\n... [truncated ".toList ++ Nat.toDigits 10 (t.length - maxPreview) ++
    " chars]".toList

def Step.answered (s : Step) (res : Answer) : Step :=
  { s with stdoutPreview := clip res.stdout, stderrPreview := clip res.stderr }

structure Run where
  remote : Remote
  finished : List Step := []
  executed : List StepKind := []

/-- `manager.exec(s.command, 300_000)` -/
def Run.exec (run : Run) (kind : StepKind) : Run × Except Text Answer :=
  let again := run.executed.contains kind
  let (after, ending) := effect given outcomes again kind run.remote
  ({ run with remote := after, executed := run.executed ++ [kind] },
    (outcomes.closing kind again).answer ending (outcomes.stderr kind again))

def Run.finish (run : Run) (s : Step) (status : StepStatus) : Run :=
  { run with finished := run.finished ++ [{ s with status }] }

inductive Progress where
  | stopped (run : Run) (error : Text)
  | going (run : Run)

def Progress.run : Progress → Run
  | stopped run _ => run
  | going run => run

/-- A turn of the loop; `onFailure` is for a status other than 0. -/
def takeTurn (onFailure : Step → Run → Progress) (kind : StepKind) (run : Run) : Progress :=
  let s := step params kind
  match run.exec given outcomes kind with
  | (run, .error message) =>
    .stopped (run.finish { s with stderrPreview := clip message } .failed) (clip message)
  | (run, .ok res) =>
    let s := s.answered res
    if res.code ≠ 0 then onFailure s run else .going (run.finish s .success)

def stepFailed (s : Step) (run : Run) : Progress :=
  .stopped (run.finish s .failed)
    (orElseText s.stderrPreview (orElseText s.stdoutPreview ("step failed: ".toList ++ s.label)))

/-- Once with the other compression. -/
def rebuildWithGzip (s : Step) (run : Run) : Progress :=
  let gzipStep := step params .rebuildGzip
  match run.exec given outcomes .rebuildGzip with
  | (run, .error message) =>
    let run := run.finish { s with stderrPreview := clip message } .failed
    .stopped (run.finish gzipStep .running) (clip message)
  | (run, .ok gz) =>
    let gzipStep := gzipStep.answered gz
    let run := run.finish s .failed
    if gz.code ≠ 0 then
      .stopped (run.finish gzipStep .failed) (orElseText gzipStep.stderrPreview
        (orElseText gzipStep.stdoutPreview "mksquashfs failed".toList))
    -- the step is in the list of the loop now, which takes it next
    else takeTurn given outcomes params stepFailed .rebuildGzip run

def takeStep (kind : StepKind) (run : Run) : Progress :=
  takeTurn given outcomes params
    (if kind = .rebuildXz then rebuildWithGzip given outcomes params else stepFailed) kind run

def takeSteps : List StepKind → Run → Progress
  | [], run => .going run
  | kind :: kinds, run =>
    match takeStep given outcomes params kind run with
    | .stopped run error => .stopped run error
    | .going run => takeSteps kinds run

def steps : List StepKind :=
  [.mountEsosRoot, .backup, .unsquashfs, .extractRpm, .inject, .rebuildXz, .replace, .cleanup]

inductive OperationStatus where
  | success
  | failed
  deriving DecidableEq

/-- `MissingToolsOperation`, when it is returned. -/
structure Operation where
  status : OperationStatus
  steps : List Step
  error : Option Text := none

/-- What a run leaves, and what it returns. -/
structure Result where
  run : Run
  op : Operation

def runPerccliPersist (before : Before) : Result :=
  match takeSteps given outcomes params steps { remote := before.remote } with
  | .stopped run error =>
    ⟨run, .failed, run.finished ++
      (steps.filter fun kind => kind ∉ run.executed).map (step params), some error⟩
  | .going run => ⟨run, .success, run.finished, none⟩

end EsosWebui.Raid.PerccliPersist
