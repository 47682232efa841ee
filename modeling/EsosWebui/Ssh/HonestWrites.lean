import EsosWebui.Ssh.RemoteFileWriter

/-! When the writers of a remote file return exactly if the file holds the new content, and throw
exactly if it is as before. -/
namespace EsosWebui.Ssh

open Js
open Posix (Command Ending)

/-- A writer has returned with the content in the file, or thrown with the file as it was. -/
def IsHonest (content : Text) (before after : RemoteFile) : Except Text Unit → Prop
  | .ok () => after.target = some (utf8 content)
  | .error _ => after.target = before.target

theorem isHonest_throwIf {content : Text} {before after : RemoteFile} {answer : Except Text Answer}
    {refused : Answer → Prop} [∀ log, Decidable (refused log)] {message : Answer → Text} :
    IsHonest content before after (answer >>= fun log => throwIf (refused log) (message log)) ↔
      match answer with
      | .ok log =>
        if refused log then after.target = before.target
        else after.target = some (utf8 content)
      | .error _ => after.target = before.target := by
  cases answer with
  | error message => rfl
  | ok log =>
    show IsHonest content before after (throwIf (refused log) (message log)) ↔ _
    rw [throwIf]
    dsimp only
    split <;> rfl

theorem isOk_bind_throwIf {answer : Except Text Answer} {refused : Answer → Prop}
    [∀ log, Decidable (refused log)] {message : Answer → Text} :
    (answer >>= fun log => throwIf (refused log) (message log)).isOk =
      match answer with
      | .ok log => !decide (refused log)
      | .error _ => false := by
  cases answer with
  | error message => rfl
  | ok log =>
    show (throwIf (refused log) (message log)).isOk = _
    by_cases hRefused : refused log <;> simp [throwIf, hRefused, Except.isOk, Except.toBool]

def untilKilled : List CommandFault → List CommandFault
  | [] => []
  | fault :: rest => fault :: if fault.killed then [] else untilKilled rest

def printed (faults : List CommandFault) : Text := (untilKilled faults).flatMap (·.stderr)

def isKilled (faults : List CommandFault) : Bool := faults.any (·.killed)

variable (fault : CommandFault)

theorem isKilled_singleton : isKilled [fault] = fault.killed := by
  simp [isKilled]

theorem printed_singleton : printed [fault] = fault.stderr := by
  simp [printed, untilKilled]

theorem isKilled_append (as bs : List CommandFault) :
    isKilled (as ++ bs) = (isKilled as || isKilled bs) := List.any_append

theorem printed_append (as bs : List CommandFault) :
    printed (as ++ bs) = printed as ++ if isKilled as then [] else printed bs := by
  induction as with
  | nil => rfl
  | cons a as ih =>
    have hRest : untilKilled (a :: (as ++ bs)) =
        a :: if a.killed then [] else untilKilled (as ++ bs) := rfl
    cases hKilled : a.killed
    · simp_all [printed, untilKilled, isKilled]
    · simp [printed, untilKilled, isKilled, hKilled]

namespace WriteFaults

variable (faults : WriteFaults) (requireNonEmpty : Bool)

def preparing : List CommandFault :=
  [faults.assign, faults.decode.toCommandFault] ++ if requireNonEmpty then [faults.test] else []

def commands : List CommandFault := faults.preparing requireNonEmpty ++ [faults.move]

def decoded (content : Text) (file : RemoteFile) : Option Bytes :=
  if faults.decode.works then some (faults.decode.written (utf8 content)) else file.tmp

/-- What takes the place of the file, if anything does. -/
def moved (content : Text) (file : RemoteFile) : Option Bytes :=
  if isKilled (faults.preparing requireNonEmpty) = false ∧ faults.move.works = true then
    faults.decoded content file
  else none

end WriteFaults

namespace ConfigFaults

variable (faults : ConfigFaults)

def printed : Text :=
  if faults.backup.killed then [] else Ssh.printed (faults.toWriteFaults.commands true)

def moved (content : Text) (file : RemoteFile) : Option Bytes :=
  if faults.backup.killed then none else faults.toWriteFaults.moved true content file

end ConfigFaults

def Installs (content : Text) (file : RemoteFile) (moved : Option Bytes) : Prop :=
  moved.or file.target = some (utf8 content)

/-- The file is as before once these bytes, if any, have taken its place. -/
def Leaves (file : RemoteFile) (moved : Option Bytes) : Prop := moved.or file.target = file.target

section

variable {faults : WriteFaults} {requireNonEmpty : Bool} {path delimiter content : Text}
  {file : RemoteFile} {lines : List ShellLine}

theorem atomicWriteLines_eq_ok :
    atomicWriteLines path delimiter content requireNonEmpty faults = .ok lines ↔
      contains (contentToBase64 content) delimiter = false ∧
        lines = [assignLine path faults.assign,
          decodeLine delimiter (contentToBase64 content) faults.decode] ++
          (if requireNonEmpty then [testLine faults.test] else []) ++
          [moveLine path faults.move] := by
  simp only [atomicWriteLines]
  split
  · rename_i hFound
    simp [hFound]
  · rename_i hFound
    simp [hFound, eq_comm]

theorem command_assignLine :
    (assignLine path fault).command file =
      ({ file with stderr := file.stderr ++ fault.stderr },
        if fault.killed = true then .killed else .exited 0) := rfl

theorem command_decodeLine (fault : DecodeFault) :
    (decodeLine delimiter (contentToBase64 content) fault).command file =
      ({ target := file.target
         tmp := if fault.works then some (fault.written (utf8 content)) else file.tmp
         stderr := file.stderr ++ fault.stderr },
        if fault.killed = true then .killed
        else .exited (if fault.works = true ∧ fault.written (utf8 content) = utf8 content then 0
          else 1)) := by
  have hDecoded : Base64.decode (contentToBase64 content ++ ['\n']) = utf8 content :=
    Base64.decode_encode_line _
  show (if fault.works = true then _ else _) = _
  rw [hDecoded]
  by_cases hWorks : fault.works = true
  · simp [hWorks, CommandFault.ending]
  · simp [hWorks, CommandFault.ending]

theorem command_testLine :
    (testLine fault).command file =
      ({ file with stderr := file.stderr ++ fault.stderr },
        if fault.killed = true then .killed
        else .exited (if file.tmp.any (· ≠ []) then 0 else 1)) := rfl

theorem command_moveLine :
    (moveLine path fault).command file =
      ({ target := (file.tmp.filter fun _ => fault.works).or file.target
         tmp := if fault.works then none else file.tmp
         stderr := file.stderr ++ fault.stderr },
        if fault.killed = true then .killed
        else .exited (if (file.tmp.filter fun _ => fault.works).isSome then 0 else 1)) := by
  obtain ⟨works, _, killed⟩ := fault
  obtain ⟨target, tmp, _⟩ := file
  cases works <;> cases tmp <;> rfl

variable (faults requireNonEmpty path delimiter content file) in
/-- The commands before the move, up to the one that the shell is killed in. -/
theorem exists_runFrom_preparing (status : Nat) :
    ∃ tmp last, Posix.runFrom status (([assignLine path faults.assign,
          decodeLine delimiter (contentToBase64 content) faults.decode] ++
          (if requireNonEmpty then [testLine faults.test] else [])).map (·.command)) file =
        ({ file with tmp, stderr := file.stderr ++ printed (faults.preparing requireNonEmpty) },
          if isKilled (faults.preparing requireNonEmpty) = true then .killed else .exited last) ∧
      (isKilled (faults.preparing requireNonEmpty) = false →
        tmp = faults.decoded content file) := by
  obtain ⟨assign, decode, test, move⟩ := faults
  cases requireNonEmpty
  · simp only [Bool.false_eq_true, if_false, List.append_nil, List.map_cons, List.map_nil]
    rw [Posix.runFrom_cons (command_assignLine _), Posix.runFrom_cons (command_decodeLine _)]
    by_cases hAssign : assign.killed = true
    · simp [WriteFaults.preparing, isKilled, printed, untilKilled, hAssign]
    · by_cases hDecode : decode.killed = true <;>
        simp [WriteFaults.preparing, WriteFaults.decoded, isKilled, printed, untilKilled, hAssign,
          hDecode, Posix.runFrom, Command.exit]
  · simp only [if_true, List.cons_append, List.nil_append, List.map_cons, List.map_nil]
    rw [Posix.runFrom_cons (command_assignLine _), Posix.runFrom_cons (command_decodeLine _),
      Posix.runFrom_cons (command_testLine _)]
    by_cases hAssign : assign.killed = true
    · simp [WriteFaults.preparing, isKilled, printed, untilKilled, hAssign]
    · by_cases hDecode : decode.killed = true
      · simp [WriteFaults.preparing, isKilled, printed, untilKilled, hAssign, hDecode]
      · by_cases hTest : test.killed = true <;>
          simp [WriteFaults.preparing, WriteFaults.decoded, isKilled, printed, untilKilled,
            hAssign, hDecode, hTest, Posix.runFrom, Command.exit]

variable (file) in
/-- The commands one after the other, up to the one that the shell is killed in. -/
theorem exists_runFrom_atomicWriteLines (status : Nat)
    (hLines : atomicWriteLines path delimiter content requireNonEmpty faults = .ok lines) :
    ∃ tmp, Posix.runFrom status (lines.map (·.command)) file =
      ({ target := (faults.moved requireNonEmpty content file).or file.target
         tmp
         stderr := file.stderr ++ printed (faults.commands requireNonEmpty) },
        if isKilled (faults.commands requireNonEmpty) = true then .killed
        else .exited (if (faults.moved requireNonEmpty content file).isSome then 0 else 1)) := by
  obtain ⟨-, rfl⟩ := atomicWriteLines_eq_ok.mp hLines
  obtain ⟨tmp, last, hPreparing, hDecoded⟩ := exists_runFrom_preparing faults
    requireNonEmpty path delimiter content file status
  rw [List.map_append, Posix.runFrom_append, WriteFaults.commands, printed_append,
    isKilled_append]
  by_cases hKilled : isKilled (faults.preparing requireNonEmpty) = true
  · rw [if_pos hKilled] at hPreparing
    rw [Posix.next_of_killed hPreparing]
    simp [WriteFaults.moved, hKilled]
  · rw [if_neg hKilled] at hPreparing
    rw [Posix.next_of_exited hPreparing, List.map_cons, List.map_nil,
      Posix.runFrom_cons (command_moveLine _), hDecoded (by simpa using hKilled)]
    have hMoved : faults.moved requireNonEmpty content file =
        (faults.decoded content file).filter fun _ => faults.move.works := by
      cases hWorks : faults.move.works <;> cases hTmp : faults.decoded content file <;>
        simp [WriteFaults.moved, Option.filter, hKilled, hWorks, hTmp]
    rw [if_neg hKilled, printed_singleton, isKilled_singleton, hMoved, List.append_assoc]
    by_cases hMove : faults.move.killed = true <;>
      simp [hKilled, hMove, Posix.runFrom, Command.exit]

end

theorem execLines_of_run {lines : List ShellLine} {closing : Closing} {file after : RemoteFile}
    {ending : Ending}
    (h : Posix.runFrom 0 (lines.map (·.command)) { file with stderr := [] } = (after, ending)) :
    execLines (.ok lines) closing file = (after, closing.answer ending after.stderr) := by
  rw [execLines, runLines, Posix.script, h]

section

variable {write : FileWrite} {faults : WriteFaults} {closing : Closing} {file : RemoteFile}

/-- The document of the script can not hold its delimiter. -/
def FileWrite.collides (write : FileWrite) : Bool :=
  contains (contentToBase64 write.content) write.delimiter

theorem writeRemoteFileAtomic_of_collides (h : write.collides) :
    writeRemoteFileAtomic write faults closing file =
      (file, .error "Internal error: base64 payload collides with heredoc delimiter".toList) := by
  have hLines : atomicWriteLines write.path write.delimiter write.content write.requireNonEmpty
      faults = .error "Internal error: base64 payload collides with heredoc delimiter".toList :=
    if_pos h
  rw [writeRemoteFileAtomic, hLines]
  rfl

variable (faults closing file) in
/-- The file and the answer, once the script is run. -/
theorem exists_writeRemoteFileAtomic (h : write.collides = false) :
    ∃ tmp, writeRemoteFileAtomic write faults closing file =
      ({ target := (faults.moved write.requireNonEmpty write.content file).or file.target
         tmp
         stderr := printed (faults.commands write.requireNonEmpty) },
        closing.answer
          (if isKilled (faults.commands write.requireNonEmpty) = true then .killed
          else .exited
            (if (faults.moved write.requireNonEmpty write.content file).isSome then 0 else 1))
          (printed (faults.commands write.requireNonEmpty))) := by
  obtain ⟨lines, hLines⟩ : ∃ lines, atomicWriteLines write.path write.delimiter write.content
      write.requireNonEmpty faults = .ok lines := ⟨_, atomicWriteLines_eq_ok.mpr ⟨h, rfl⟩⟩
  obtain ⟨tmp, hRun⟩ :=
    exists_runFrom_atomicWriteLines { file with stderr := [] } 0 hLines
  exact ⟨tmp, by rw [writeRemoteFileAtomic, hLines, execLines_of_run hRun]; rfl⟩

def Closing.isRejected : Closing → Bool
  | .rejected _ => true
  | .passesOn _ | .lost _ _ => false

/-- Whether a writer returns once the script is run: with the status of the move, or without
one. -/
def WriteFaults.returns (faults : WriteFaults) (requireNonEmpty : Bool) (content : Text)
    (file : RemoteFile) : Closing → Bool
  | .passesOn _ =>
    isKilled (faults.commands requireNonEmpty) ||
      (faults.moved requireNonEmpty content file).isSome
  | .lost _ _ => true
  | .rejected _ => false

variable (faults closing file) in
theorem exists_writeRemoteFileAtomicOrThrow (errorPrefix : Option Text)
    (h : write.collides = false) :
    ∃ after answer, writeRemoteFileAtomicOrThrow write faults closing file errorPrefix =
        (after, answer) ∧
      after.target = (faults.moved write.requireNonEmpty write.content file).or file.target ∧
      answer.isOk = faults.returns write.requireNonEmpty write.content file closing := by
  obtain ⟨tmp, hWritten⟩ := exists_writeRemoteFileAtomic faults closing file h
  rw [writeRemoteFileAtomicOrThrow, hWritten]
  refine ⟨_, _, rfl, rfl, ?_⟩
  rw [isOk_bind_throwIf]
  cases closing with
  | passesOn stdout =>
    by_cases hKilled : isKilled (faults.commands write.requireNonEmpty) = true
    · simp [Closing.answer, WriteFaults.returns, hKilled, Posix.Ending.status?]
    · cases hMoved : faults.moved write.requireNonEmpty write.content file <;>
        simp [Closing.answer, WriteFaults.returns, hKilled, hMoved, Posix.Ending.status?]
  | lost stdout stderr => simp [Closing.answer, WriteFaults.returns]
  | rejected message => simp [Closing.answer, WriteFaults.returns]

/-- Once the script is run, the answer is for the status if that is passed on. -/
def WriteFaults.IsFaithful (faults : WriteFaults) (write : FileWrite) (file : RemoteFile) :
    Closing → Prop
  | .passesOn _ =>
    if isKilled (faults.commands write.requireNonEmpty) = true then
      Installs write.content file (faults.moved write.requireNonEmpty write.content file)
    else
      ∀ data ∈ faults.moved write.requireNonEmpty write.content file, data = utf8 write.content
  | .lost _ _ => Installs write.content file (faults.moved write.requireNonEmpty write.content file)
  | .rejected _ => Leaves file (faults.moved write.requireNonEmpty write.content file)

theorem isHonest_writeRemoteFileAtomicOrThrow (errorPrefix : Option Text) :
    IsHonest write.content file
        (writeRemoteFileAtomicOrThrow write faults closing file errorPrefix).1
        (writeRemoteFileAtomicOrThrow write faults closing file errorPrefix).2 ↔
      write.collides = true ∨ faults.IsFaithful write file closing := by
  rw [writeRemoteFileAtomicOrThrow]
  cases hCollides : write.collides
  · obtain ⟨tmp, hWritten⟩ := exists_writeRemoteFileAtomic faults closing file hCollides
    rw [hWritten]
    dsimp only
    rw [isHonest_throwIf]
    cases closing with
    | passesOn stdout =>
      simp only [Closing.answer, WriteFaults.IsFaithful]
      by_cases hKilled : isKilled (faults.commands write.requireNonEmpty) = true
      · simp [hKilled, Installs, Posix.Ending.status?]
      · cases hMoved : faults.moved write.requireNonEmpty write.content file <;>
          simp [hKilled, Posix.Ending.status?]
    | lost stdout stderr => simp [Closing.answer, WriteFaults.IsFaithful, Installs]
    | rejected message => simp [Closing.answer, WriteFaults.IsFaithful, Leaves]
  · rw [writeRemoteFileAtomic_of_collides hCollides]
    dsimp only
    rw [isHonest_throwIf]
    simp

end

section

variable {write : FileWrite} {faults : ConfigFaults} {closing : Closing} {file : RemoteFile}
  {manager sync : Bool} {sanId : Text}

theorem command_silentLine {text : Text} :
    (silentLine text fault).command file =
      (file, if fault.killed = true then .killed else .exited 0) := by
  show (Command.orTrue fun s => (s, fault.ending (if fault.works then 0 else 1))) file = _
  cases hKilled : fault.killed <;>
    simp [Command.orTrue, Command.next, Command.exit, CommandFault.ending, hKilled]

theorem configLines_eq_ok {lines : List ShellLine}
    (hLines : configLines write faults sync = .ok lines) :
    ∃ backup written, atomicWriteLines write.path write.delimiter write.content true
        faults.toWriteFaults = .ok written ∧
      lines = silentLine backup faults.backup :: written ++
        if sync then [silentLine "conf_sync.sh".toList faults.sync] else [] := by
  rw [configLines] at hLines
  cases hWritten : atomicWriteLines write.path write.delimiter write.content true
      faults.toWriteFaults with
  | error message =>
    rw [hWritten] at hLines
    cases hLines
  | ok written =>
    rw [hWritten] at hLines
    exact ⟨_, written, rfl, (Except.ok.inj hLines).symm⟩

theorem configLines_of_collides (h : write.collides) :
    configLines write faults sync =
      .error "Internal error: base64 payload collides with heredoc delimiter".toList := by
  have hLines : atomicWriteLines write.path write.delimiter write.content true
      faults.toWriteFaults =
        .error "Internal error: base64 payload collides with heredoc delimiter".toList := if_pos h
  rw [configLines, hLines]
  rfl

variable (faults sync) in
theorem exists_configLines (h : write.collides = false) :
    ∃ lines, configLines write faults sync = .ok lines := by
  obtain ⟨lines, hLines⟩ : ∃ lines, atomicWriteLines write.path write.delimiter write.content true
      faults.toWriteFaults = .ok lines := ⟨_, atomicWriteLines_eq_ok.mpr ⟨h, rfl⟩⟩
  rw [configLines, hLines]
  exact ⟨_, rfl⟩

variable (file) in
theorem exists_runFrom_configLines {lines : List ShellLine}
    (hLines : configLines write faults sync = .ok lines) :
    ∃ tmp ending, Posix.runFrom 0 (lines.map (·.command)) { file with stderr := [] } =
      ({ target := (faults.moved write.content file).or file.target
         tmp
         stderr := faults.printed },
        ending) := by
  obtain ⟨backup, written, hWritten, rfl⟩ := configLines_eq_ok hLines
  obtain ⟨tmp, hRun⟩ := exists_runFrom_atomicWriteLines { file with stderr := [] } 0 hWritten
  rw [List.cons_append, List.map_cons, Posix.runFrom_cons (command_silentLine _)]
  by_cases hBackup : faults.backup.killed = true
  · exact ⟨file.tmp, .killed, by simp [hBackup, ConfigFaults.moved, ConfigFaults.printed]⟩
  · rw [if_neg hBackup, List.map_append, Posix.runFrom_append]
    rw [ConfigFaults.moved, ConfigFaults.printed, if_neg hBackup, if_neg hBackup]
    by_cases hKilled : isKilled (faults.toWriteFaults.commands true) = true
    · rw [if_pos hKilled] at hRun
      exact ⟨tmp, .killed, Posix.next_of_killed hRun⟩
    · rw [if_neg hKilled] at hRun
      rw [Posix.next_of_exited hRun]
      cases sync
      · exact ⟨tmp, _, rfl⟩
      · rw [if_pos rfl, List.map_cons, Posix.runFrom_cons (command_silentLine _)]
        split
        · exact ⟨tmp, _, rfl⟩
        · exact ⟨tmp, _, rfl⟩

/-- What the session prints as errors decides. -/
def ConfigFaults.IsFaithful (faults : ConfigFaults) (write : FileWrite) (file : RemoteFile)
    (closing : Closing) : Prop :=
  let moved := faults.moved write.content file
  match closing with
  | .passesOn _ =>
    if complains faults.printed then Leaves file moved else Installs write.content file moved
  | .lost _ stderr =>
    if complains stderr then Leaves file moved else Installs write.content file moved
  | .rejected _ => Leaves file moved

def FileWrite.isRun (write : FileWrite) (manager : Bool) : Prop :=
  write.path ∈ allowedRemoteConfigPaths ∧ manager = true ∧ write.collides = false

theorem writeConfigFile_of_isRun (h : write.isRun manager) :
    writeConfigFile write closing file manager sanId sync faults =
      let (after, answer) := execLines (configLines write faults sync) closing file
      (after, do
        let r ← answer
        throwIf (complains r.stderr = true)
          ("writeConfigFile(".toList ++ write.path ++ "): ".toList ++ r.stderr)) := by
  obtain ⟨hPath, rfl, -⟩ := h
  rw [writeConfigFile, assertAllowedRemoteConfigPath, throwIf, if_neg (not_not.mpr hPath), throwIf,
    if_neg Bool.noConfusion]
  rfl

variable (closing file sanId sync faults) in
theorem writeConfigFile_of_not_isRun (h : ¬ write.isRun manager) :
    ∃ message, writeConfigFile write closing file manager sanId sync faults =
      (file, .error message) := by
  rw [writeConfigFile, assertAllowedRemoteConfigPath]
  by_cases hPath : write.path ∈ allowedRemoteConfigPaths
  · rw [throwIf, if_neg (not_not.mpr hPath)]
    cases manager with
    | false => exact ⟨_, rfl⟩
    | true =>
      have hCollides : write.collides = true := by simpa [FileWrite.isRun, hPath] using h
      rw [configLines_of_collides hCollides]
      exact ⟨_, rfl⟩
  · rw [throwIf, if_pos hPath]
    exact ⟨_, rfl⟩

theorem isHonest_writeConfigFile :
    IsHonest write.content file
        (writeConfigFile write closing file manager sanId sync faults).1
        (writeConfigFile write closing file manager sanId sync faults).2 ↔
      ¬ write.isRun manager ∨ faults.IsFaithful write file closing := by
  by_cases hRun : write.isRun manager
  · obtain ⟨lines, hLines⟩ := exists_configLines faults sync hRun.2.2
    obtain ⟨tmp, ending, hWritten⟩ := exists_runFrom_configLines file hLines
    rw [writeConfigFile_of_isRun hRun, hLines, execLines_of_run hWritten]
    dsimp only
    rw [isHonest_throwIf]
    cases closing with
    | passesOn stdout => simp [Closing.answer, ConfigFaults.IsFaithful, Leaves, Installs, hRun]
    | lost stdout stderr => simp [Closing.answer, ConfigFaults.IsFaithful, Leaves, Installs, hRun]
    | rejected message => simp [Closing.answer, ConfigFaults.IsFaithful, Leaves, hRun]
  · obtain ⟨message, hWritten⟩ := writeConfigFile_of_not_isRun faults closing file sync sanId hRun
    rw [hWritten]
    simp [IsHonest, hRun]

end

theorem writers_honest_iff (write : FileWrite) (faults : WriteFaults) (config : ConfigFaults)
    (closing : Closing) (file : RemoteFile) (errorPrefix : Option Text) (sanId : Text)
    (manager sync : Bool) :
    (IsHonest write.content file
        (writeRemoteFileAtomicOrThrow write faults closing file errorPrefix).1
        (writeRemoteFileAtomicOrThrow write faults closing file errorPrefix).2 ↔
      write.collides = true ∨ faults.IsFaithful write file closing) ∧
    (IsHonest write.content file
        (writeConfigFile write closing file manager sanId sync config).1
        (writeConfigFile write closing file manager sanId sync config).2 ↔
      ¬ write.isRun manager ∨ config.IsFaithful write file closing) :=
  ⟨isHonest_writeRemoteFileAtomicOrThrow errorPrefix, isHonest_writeConfigFile⟩

/-- The servers of the clock, in two lines. -/
def ntpWrite : FileWrite where
  path := "/etc/ntp.conf".toList
  content := "server 10.0.0.1\nserver 10.0.0.2\n".toList
  delimiter := "ESOS_B64_00112233445566778899aabb".toList

/-- There is room for one of the lines. -/
def fullDisk : WriteFaults where
  decode := { cutAfter := some 16, stderr := "base64: write error".toList }

def oldServers : RemoteFile where
  target := some (utf8 "server 10.0.0.9\n".toList)

theorem moved_fullDisk :
    fullDisk.moved true ntpWrite.content oldServers = some (utf8 "server 10.0.0.1\n".toList) := by
  decide

/-- On a full disk both writers replace the file by the part that was decoded: one returns, the
other throws. -/
theorem truncated_file_installed :
    ¬ IsHonest ntpWrite.content oldServers
        (writeRemoteFileAtomicOrThrow ntpWrite fullDisk (.passesOn []) oldServers none).1
        (writeRemoteFileAtomicOrThrow ntpWrite fullDisk (.passesOn []) oldServers none).2 ∧
    ¬ IsHonest ntpWrite.content oldServers
        (writeConfigFile ntpWrite (.passesOn []) oldServers true [] true
          { toWriteFaults := fullDisk }).1
        (writeConfigFile ntpWrite (.passesOn []) oldServers true [] true
          { toWriteFaults := fullDisk }).2 := by
  have hCollides : ntpWrite.collides = false := by decide
  rw [isHonest_writeRemoteFileAtomicOrThrow, isHonest_writeConfigFile, hCollides]
  refine ⟨?_, ?_⟩
  · rintro (h | h)
    · cases h
    · have hData := h _ moved_fullDisk
      revert hData
      decide
  · rintro (h | h)
    · exact h ⟨by decide, rfl, hCollides⟩
    · change (fullDisk.moved true ntpWrite.content oldServers).or _ = _ at h
      rw [moved_fullDisk] at h
      revert h
      decide

end EsosWebui.Ssh
