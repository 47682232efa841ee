import EsosWebui.Fs.MountPoints
import EsosWebui.Js.Lines
import EsosWebui.Ssh.HonestWrites

/-! When the table of the file systems gets the line of a new mount point, and nothing else is
changed in it. -/
namespace EsosWebui.Fs

open Js
open Ssh (Closing RemoteFile ShellLine WriteFaults atomicWriteLines contentToBase64 execLines
  scriptText)

/-- Neither blank nor a comment. -/
def isActive (line : Text) : Bool := trim line ≠ [] && !startsWith (trim line) ['#']

def isEntryFor (mountPoint line : Text) : Bool :=
  isActive line && (words line)[1]? == some mountPoint

/-- The comments and the entries of a table, in their order. -/
def statements (table : Text) : List Text := (lines table).filter (trim · ≠ [])

def entriesFor (mountPoint table : Text) : List Text :=
  (statements table).filter (isEntryFor mountPoint)

/-- In the place of all entries for the mount point there is one with these fields, anywhere
among the other statements. -/
def HasOneEntry (mountPoint : Text) (fields : List Text) (old new : Text) : Prop :=
  ∃ before entry after, statements new = before ++ entry :: after ∧ words entry = fields ∧
    before ++ after = (statements old).filter (!isEntryFor mountPoint ·)

def CreateFsPayload.fstabFields (payload : CreateFsPayload) (uuid : Text) : List Text :=
  ["UUID=".toList ++ uuid, trim payload.mountPoint, payload.fsType, "defaults".toList, ['0'], ['0']]

/-- The line that is registered for a new file system. -/
def CreateFsPayload.fstabLine (payload : CreateFsPayload) (uuid : Text) : Text :=
  buildFstabLine uuid payload.mountPoint payload.fsType

def nextFstab (existingContent newLine : Text) : Text :=
  let trimmed := trim newLine
  let kept := (lines existingContent).filter fun l => trim l = [] || startsWith (trim l) ['#'] ||
    (words l)[1]? != (words trimmed)[1]?
  (joinLines (kept ++ [trimmed])).rdropWhile (· = '\n') ++ ['\n']

def hasLine (existingContent newLine : Text) : Bool :=
  (lines existingContent).any (trim · = trim newLine)

def trueLine : ShellLine where
  text := "true".toList
  command := Posix.Command.exit 0

def fstabAppendLines (delimiter existingContent newLine : Text) (faults : WriteFaults) :
    Except Text (List ShellLine) :=
  if trim newLine = [] then .error "Ligne fstab vide".toList
  else if hasLine existingContent newLine then .ok [trueLine]
  else atomicWriteLines fstabPath delimiter (nextFstab existingContent newLine) true faults

theorem buildFstabAppendScript_eq (coding : FileCoding) (existingContent newLine : Text) :
    buildFstabAppendScript coding existingContent newLine =
      if trim newLine = [] then .error "Ligne fstab vide".toList
      else if hasLine existingContent newLine then .ok "true".toList
      else buildAtomicBase64FileWriteScript coding fstabPath
        (nextFstab existingContent newLine) := rfl

theorem scriptText_fstabAppendLines (delimiter existingContent newLine : Text)
    (faults : WriteFaults) :
    (fstabAppendLines delimiter existingContent newLine faults).map scriptText =
      buildFstabAppendScript ⟨contentToBase64, delimiter⟩ existingContent newLine := by
  rw [buildFstabAppendScript_eq, fstabAppendLines]
  split
  · rfl
  · split
    · rfl
    · exact Ssh.scriptText_atomicWriteLines ..

/-- What happens to the script of an update, and the mark in it. -/
structure FstabAttempt where
  delimiter : Text
  faults : WriteFaults
  closing : Closing

namespace FstabAttempt

variable (attempt : FstabAttempt)

def appendFstabLine (read : Except Text Text) (line : Text) (file : RemoteFile) :
    RemoteFile × Except Text Unit :=
  match read with
  | .error message => (file, .error message)
  | .ok stdout =>
    let (after, answer) := execLines
      (fstabAppendLines attempt.delimiter stdout line attempt.faults) attempt.closing file
    (after, do
      let result ← answer
      throwIf (result.code ≠ 0)
        (orElseText (trim result.stderr) "Échec mise à jour fstab".toList))

/-- The outcome is the one of the session, for a shell that answers its two commands so. -/
theorem appendFstabLine_eq {shell : Shell} {sent : List Text} {line catCommand : Text}
    {file : RemoteFile} (hCat : catCommand =
      "cat ".toList ++ shellSingleQuoteForRemote fstabPath ++ " 2>/dev/null || true".toList)
    (hScript : ∀ read ls, shell sent catCommand = .ok read →
      fstabAppendLines attempt.delimiter read.stdout line attempt.faults = .ok ls →
      shell (sent ++ [catCommand]) (scriptText ls) = (execLines (.ok ls) attempt.closing file).2) :
    (Fs.appendFstabLine ⟨contentToBase64, attempt.delimiter⟩ shell line sent).1 =
      (attempt.appendFstabLine ((shell sent catCommand).map (·.stdout)) line file).2 := by
  rw [Fs.appendFstabLine, ← hCat]
  cases hRead : shell sent catCommand with
  | error message =>
    rw [Session.send_of_error hRead]
    rfl
  | ok read =>
    rw [Session.send_of_ok hRead, ← scriptText_fstabAppendLines _ _ _ attempt.faults]
    show _ = (attempt.appendFstabLine (.ok read.stdout) line file).2
    rw [appendFstabLine]
    cases hLines : fstabAppendLines attempt.delimiter read.stdout line attempt.faults with
    | error message => rfl
    | ok ls =>
      dsimp only
      rw [← hScript read ls hRead hLines, Session.bind_of_ok (show Session.ofExcept
        (Except.map scriptText (.ok ls)) _ = (.ok (scriptText ls), _) from rfl)]
      cases hResult : shell (sent ++ [catCommand]) (scriptText ls) with
      | error message =>
        rw [Session.send_of_error hResult]
        rfl
      | ok result =>
        rw [Session.send_of_ok hResult]
        rfl

/-- The update returns, and what its script is to write is in the file. -/
structure Succeeds (read : Except Text Text) (line : Text) (file : RemoteFile) : Prop where
  returns : (attempt.appendFstabLine read line file).2.isOk = true
  written : ∀ stdout, read = .ok stdout → hasLine stdout line = false →
    (attempt.appendFstabLine read line file).1.target = some (utf8 (nextFstab stdout line))

end FstabAttempt

def holding (table : Text) : RemoteFile where
  target := some (utf8 table)

/-- What the update of a table is to do, for all that can happen to its script: an update that
succeeds leaves one entry for the mount point, a table that is not read is not replaced, and a
second update that reads all of the table changes nothing. -/
structure FstabLaw (payload : CreateFsPayload) (uuid old : Text) (read : Except Text Text) :
    Prop where
  updated : ∀ attempt : FstabAttempt, attempt.Succeeds read (payload.fstabLine uuid) (holding old) →
    ∃ new, (attempt.appendFstabLine read (payload.fstabLine uuid) (holding old)).1.target =
        some (utf8 new) ∧
      HasOneEntry (trim payload.mountPoint) (payload.fstabFields uuid) old new
  unread : read ≠ .ok old → ∀ attempt : FstabAttempt,
    (attempt.appendFstabLine read (payload.fstabLine uuid) (holding old)).1.target =
      some (utf8 old)
  again : read = .ok old → ∀ (first second : FstabAttempt) (new : Text) (file : RemoteFile),
    first.Succeeds read (payload.fstabLine uuid) (holding old) →
    (first.appendFstabLine read (payload.fstabLine uuid) (holding old)).1 = file →
    file.target = some (utf8 new) →
    (second.appendFstabLine (.ok new) (payload.fstabLine uuid) file).1.target = some (utf8 new)

/-- The mount point is without a line break, and either the table is read in full or the line is
in what is read of it. Where the line is, the table has no other entry for the mount point. -/
structure IsPlainUpdate (payload : CreateFsPayload) (uuid old stdout : Text) : Prop where
  oneLine : '\n' ∉ payload.mountPoint
  wholeOrFound : stdout = old ∨ hasLine stdout (payload.fstabLine uuid) = true
  sole : hasLine stdout (payload.fstabLine uuid) = true →
    (entriesFor (trim payload.mountPoint) old).map words = [payload.fstabFields uuid]

section

variable {payload : CreateFsPayload} {uuid : Text}

/-- What the checks say about the fields of the line. -/
structure HasWords (payload : CreateFsPayload) (uuid : Text) : Prop where
  uuid : IsWord uuid
  mountPoint : IsWord (trim payload.mountPoint)
  fsType : IsWord payload.fsType

theorem validateFsType_of_accepted (hAccepted : validateCreateFsInput payload [] = []) :
    validateFsType payload.fsType := by
  have hKey := List.filterMap_eq_nil_iff.mp (List.append_eq_nil_iff.mp hAccepted).2
    (if validateFsType payload.fsType then none
      else some "storage.fs.errors.fs_type_invalid".toList)
    (List.mem_append_right [_, _, _] (List.mem_singleton.mpr rfl))
  by_contra hNot
  rw [if_neg hNot] at hKey
  cases hKey

theorem validateMountPoint_of_accepted (hAccepted : validateCreateFsInput payload [] = []) :
    validateMountPoint payload.mountPoint = none :=
  List.filterMap_eq_nil_iff.mp (List.append_eq_nil_iff.mp hAccepted).2
    (validateMountPoint payload.mountPoint) (List.mem_append_left [_, _]
      (List.mem_append_right [_] (List.mem_singleton.mpr rfl)))

theorem hasWords_of_accepted (hAccepted : validateCreateFsInput payload [] = [])
    (hUuid : IsWord uuid) : HasWords payload uuid := by
  refine ⟨hUuid, ⟨fun hNil => ?_, fun c hc => ?_⟩, ?_⟩
  · have hMount := validateMountPoint_of_accepted hAccepted
    rw [validateMountPoint, hNil] at hMount
    cases hMount
  · exact not_isSpace_of_isPathChar ((isChecked_of_validate hAccepted).mountPoint c hc)
  · rcases Bool.or_eq_true_iff.mp (validateFsType_of_accepted hAccepted) with h | h
    · exact of_decide_eq_true h ▸ by decide
    · exact of_decide_eq_true h ▸ by decide

variable (h : HasWords payload uuid)

include h

omit h in
theorem fstabLine_eq : payload.fstabLine uuid = ("UUID=".toList ++ uuid) ++ ' ' :: ([' '] ++
    payload.mountPoint ++ ' ' :: ([' '] ++ payload.fsType ++ ' ' :: " defaults  0  0".toList)) := by
  have hBreaks : ∀ a u m t d : Text, a ++ u ++ [' ', ' '] ++ m ++ [' ', ' '] ++ t ++ ' ' :: d =
      (a ++ u) ++ ' ' :: ([' '] ++ m ++ ' ' :: ([' '] ++ t ++ ' ' :: d)) := by simp
  exact hBreaks _ _ _ _ _

theorem words_fstabLine : words (payload.fstabLine uuid) = payload.fstabFields uuid := by
  have hFirst : IsWord ("UUID=".toList ++ uuid) := IsWord.append (by decide) h.uuid
  have hMount : words ([' '] ++ payload.mountPoint) = [trim payload.mountPoint] := by
    rw [words_spaces_append (by simp), ← words_trim, words_word h.mountPoint]
  have hType : words ([' '] ++ payload.fsType) = [payload.fsType] := by
    rw [words_spaces_append (by simp), words_word h.fsType]
  rw [fstabLine_eq, words_append_space isSpace_blank, words_append_space isSpace_blank,
    words_append_space isSpace_blank, words_word hFirst, hMount, hType]
  rfl

omit h in
omit h in
theorem exists_fstabLine : ∃ front, payload.fstabLine uuid = front ++ ['0'] := by
  refine ⟨"UUID=".toList ++ uuid ++ "  ".toList ++ payload.mountPoint ++ "  ".toList ++
    payload.fsType ++ "  defaults  0  ".toList, ?_⟩
  rw [List.append_assoc _ _ ['0']]
  rfl

omit h in
theorem head?_fstabLine : (payload.fstabLine uuid).head? = some 'U' := rfl

omit h in
theorem trim_fstabLine : trim (payload.fstabLine uuid) = payload.fstabLine uuid := by
  obtain ⟨front, hFront⟩ := @exists_fstabLine payload uuid
  apply trim_eq_self
  · intro c hc
    obtain rfl : 'U' = c := by simpa [head?_fstabLine] using hc
    decide
  · intro c hc
    obtain rfl : '0' = c := by simpa [hFront] using hc
    decide

theorem newline_mem_fstabLine : '\n' ∈ payload.fstabLine uuid ↔ '\n' ∈ payload.mountPoint := by
  have hNot : ∀ {w : Text}, IsWord w → '\n' ∉ w := fun hw hMem =>
    absurd (hw.2 _ hMem) (by decide)
  have hIff : ∀ {a u b m t d : Text}, '\n' ∉ a → '\n' ∉ u → '\n' ∉ b → '\n' ∉ t → '\n' ∉ d →
      ('\n' ∈ a ++ u ++ b ++ m ++ b ++ t ++ d ↔ '\n' ∈ m) := by
    intro a u b m t d ha hu hb ht hd
    simp [ha, hu, hb, ht, hd]
  exact hIff (by decide) (hNot h.uuid) (by decide) (hNot h.fsType) (by decide)

omit h in
theorem isEntryFor_of_words {line : Text} (hWords : words line = payload.fstabFields uuid) :
    isEntryFor (trim payload.mountPoint) line := by
  obtain ⟨rest, hTrim, -⟩ := exists_of_words_trim hWords
  have hActive : isActive line = true := by
    rw [isActive, hTrim]
    rfl
  rw [isEntryFor, hActive, hWords]
  exact beq_self_eq_true (some (trim payload.mountPoint))

end

section

variable {mountPoint : Text} {fields : List Text} {old : Text}

theorem mem_statements {line table : Text} :
    line ∈ statements table ↔ line ∈ lines table ∧ trim line ≠ [] := by
  simp [statements]

theorem hasOneEntry_self_iff (hEntry : ∀ line, words line = fields → isEntryFor mountPoint line) :
    HasOneEntry mountPoint fields old old ↔ (entriesFor mountPoint old).map words = [fields] := by
  constructor
  · rintro ⟨before, entry, after, hOld, hWords, hOthers⟩
    have hNone : ∀ line ∈ before ++ after, ¬ isEntryFor mountPoint line = true := by
      intro line hLine
      rw [hOthers] at hLine
      simpa using (List.mem_filter.mp hLine).2
    have hEntries : entriesFor mountPoint old = [entry] := by
      rw [entriesFor, hOld]
      refine List.filter_eq_cons_iff.mpr ⟨before, after, rfl,
        fun line hLine => hNone line (List.mem_append_left _ hLine), hEntry entry hWords, ?_⟩
      exact List.filter_eq_nil_iff.mpr fun line hLine => hNone line (List.mem_append_right _ hLine)
    rw [hEntries, List.map_singleton, hWords]
  · intro h
    obtain ⟨entry, hEntries, hWords⟩ := List.map_eq_singleton_iff.mp h
    obtain ⟨before, after, hOld, hBefore, hIs, hAfter⟩ := List.filter_eq_cons_iff.mp hEntries
    refine ⟨before, entry, after, hOld, hWords, ?_⟩
    have hKeepBefore : before.filter (!isEntryFor mountPoint ·) = before :=
      List.filter_eq_self.mpr fun line hLine => by simpa using hBefore line hLine
    have hKeepAfter : after.filter (!isEntryFor mountPoint ·) = after :=
      List.filter_eq_self.mpr fun line hLine => by
        simpa using List.filter_eq_nil_iff.mp hAfter line hLine
    rw [hOld, List.filter_append, List.filter_cons_of_neg (by simp [hIs]), hKeepBefore, hKeepAfter]

variable {payload : CreateFsPayload} {uuid : Text} (h : HasWords payload uuid)

include h

theorem lines_nextFstab : lines (nextFstab old (payload.fstabLine uuid)) =
    (lines old).filter (fun l => trim l = [] || startsWith (trim l) ['#'] ||
        (words l)[1]? != some (trim payload.mountPoint)) ++
      lines (payload.fstabLine uuid) ++ [[]] := by
  obtain ⟨front, hFront⟩ := @exists_fstabLine payload uuid
  have hField : (words (payload.fstabLine uuid))[1]? = some (trim payload.mountPoint) := by
    rw [words_fstabLine h]
    rfl
  rw [nextFstab, trim_fstabLine, hField]
  generalize hKept : (lines old).filter (fun l => trim l = [] || startsWith (trim l) ['#'] ||
      (words l)[1]? != some (trim payload.mountPoint)) = kept
  have hOneLine : ∀ line ∈ kept, '\n' ∉ line := by
    intro line hLine
    rw [← hKept] at hLine
    exact newline_not_mem_of_mem_lines (List.mem_filter.mp hLine).1
  have hEnd : payload.fstabLine uuid <:+ joinLines (kept ++ [payload.fstabLine uuid]) :=
    suffix_intercalate (by simp)
  obtain ⟨before, hBefore⟩ := hEnd
  have hDrop : (joinLines (kept ++ [payload.fstabLine uuid])).rdropWhile (· = '\n') =
      joinLines (kept ++ [payload.fstabLine uuid]) := by
    rw [← hBefore, hFront, ← List.append_assoc]
    exact List.rdropWhile_concat_neg _ _ _ (by decide)
  rw [hDrop, lines_append_newline, lines_joinLines_concat hOneLine]
  rfl

theorem statements_nextFstab : statements (nextFstab old (payload.fstabLine uuid)) =
    (statements old).filter (!isEntryFor (trim payload.mountPoint) ·) ++
      statements (payload.fstabLine uuid) := by
  have hSame : ∀ l ∈ lines old, (decide (trim l ≠ []) && (decide (trim l = []) ||
      startsWith (trim l) ['#'] || (words l)[1]? != some (trim payload.mountPoint))) =
      (decide (trim l ≠ []) && !isEntryFor (trim payload.mountPoint) l) := by
    intro l _
    by_cases hBlank : trim l = [] <;> cases hComment : startsWith (trim l) ['#'] <;>
      simp [isEntryFor, isActive, hBlank, hComment, bne]
  rw [statements, lines_nextFstab h, List.filter_append, List.filter_append, List.filter_filter,
    List.filter_congr hSame, statements, statements, List.filter_filter,
    List.filter_congr fun l _ => Bool.and_comm _ (!isEntryFor (trim payload.mountPoint) l)]
  exact List.append_nil _

theorem statements_fstabLine (hLine : '\n' ∉ payload.mountPoint) :
    statements (payload.fstabLine uuid) = [payload.fstabLine uuid] := by
  have hNot := mt (newline_mem_fstabLine h).mp hLine
  rw [statements, lines_of_newline_not_mem hNot]
  exact List.filter_eq_self.mpr fun l hl => by
    obtain rfl := List.mem_singleton.mp hl
    rw [trim_fstabLine]
    rfl

theorem hasOneEntry_nextFstab_iff :
    HasOneEntry (trim payload.mountPoint) (payload.fstabFields uuid) old
      (nextFstab old (payload.fstabLine uuid)) ↔ '\n' ∉ payload.mountPoint := by
  constructor
  · rintro ⟨before, entry, after, hNew, hWords, -⟩
    have hMem : entry ∈ statements (nextFstab old (payload.fstabLine uuid)) := by
      rw [hNew]
      exact List.mem_append_right _ List.mem_cons_self
    rw [statements_nextFstab h] at hMem
    rcases List.mem_append.mp hMem with hOld | hLine
    · have hOther := (List.mem_filter.mp hOld).2
      rw [isEntryFor_of_words hWords] at hOther
      cases hOther
    · obtain ⟨front, hFront⟩ := @exists_fstabLine payload uuid
      rw [← newline_mem_fstabLine h]
      refine newline_not_mem_of_words_eq ?_ ?_ (mem_statements.mp hLine).1
        (hWords.trans (words_fstabLine h).symm)
      · intro c hc
        obtain rfl : 'U' = c := by simpa [head?_fstabLine] using hc
        decide
      · intro c hc
        obtain rfl : '0' = c := by simpa [hFront] using hc
        decide
  · intro hLine
    refine ⟨_, payload.fstabLine uuid, [], ?_, words_fstabLine h, List.append_nil _⟩
    rw [statements_nextFstab h, statements_fstabLine h hLine]

theorem hasLine_nextFstab (hLine : '\n' ∉ payload.mountPoint) :
    hasLine (nextFstab old (payload.fstabLine uuid)) (payload.fstabLine uuid) := by
  have hNot := mt (newline_mem_fstabLine h).mp hLine
  refine List.any_eq_true.mpr ⟨payload.fstabLine uuid, ?_, decide_eq_true rfl⟩
  rw [lines_nextFstab h, lines_of_newline_not_mem hNot]
  simp

theorem newline_not_mem_of_hasLine {stdout : Text}
    (hFound : hasLine stdout (payload.fstabLine uuid)) : '\n' ∉ payload.mountPoint := by
  obtain ⟨l, hl, hTrim⟩ := List.any_eq_true.mp hFound
  have hSame : trim l = payload.fstabLine uuid := (of_decide_eq_true hTrim).trans trim_fstabLine
  obtain ⟨p, q, -, -, hText⟩ := exists_spaces_trim l
  rw [← newline_mem_fstabLine h, ← hSame]
  intro hMem
  refine newline_not_mem_of_mem_lines hl ?_
  rw [← hText]
  simp [hMem]

end

namespace FstabAttempt

/-- Nothing happens to the script. -/
def unhindered : FstabAttempt where
  delimiter := "ESOS_B64_".toList
  faults := {}
  closing := .passesOn []

def outOfRoom : FstabAttempt where
  delimiter := "ESOS_B64_".toList
  faults := { decode := { cutAfter := some 0 } }
  closing := .passesOn []

variable {attempt : FstabAttempt} {stdout line : Text} {file : RemoteFile}

theorem append_of_hasLine (hLine : trim line ≠ []) (h : hasLine stdout line) :
    attempt.appendFstabLine (.ok stdout) line file =
      ({ file with stderr := [] }, do
        let result ← attempt.closing.answer (.exited 0) []
        throwIf (result.code ≠ 0)
          (orElseText (trim result.stderr) "Échec mise à jour fstab".toList)) := by
  rw [appendFstabLine, fstabAppendLines, if_neg hLine, if_pos h]
  rfl

theorem target_of_hasLine (hLine : trim line ≠ []) (h : hasLine stdout line) :
    (attempt.appendFstabLine (.ok stdout) line file).1.target = file.target := by
  rw [append_of_hasLine hLine h]

theorem collides_eq_false (content : Text) :
    contains (contentToBase64 content) "ESOS_B64_".toList = false := by
  rw [contains_eq_false_iff]
  intro hIn
  have hMem : '_' ∈ contentToBase64 content := hIn.subset (by decide)
  exact absurd (Base64.mem_of_mem_encode hMem) (by decide)

theorem exists_append_of_not_hasLine (hLine : trim line ≠ []) (h : hasLine stdout line = false)
    (hCollides : contains (contentToBase64 (nextFstab stdout line)) attempt.delimiter = false) :
    ∃ after ending, attempt.appendFstabLine (.ok stdout) line file =
        (after, do
          let result ← attempt.closing.answer ending after.stderr
          throwIf (result.code ≠ 0)
            (orElseText (trim result.stderr) "Échec mise à jour fstab".toList)) ∧
      after.target = (attempt.faults.moved true (nextFstab stdout line)
        { file with stderr := [] }).or file.target ∧
      ending = if Ssh.isKilled (attempt.faults.commands true) = true then .killed
        else .exited (if (attempt.faults.moved true (nextFstab stdout line)
          { file with stderr := [] }).isSome then 0 else 1) := by
  obtain ⟨ls, hLines⟩ : ∃ ls, atomicWriteLines fstabPath attempt.delimiter (nextFstab stdout line)
      true attempt.faults = .ok ls := ⟨_, Ssh.atomicWriteLines_eq_ok.mpr ⟨hCollides, rfl⟩⟩
  obtain ⟨tmp, hRun⟩ := Ssh.exists_runFrom_atomicWriteLines { file with stderr := [] } 0 hLines
  rw [appendFstabLine, fstabAppendLines, if_neg hLine, if_neg (by simp [h]), hLines]
  dsimp only
  rw [Ssh.execLines_of_run hRun]
  exact ⟨_, _, rfl, rfl, rfl⟩

theorem succeeds_unhindered_of_hasLine (hLine : trim line ≠ []) (h : hasLine stdout line) :
    unhindered.Succeeds (.ok stdout) line file := by
  refine ⟨?_, fun other hRead hMissing => ?_⟩
  · rw [append_of_hasLine hLine h]
    rfl
  · obtain rfl := Except.ok.inj hRead
    rw [h] at hMissing
    cases hMissing

theorem moved_unhindered (content : Text) (file : RemoteFile) :
    unhindered.faults.moved true content file = some (utf8 content) := rfl

theorem moved_outOfRoom (content : Text) (file : RemoteFile) :
    outOfRoom.faults.moved true content file = some [] := rfl

theorem succeeds_unhindered (hLine : trim line ≠ []) (h : hasLine stdout line = false) :
    unhindered.Succeeds (.ok stdout) line file ∧
      (unhindered.appendFstabLine (.ok stdout) line file).1.target =
        some (utf8 (nextFstab stdout line)) := by
  obtain ⟨after, ending, hRun, hTarget, hEnding⟩ :=
    @exists_append_of_not_hasLine unhindered stdout line file hLine h (collides_eq_false _)
  rw [moved_unhindered, Option.some_or] at hTarget
  have hWritten : (unhindered.appendFstabLine (.ok stdout) line file).1.target =
      some (utf8 (nextFstab stdout line)) := by
    rw [hRun, hTarget]
  refine ⟨⟨?_, fun other hRead _ => ?_⟩, hWritten⟩
  · rw [hRun, hEnding]
    rfl
  · obtain rfl := Except.ok.inj hRead
    exact hWritten

theorem target_outOfRoom (hLine : trim line ≠ []) (h : hasLine stdout line = false) :
    (outOfRoom.appendFstabLine (.ok stdout) line file).1.target = some [] := by
  obtain ⟨after, ending, hRun, hTarget, -⟩ :=
    @exists_append_of_not_hasLine outOfRoom stdout line file hLine h (collides_eq_false _)
  rw [hRun, hTarget, moved_outOfRoom, Option.some_or]

end FstabAttempt

section

open FstabAttempt

variable {payload : CreateFsPayload} {uuid old stdout : Text}

theorem trim_fstabLine_ne_nil : trim (payload.fstabLine uuid) ≠ [] := by
  rw [trim_fstabLine]
  exact List.cons_ne_nil _ _

theorem nextFstab_ne_nil : nextFstab stdout (payload.fstabLine uuid) ≠ [] :=
  List.append_ne_nil_of_right_ne_nil _ (List.cons_ne_nil _ _)

theorem fstabLaw_error (message : Text) : FstabLaw payload uuid old (.error message) where
  updated _ hSucceeds := nomatch hSucceeds.returns
  unread _ _ := rfl
  again hRead := nomatch hRead

theorem fstabLaw_of_isPlainUpdate (h : HasWords payload uuid)
    (hPlain : IsPlainUpdate payload uuid old stdout) : FstabLaw payload uuid old (.ok stdout) := by
  have hFound : hasLine stdout (payload.fstabLine uuid) = true → ∀ attempt : FstabAttempt,
      (attempt.appendFstabLine (.ok stdout) (payload.fstabLine uuid) (holding old)).1.target =
        some (utf8 old) := fun hFound attempt => target_of_hasLine trim_fstabLine_ne_nil hFound
  refine ⟨fun attempt hSucceeds => ?_, fun hUnread attempt => ?_, ?_⟩
  · cases hHas : hasLine stdout (payload.fstabLine uuid) with
    | true =>
      exact ⟨old, hFound hHas attempt,
        (hasOneEntry_self_iff fun _ => isEntryFor_of_words).mpr (hPlain.sole hHas)⟩
    | false =>
      obtain rfl : stdout = old := hPlain.wholeOrFound.resolve_right (by simp [hHas])
      exact ⟨_, hSucceeds.written stdout rfl hHas,
        (hasOneEntry_nextFstab_iff h).mpr hPlain.oneLine⟩
  · refine hFound (hPlain.wholeOrFound.resolve_left fun hWhole => hUnread ?_) attempt
    rw [hWhole]
  · intro hRead first second new file hFirst hFile hNew
    obtain rfl := Except.ok.inj hRead
    have hAgain : hasLine new (payload.fstabLine uuid) = true := by
      cases hHas : hasLine stdout (payload.fstabLine uuid) with
      | true =>
        have hOld := hFound hHas first
        rw [hFile, hNew] at hOld
        rw [utf8_injective (Option.some.inj hOld), hHas]
      | false =>
        have hWritten := hFirst.written stdout rfl hHas
        rw [hFile, hNew] at hWritten
        rw [utf8_injective (Option.some.inj hWritten)]
        exact hasLine_nextFstab h hPlain.oneLine
    rw [target_of_hasLine trim_fstabLine_ne_nil hAgain, hNew]

theorem isPlainUpdate_of_fstabLaw (h : HasWords payload uuid)
    (hLaw : FstabLaw payload uuid old (.ok stdout)) : IsPlainUpdate payload uuid old stdout := by
  cases hHas : hasLine stdout (payload.fstabLine uuid) with
  | true =>
    refine ⟨newline_not_mem_of_hasLine h hHas, Or.inr hHas, fun _ => ?_⟩
    obtain ⟨new, hNew, hEntry⟩ := hLaw.updated unhindered
      (succeeds_unhindered_of_hasLine trim_fstabLine_ne_nil hHas)
    rw [target_of_hasLine trim_fstabLine_ne_nil hHas] at hNew
    obtain rfl : old = new := utf8_injective (Option.some.inj hNew)
    exact (hasOneEntry_self_iff fun _ => isEntryFor_of_words).mp hEntry
  | false =>
    obtain ⟨hSucceeds, hWritten⟩ :=
      @succeeds_unhindered stdout _ (holding old) trim_fstabLine_ne_nil hHas
    have hWhole : stdout = old := by
      by_contra hNot
      have hUnread := hLaw.unread (fun hRead => hNot (Except.ok.inj hRead))
      -- The old table would be the new one, and empty.
      have hNext := hUnread unhindered
      have hEmpty := hUnread outOfRoom
      rw [hWritten] at hNext
      rw [target_outOfRoom trim_fstabLine_ne_nil hHas] at hEmpty
      have hNil : utf8 (nextFstab stdout (payload.fstabLine uuid)) = utf8 [] :=
        (Option.some.inj hNext).trans (Option.some.inj hEmpty).symm
      exact nextFstab_ne_nil (utf8_injective hNil)
    subst hWhole
    refine ⟨?_, Or.inl rfl, fun hNot => absurd hNot (by simp [hHas])⟩
    obtain ⟨new, hNew, hEntry⟩ := hLaw.updated unhindered hSucceeds
    rw [hWritten] at hNew
    obtain rfl := utf8_injective (Option.some.inj hNew)
    exact (hasOneEntry_nextFstab_iff h).mp hEntry

end

theorem fstabLaw_iff_isPlainUpdate (payload : CreateFsPayload) (uuid old : Text)
    (read : Except Text Text) (hAccepted : validateCreateFsInput payload [] = [])
    (hUuid : IsWord uuid) :
    FstabLaw payload uuid old read ↔ ∀ stdout, read = .ok stdout →
      IsPlainUpdate payload uuid old stdout := by
  have hWords := hasWords_of_accepted hAccepted hUuid
  constructor
  · rintro hLaw stdout rfl
    exact isPlainUpdate_of_fstabLaw hWords hLaw
  · intro hPlain
    cases read with
    | error message => exact fstabLaw_error message
    | ok stdout => exact fstabLaw_of_isPlainUpdate hWords (hPlain stdout rfl)

/-- The request of a file system under `/mnt/vdisks`. -/
def vdisksPayload : CreateFsPayload where
  backendPath := "/dev/sdb".toList
  fsType := "xfs".toList
  label := "vdisks".toList
  mountPoint := "/mnt/vdisks".toList

def rootEntry : Text := "/dev/sda1 / ext4 defaults 0 1\n".toList

/-- Read in full, the table of the root gets the line. -/
theorem fstabLaw_rootEntry : FstabLaw vdisksPayload "9f3e".toList rootEntry (.ok rootEntry) :=
  (fstabLaw_iff_isPlainUpdate vdisksPayload "9f3e".toList rootEntry (.ok rootEntry) (by decide)
    (by decide)).mpr fun _ hRead => Except.ok.inj hRead ▸ ⟨by decide, Or.inl rfl, by decide⟩

/-- The line, and another device for the same directory. -/
def twoEntries : Text :=
  "/dev/sdc /mnt/vdisks ext4 defaults 0 0\nUUID=9f3e  /mnt/vdisks  xfs  defaults  0  0\n".toList

/-- A table that can not be read is replaced, another entry stays beside the line, and a line break
before the mount point breaks the line. -/
theorem fstab_not_updated :
    ¬ FstabLaw vdisksPayload "9f3e".toList rootEntry (.ok []) ∧
    ¬ FstabLaw vdisksPayload "9f3e".toList twoEntries (.ok twoEntries) ∧
    ¬ FstabLaw { vdisksPayload with mountPoint := "\n/mnt/vdisks".toList } "9f3e".toList rootEntry
        (.ok rootEntry) := by
  have hUuid : IsWord "9f3e".toList := by decide
  refine ⟨fun hLaw => ?_, fun hLaw => ?_, fun hLaw => ?_⟩
  · have hPlain := isPlainUpdate_of_fstabLaw (hasWords_of_accepted (by decide) hUuid) hLaw
    exact absurd hPlain.wholeOrFound (by decide)
  · have hPlain := isPlainUpdate_of_fstabLaw (hasWords_of_accepted (by decide) hUuid) hLaw
    exact absurd (hPlain.sole (by decide)) (by decide)
  · have hPlain := isPlainUpdate_of_fstabLaw (hasWords_of_accepted (by decide) hUuid) hLaw
    exact hPlain.oneLine (by decide)

end EsosWebui.Fs
