import EsosWebui.Raid.MdActions
import Mathlib.Data.Char
import Mathlib.Data.List.Lex

/-! The lines of `/etc/mdadm.conf` after a new array is persisted: all lines with its name in them
are dropped, the active arrays are appended, and one line is kept for each second field. -/
namespace EsosWebui.Raid.MdadmConf

open Js

def isBlank (c : Char) : Bool := c == ' ' || c == '\t'

def afterFirstField (line : Text) : Text := (line.dropWhile isBlank).dropWhile (!isBlank ·)

/-- The key of `sort -k2,2`: the second field with the blanks before it. -/
def sortKey (line : Text) : Text :=
  let rest := afterFirstField line
  rest.takeWhile isBlank ++ (rest.dropWhile isBlank).takeWhile (!isBlank ·)

/-- The second word, by which an `ARRAY` line names its array. -/
def deviceOf (line : Text) : Text :=
  ((afterFirstField line).dropWhile isBlank).takeWhile (!isBlank ·)

def arrayWord : Text := "ARRAY".toList

def isArrayLine (line : Text) : Bool := line.takeWhile (!isBlank ·) == arrayWord

def firstOfEach : List Text → List Text
  | [] => []
  | line :: lines => line :: (firstOfEach lines).filter (sortKey · ≠ sortKey line)

/-- `sort -u -k2,2` -/
def sortUnique (lines : List Text) : List Text :=
  (firstOfEach lines).mergeSort fun a b => decide (sortKey a ≤ sortKey b)

/-- `grep -v "${arrayName}"` -/
def remaining (arrayName : Text) (conf : List Text) : List Text :=
  conf.filter fun line => !contains line arrayName

/-- The commands of the pipeline that change the lines. -/
inductive ConfStep where
  | dropNamed (arrayName : Text)
  | appendScan
  | keepFirst

def ConfStep.command : ConfStep → String
  | .dropNamed arrayName =>
    let name := String.ofList arrayName
    s!"grep -v \"{name}\" /etc/mdadm.conf 2>/dev/null > /tmp/mdadm.conf.tmp || " ++
      "touch /tmp/mdadm.conf.tmp"
  | .appendScan => "mdadm --detail --scan >> /tmp/mdadm.conf.tmp"
  | .keepFirst => "sort -u -k2,2 /tmp/mdadm.conf.tmp > /etc/mdadm.conf"

def ConfStep.run (scan lines : List Text) : ConfStep → List Text
  | .dropNamed arrayName => remaining arrayName lines
  | .appendScan => lines ++ scan
  | .keepFirst => sortUnique lines

def persistSteps (arrayName : Text) : List ConfStep :=
  [.dropNamed arrayName, .appendScan, .keepFirst]

theorem persistCommand_eq (arrayName : Text) :
    persistCommand (String.ofList arrayName) =
      join "; " ((persistSteps arrayName).map ConfStep.command ++
        ["conf_sync.sh 2>/dev/null || true", "echo PERSIST_OK"]) := rfl

/-- The lines of the file after `persistCommand`. -/
def persist (arrayName : Text) (conf scan : List Text) : List Text :=
  (persistSteps arrayName).foldl (fun lines step => step.run scan lines) conf

theorem persist_eq (arrayName : Text) (conf scan : List Text) :
    persist arrayName conf scan = sortUnique (remaining arrayName conf ++ scan) := rfl

structure ActiveArray where
  device : Text
  details : Text

def ActiveArray.scanLine (array : ActiveArray) : Text :=
  arrayWord ++ ' ' :: (array.device ++ ' ' :: array.details)

def devicePath (arrayName : Text) : Text := "/dev/".toList ++ arrayName

/-- What the scan finds after the creation: each array once, and the new one among them. -/
structure ActiveArrays (arrayName : Text) where
  arrays : List ActiveArray
  words : ∀ array ∈ arrays, array.device ≠ [] ∧ ∀ c ∈ array.device, isBlank c = false
  distinct : (arrays.map (·.device)).Nodup
  created : devicePath arrayName ∈ arrays.map (·.device)

def ActiveArrays.scan {arrayName : Text} (active : ActiveArrays arrayName) : List Text :=
  active.arrays.map (·.scanLine)

variable {line : Text} {lines : List Text}

theorem mem_firstOfEach :
    line ∈ firstOfEach lines ↔ lines.find? (sortKey · = sortKey line) = some line := by
  induction lines with
  | nil => simp [firstOfEach]
  | cons first lines ih =>
    rw [firstOfEach, List.mem_cons, List.mem_filter, ih, decide_eq_true_iff, List.find?_cons]
    by_cases hKey : sortKey first = sortKey line
    · simp only [hKey, decide_true, ne_eq, not_true_eq_false, and_false, or_false,
        Option.some.injEq]
      exact eq_comm
    · simp only [hKey, decide_false, ne_eq, Ne.symm hKey, not_false_eq_true, and_true]
      refine or_iff_right ?_
      rintro rfl
      exact hKey rfl

theorem nodup_firstOfEach (lines : List Text) : (firstOfEach lines).Nodup := by
  induction lines with
  | nil => exact List.nodup_nil
  | cons first lines ih =>
    rw [firstOfEach, List.nodup_cons]
    refine ⟨fun hMem => ?_, ih.filter _⟩
    exact of_decide_eq_true (List.mem_filter.mp hMem).2 rfl

theorem mem_sortUnique :
    line ∈ sortUnique lines ↔ lines.find? (sortKey · = sortKey line) = some line := by
  rw [sortUnique, List.mem_mergeSort, mem_firstOfEach]

theorem mem_of_mem_sortUnique (h : line ∈ sortUnique lines) : line ∈ lines :=
  List.mem_of_find?_eq_some (mem_sortUnique.mp h)

theorem exists_kept (h : line ∈ lines) :
    ∃ first ∈ lines, lines.find? (sortKey · = sortKey line) = some first ∧
      sortKey first = sortKey line ∧ first ∈ sortUnique lines := by
  have hSome : (lines.find? (sortKey · = sortKey line)).isSome :=
    List.find?_isSome.mpr ⟨line, h, decide_eq_true rfl⟩
  obtain ⟨first, hFirst⟩ := Option.isSome_iff_exists.mp hSome
  have hKey : sortKey first = sortKey line := by simpa using List.find?_some hFirst
  refine ⟨first, List.mem_of_find?_eq_some hFirst, hFirst, hKey, ?_⟩
  rw [mem_sortUnique, hKey, hFirst]

theorem nodup_sortUnique (lines : List Text) : (sortUnique lines).Nodup :=
  (List.mergeSort_perm _ _).nodup_iff.mpr (nodup_firstOfEach lines)

theorem isBlank_of_mem_deviceOf (line : Text) {c : Char} (h : c ∈ deviceOf line) :
    isBlank c = false := by
  simpa using List.mem_takeWhile_imp h

theorem dropWhile_sortKey (line : Text) : (sortKey line).dropWhile isBlank = deviceOf line := by
  have hBlanks : ((afterFirstField line).takeWhile isBlank).dropWhile isBlank = [] :=
    List.dropWhile_eq_nil_iff.mpr fun c hc => List.mem_takeWhile_imp hc
  have hWord : (deviceOf line).dropWhile isBlank = deviceOf line := by
    cases hDevice : deviceOf line with
    | nil => rfl
    | cons c rest =>
      have hFirst : isBlank c = false :=
        isBlank_of_mem_deviceOf line (hDevice ▸ List.mem_cons_self)
      exact List.dropWhile_cons_of_neg (Bool.eq_false_iff.mp hFirst)
  rw [sortKey, List.dropWhile_append, hBlanks]
  exact hWord

theorem deviceOf_eq_of_sortKey_eq {other : Text} (h : sortKey line = sortKey other) :
    deviceOf line = deviceOf other := by
  rw [← dropWhile_sortKey, h, dropWhile_sortKey]

section

variable {arrayName : Text} (active : ActiveArrays arrayName)

theorem deviceOf_isInfix (line : Text) : deviceOf line <:+: line := by
  refine (List.takeWhile_prefix _).isInfix.trans ?_
  exact ((List.dropWhile_suffix _).trans
    ((List.dropWhile_suffix _).trans (List.dropWhile_suffix _))).isInfix

theorem isArrayLine_scanLine (array : ActiveArray) : isArrayLine array.scanLine := by
  rw [isArrayLine, ActiveArray.scanLine, beq_iff_eq]
  rfl

theorem deviceOf_scanLine {array : ActiveArray} (hArray : array ∈ active.arrays) :
    deviceOf array.scanLine = array.device := by
  obtain ⟨hNe, hDevice⟩ := active.words array hArray
  have hRest : afterFirstField array.scanLine = ' ' :: (array.device ++ ' ' :: array.details) := rfl
  obtain ⟨c, rest, hText⟩ := List.exists_cons_of_ne_nil hNe
  have hSkip : (' ' :: (array.device ++ ' ' :: array.details)).dropWhile isBlank =
      array.device ++ ' ' :: array.details := by
    have hc : isBlank c = false := hDevice c (hText ▸ List.mem_cons_self)
    rw [List.dropWhile_cons_of_pos rfl, hText]
    exact List.dropWhile_cons_of_neg (Bool.eq_false_iff.mp hc)
  rw [deviceOf, hRest, hSkip, List.takeWhile_append_of_pos]
  · exact List.append_nil _
  · intro c hc
    rw [hDevice c hc]
    rfl

theorem isArrayLine_of_mem_scan {line : Text} (h : line ∈ active.scan) :
    isArrayLine line := by
  obtain ⟨array, -, rfl⟩ := List.mem_map.mp h
  exact isArrayLine_scanLine array

theorem exists_created : ∃ created ∈ active.scan, deviceOf created = devicePath arrayName ∧
    ∀ line ∈ active.scan, deviceOf line = devicePath arrayName → line = created := by
  obtain ⟨array, hArray, hDevice⟩ := List.mem_map.mp active.created
  refine ⟨_, List.mem_map_of_mem hArray, (deviceOf_scanLine active hArray).trans hDevice, ?_⟩
  intro line hLine hSame
  obtain ⟨other, hOther, rfl⟩ := List.mem_map.mp hLine
  rw [deviceOf_scanLine active hOther, ← hDevice] at hSame
  rw [List.inj_on_of_nodup_map active.distinct hOther hArray hSame]

theorem deviceOf_ne_of_mem_remaining {conf : List Text} {line : Text}
    (h : line ∈ remaining arrayName conf) : deviceOf line ≠ devicePath arrayName := by
  intro hDevice
  have hName : ¬ arrayName <:+: line := by
    have hFilter := (List.mem_filter.mp h).2
    rwa [Bool.not_eq_true', contains_eq_false_iff] at hFilter
  apply hName
  have hPath : arrayName <:+: deviceOf line := by
    rw [hDevice]
    exact (List.suffix_append _ _).isInfix
  exact hPath.trans (deviceOf_isInfix line)

end

section

variable {arrayName : Text} {conf : List Text} (active : ActiveArrays arrayName)

/-- The lines of other uses and the arrays that the file had are still there, and the new array is
there once. -/
structure KeepsOthers (arrayName : Text) (conf scan : List Text) : Prop where
  others : ∀ line ∈ conf, isArrayLine line = false → line ∈ persist arrayName conf scan
  arrays : ∀ line ∈ conf, isArrayLine line = true → deviceOf line ≠ devicePath arrayName →
    ∃ kept ∈ persist arrayName conf scan, isArrayLine kept = true ∧ deviceOf kept = deviceOf line
  created : ((persist arrayName conf scan).filter fun line =>
    isArrayLine line && deviceOf line = devicePath arrayName).length = 1

/-- The name of the new array stands in no line of another use, and of the lines without it none
hides a line of another use, or the only lines of an array, by having the same second field. -/
structure NothingHidden (arrayName : Text) (conf scan : List Text) : Prop where
  others : ∀ line ∈ conf, isArrayLine line = false → ¬ arrayName <:+: line ∧
    (remaining arrayName conf).find? (sortKey · = sortKey line) = some line
  arrays : ∀ line ∈ conf, isArrayLine line = true → deviceOf line ≠ devicePath arrayName →
    ∃ other ∈ remaining arrayName conf ++ scan, isArrayLine other = true ∧
      deviceOf other = deviceOf line ∧
        ∀ first ∈ (remaining arrayName conf ++ scan).find? (sortKey · = sortKey other),
          isArrayLine first = true

theorem created_once (conf : List Text) :
    ((persist arrayName conf active.scan).filter fun line =>
      isArrayLine line && deviceOf line = devicePath arrayName).length = 1 := by
  obtain ⟨created, hScan, hDevice, hOnly⟩ := exists_created active
  have hSame : ∀ line ∈ remaining arrayName conf ++ active.scan,
      deviceOf line = devicePath arrayName → line = created := by
    intro line hLine hLineDevice
    rcases List.mem_append.mp hLine with hConf | hLine
    · exact absurd hLineDevice (deviceOf_ne_of_mem_remaining hConf)
    · exact hOnly line hLine hLineDevice
  obtain ⟨first, hFirst, -, hKey, hKept⟩ := exists_kept
    (List.mem_append_right (remaining arrayName conf) hScan)
  obtain rfl := hSame first hFirst ((deviceOf_eq_of_sortKey_eq hKey).trans hDevice)
  have hNodup := (nodup_sortUnique (remaining arrayName conf ++ active.scan)).filter
    fun line => isArrayLine line && deviceOf line = devicePath arrayName
  have hAll : ∀ line ∈ (persist arrayName conf active.scan).filter fun line =>
      isArrayLine line && deviceOf line = devicePath arrayName, line = first := by
    intro line hLine
    obtain ⟨hMem, hIs⟩ := List.mem_filter.mp hLine
    exact hSame line (mem_of_mem_sortUnique hMem)
      (of_decide_eq_true (Bool.and_eq_true_iff.mp hIs).2)
  have hIn : first ∈ (persist arrayName conf active.scan).filter fun line =>
      isArrayLine line && deviceOf line = devicePath arrayName := by
    refine List.mem_filter.mpr ⟨hKept, ?_⟩
    exact Bool.and_eq_true_iff.mpr
      ⟨isArrayLine_of_mem_scan active hScan, decide_eq_true hDevice⟩
  have hReplicate := List.eq_replicate_of_mem hAll
  rw [← persist_eq, hReplicate, List.nodup_replicate] at hNodup
  exact Nat.le_antisymm hNodup (List.length_pos_of_mem hIn)

theorem mem_remaining {line : Text} :
    line ∈ remaining arrayName conf ↔ line ∈ conf ∧ ¬ arrayName <:+: line := by
  rw [remaining, List.mem_filter, Bool.not_eq_true', contains_eq_false_iff]

theorem other_kept_iff {line : Text} (hOther : isArrayLine line = false) :
    line ∈ persist arrayName conf active.scan ↔
      ¬ arrayName <:+: line ∧
        (remaining arrayName conf).find? (sortKey · = sortKey line) = some line := by
  rw [persist_eq, mem_sortUnique]
  constructor
  · intro hFirst
    have hRemaining : line ∈ remaining arrayName conf := by
      refine (List.mem_append.mp (List.mem_of_find?_eq_some hFirst)).resolve_right fun hScan => ?_
      cases (isArrayLine_of_mem_scan active hScan).symm.trans hOther
    refine ⟨(mem_remaining.mp hRemaining).2, ?_⟩
    obtain ⟨first, -, hFound, -⟩ := exists_kept hRemaining
    rwa [List.find?_append, hFound, Option.some_or, ← hFound] at hFirst
  · rintro ⟨-, hFirst⟩
    rw [List.find?_append, hFirst, Option.some_or]

theorem array_kept_iff {scan : List Text} {device : Text} :
    (∃ kept ∈ persist arrayName conf scan, isArrayLine kept = true ∧ deviceOf kept = device) ↔
      ∃ other ∈ remaining arrayName conf ++ scan, isArrayLine other = true ∧
        deviceOf other = device ∧
          ∀ first ∈ (remaining arrayName conf ++ scan).find? (sortKey · = sortKey other),
            isArrayLine first = true := by
  constructor
  · rintro ⟨kept, hKept, hArray, hDevice⟩
    rw [persist_eq] at hKept
    refine ⟨kept, mem_of_mem_sortUnique hKept, hArray, hDevice, ?_⟩
    intro first hFirst
    rw [mem_sortUnique.mp hKept] at hFirst
    rwa [← Option.some.inj hFirst]
  · rintro ⟨other, hOther, -, hDevice, hFirsts⟩
    obtain ⟨first, -, hFound, hKey, hKept⟩ := exists_kept hOther
    exact ⟨first, hKept, hFirsts first hFound, (deviceOf_eq_of_sortKey_eq hKey).trans hDevice⟩

theorem keepsOthers_iff_nothingHidden (conf : List Text) :
    KeepsOthers arrayName conf active.scan ↔ NothingHidden arrayName conf active.scan := by
  constructor
  · intro h
    refine ⟨fun line hLine hOther => ?_, fun line hLine hArray hDevice => ?_⟩
    · exact (other_kept_iff active hOther).mp (h.others line hLine hOther)
    · exact array_kept_iff.mp (h.arrays line hLine hArray hDevice)
  · intro h
    refine ⟨fun line hLine hOther => ?_, fun line hLine hArray hDevice => ?_,
      created_once active conf⟩
    · exact (other_kept_iff active hOther).mpr (h.others line hLine hOther)
    · exact array_kept_iff.mpr (h.arrays line hLine hArray hDevice)

end

/-- The array `md1` alone. -/
def onlyMd1 : ActiveArrays "md1".toList where
  arrays := [⟨"/dev/md1".toList, "metadata=1.2".toList⟩]
  words := by
    intro array hArray
    rw [List.mem_singleton.mp hArray]
    refine ⟨by decide, fun c hc => ?_⟩
    have hAll : "/dev/md1".toList.all (!isBlank ·) = true := by decide
    simpa using List.all_eq_true.mp hAll c hc
  distinct := List.nodup_singleton _
  created := List.mem_singleton_self _

/-- The stopped array `md10` is no longer in the file after `md1` was created. -/
theorem md10_lost :
    ¬ ∀ (arrayName : Text) (active : ActiveArrays arrayName) (conf : List Text),
      KeepsOthers arrayName conf active.scan := by
  intro hAll
  obtain ⟨kept, hKept, -, hDevice⟩ := (hAll _ onlyMd1 ["ARRAY /dev/md10 UUID=1".toList]).arrays _
    (List.mem_singleton_self _) (by decide) (by decide)
  have hConf : persist "md1".toList ["ARRAY /dev/md10 UUID=1".toList] onlyMd1.scan =
      ["ARRAY /dev/md1 metadata=1.2".toList] := by
    decide +kernel
  rw [hConf, List.mem_singleton] at hKept
  rw [hKept] at hDevice
  revert hDevice
  decide

end EsosWebui.Raid.MdadmConf
