import EsosWebui.Lvm.Overview
import EsosWebui.Posix.CommandLine

/-! What becomes of the names of a group and a volume: in the name that the device mapper gives to
the volume, and in the commands of the tools. -/
namespace EsosWebui.Lvm

open Js Posix

def lvmMapperDeviceName (vgName lvName : Text) : Text :=
  lvmMapperSegment vgName ++ '-' :: lvmMapperSegment lvName

def hyphens (n : Nat) : Text := List.replicate n '-'

/-- One pair of names comes from the other when hyphens move between the end of the name of the
group and the start of the name of the volume. -/
def HyphensMoved (vgName lvName vgName' lvName' : Text) : Prop :=
  ∃ n > 0, (vgName = vgName' ++ hyphens n ∧ lvName' = hyphens n ++ lvName) ∨
    (vgName' = vgName ++ hyphens n ∧ lvName = hyphens n ++ lvName')

section

variable {c : Char} {name name' vgName lvName vgName' lvName' : Text}

theorem lvmMapperSegment_hyphen (name : Text) :
    lvmMapperSegment ('-' :: name) = '-' :: '-' :: lvmMapperSegment name := rfl

theorem lvmMapperSegment_cons (hc : c ≠ '-') (name : Text) :
    lvmMapperSegment (c :: name) = c :: lvmMapperSegment name := by
  simp [lvmMapperSegment, hc]

theorem lvmMapperSegment_append (name name' : Text) :
    lvmMapperSegment (name ++ name') = lvmMapperSegment name ++ lvmMapperSegment name' := by
  simp [lvmMapperSegment]

theorem lvmMapperSegment_hyphens_append (n : Nat) (rest : Text) :
    lvmMapperSegment (hyphens n) ++ '-' :: rest =
      '-' :: (lvmMapperSegment (hyphens n) ++ rest) := by
  induction n with
  | zero => rfl
  | succ n ih =>
    rw [hyphens, List.replicate_succ, ← hyphens, lvmMapperSegment_hyphen, List.cons_append,
      List.cons_append, ih]
    rfl

theorem cons_inj_of_segment_append {d : Char} {rest rest' : Text}
    (h : lvmMapperSegment (c :: name) ++ rest = lvmMapperSegment (d :: name') ++ rest') :
    c = d ∧ lvmMapperSegment name ++ rest = lvmMapperSegment name' ++ rest' := by
  by_cases hc : c = '-'
  · subst hc
    by_cases hd : d = '-'
    · subst hd
      exact ⟨rfl, (List.cons.inj (List.cons.inj h).2).2⟩
    · rw [lvmMapperSegment_hyphen, lvmMapperSegment_cons hd] at h
      exact absurd (List.cons.inj h).1.symm hd
  · by_cases hd : d = '-'
    · subst hd
      rw [lvmMapperSegment_hyphen, lvmMapperSegment_cons hc] at h
      exact absurd (List.cons.inj h).1 hc
    · rw [lvmMapperSegment_cons hc, lvmMapperSegment_cons hd] at h
      exact ⟨(List.cons.inj h).1, (List.cons.inj h).2⟩

theorem lvmMapperSegment_eq_nil_iff : lvmMapperSegment name = [] ↔ name = [] := by
  cases name with
  | nil => simp [lvmMapperSegment]
  | cons c name => by_cases hc : c = '-' <;> simp [lvmMapperSegment, hc]

theorem lvmMapperSegment_injective (h : lvmMapperSegment name = lvmMapperSegment name') :
    name = name' := by
  induction name generalizing name' with
  | nil => exact (lvmMapperSegment_eq_nil_iff.mp h.symm).symm
  | cons c name ih =>
    cases name' with
    | nil => exact lvmMapperSegment_eq_nil_iff.mp h
    | cons d name' =>
      rw [← List.append_nil (lvmMapperSegment (c :: name)),
        ← List.append_nil (lvmMapperSegment (d :: name'))] at h
      obtain ⟨rfl, hRest⟩ := cons_inj_of_segment_append h
      rw [List.append_nil, List.append_nil] at hRest
      rw [ih hRest]

/-- What the hyphen between the names can be mistaken for, when one group has no name left. -/
theorem eq_hyphens_of_mapper_eq
    (h : '-' :: lvmMapperSegment name = lvmMapperDeviceName vgName lvName) :
    ∃ n, vgName = hyphens n ∧ name = hyphens n ++ lvName := by
  induction vgName generalizing name with
  | nil => exact ⟨0, rfl, lvmMapperSegment_injective (List.cons.inj h).2⟩
  | cons c vgName ih =>
    by_cases hc : c = '-'
    · subst hc
      rw [lvmMapperDeviceName, lvmMapperSegment_hyphen, List.cons_append, List.cons_append] at h
      have hRest := (List.cons.inj h).2
      cases name with
      | nil => exact nomatch hRest
      | cons d name =>
        by_cases hd : d = '-'
        · subst hd
          rw [lvmMapperSegment_hyphen] at hRest
          obtain ⟨n, rfl, rfl⟩ := ih (List.cons.inj hRest).2
          exact ⟨n + 1, rfl, rfl⟩
        · rw [lvmMapperSegment_cons hd] at hRest
          exact absurd (List.cons.inj hRest).1 hd
    · rw [lvmMapperDeviceName, lvmMapperSegment_cons hc, List.cons_append] at h
      exact absurd (List.cons.inj h).1.symm hc

theorem exists_moved_of_mapper_eq
    (h : lvmMapperDeviceName vgName lvName = lvmMapperDeviceName vgName' lvName') :
    ∃ n, (vgName = vgName' ++ hyphens n ∧ lvName' = hyphens n ++ lvName) ∨
      (vgName' = vgName ++ hyphens n ∧ lvName = hyphens n ++ lvName') := by
  induction vgName generalizing vgName' with
  | nil =>
    obtain ⟨n, rfl, hLv⟩ := eq_hyphens_of_mapper_eq h
    exact ⟨n, .inr ⟨rfl, hLv⟩⟩
  | cons c vgName ih =>
    cases vgName' with
    | nil =>
      obtain ⟨n, hVg, hLv⟩ := eq_hyphens_of_mapper_eq h.symm
      exact ⟨n, .inl ⟨hVg, hLv⟩⟩
    | cons d vgName' =>
      obtain ⟨rfl, hRest⟩ := cons_inj_of_segment_append h
      obtain ⟨n, ⟨rfl, rfl⟩ | ⟨rfl, rfl⟩⟩ := ih hRest
      · exact ⟨n, .inl ⟨rfl, rfl⟩⟩
      · exact ⟨n, .inr ⟨rfl, rfl⟩⟩

theorem mapper_eq_of_moved (n : Nat) (vgName lvName : Text) :
    lvmMapperDeviceName (vgName ++ hyphens n) lvName =
      lvmMapperDeviceName vgName (hyphens n ++ lvName) := by
  rw [lvmMapperDeviceName, lvmMapperDeviceName, lvmMapperSegment_append, lvmMapperSegment_append,
    List.append_assoc, lvmMapperSegment_hyphens_append]

theorem lvmMapperDeviceName_eq_iff :
    lvmMapperDeviceName vgName lvName = lvmMapperDeviceName vgName' lvName' ↔
      (vgName = vgName' ∧ lvName = lvName') ∨ HyphensMoved vgName lvName vgName' lvName' := by
  constructor
  · intro h
    obtain ⟨n, hMoved⟩ := exists_moved_of_mapper_eq h
    cases n with
    | zero =>
      left
      obtain ⟨rfl, rfl⟩ | ⟨rfl, rfl⟩ := hMoved
      · exact ⟨List.append_nil _, rfl⟩
      · exact ⟨(List.append_nil _).symm, rfl⟩
    | succ n => exact .inr ⟨n + 1, Nat.succ_pos n, hMoved⟩
  · rintro (⟨rfl, rfl⟩ | ⟨n, -, ⟨rfl, rfl⟩ | ⟨rfl, rfl⟩⟩)
    · rfl
    · exact mapper_eq_of_moved n _ _
    · exact (mapper_eq_of_moved n _ _).symm

theorem ne_of_hyphensMoved (h : HyphensMoved vgName lvName vgName' lvName') : vgName ≠ vgName' := by
  obtain ⟨n, hPos, ⟨rfl, -⟩ | ⟨rfl, -⟩⟩ := h
  · intro hEq
    have hLength := congrArg List.length hEq
    simp [hyphens] at hLength
    omega
  · intro hEq
    have hLength := congrArg List.length hEq
    simp [hyphens] at hLength
    omega

end

inductive NamedCommand where
  | vgCreate (pvPaths : List String)
  | lvCreate (sizeArg : String)
  | vgRemove
  | lvRemove

namespace NamedCommand

def args (vgName lvName : String) : NamedCommand → List String
  | vgCreate pvPaths => vgCreateArgs vgName pvPaths
  | lvCreate sizeArg => ["lvcreate", "-y", "-v", "-L", sizeArg, "-n", lvName, vgName]
  | vgRemove => vgRemoveArgs vgName
  | lvRemove => lvRemoveArgs vgName lvName

/-- Where the names stand among the words after the tool, and what they are meant to be there. -/
def names : NamedCommand → List (Nat × Reading)
  | vgCreate _ => [(1, .operand)]
  | lvCreate _ => [(5, .valueOf "-n".toList), (6, .operand)]
  | vgRemove | lvRemove => [(2, .operand)]

/-- A name of a group that the tool does not take for an option. The name of a volume follows it
after a slash in the command that removes the volume. -/
def TakesGroup (vgName : String) : NamedCommand → Prop
  | lvRemove => vgName.toList.head? ≠ some '-'
  | _ => ¬ IsOption vgName.toList

end NamedCommand

/-- The options of the tools, as far as they are used: those that stand alone and those that take
the next word. -/
structure ToolOptions where
  takesNext : (tool option : Text) → Bool
  verbose : ∀ tool ∈ ["vgcreate", "lvcreate"], takesNext tool.toList "-v".toList = false
  yes : ∀ tool ∈ ["lvcreate", "vgremove", "lvremove"], takesNext tool.toList "-y".toList = false
  force : ∀ tool ∈ ["vgremove", "lvremove"], takesNext tool.toList "-f".toList = false
  size : takesNext "lvcreate".toList "-L".toList = true
  name : takesNext "lvcreate".toList "-n".toList = true

def toolReadings (tools : ToolOptions) (command : String) : Option (List Reading) :=
  (wordsFrom isPlainShellChar .between command.toList).bind fun words =>
    words.head?.map fun tool => readWords (tools.takesNext tool) words.tail

/-- The tool reads every name of a command as what it is meant to be. -/
def NamesReadAsMeant (tools : ToolOptions) (command : NamedCommand) (vgName lvName : String) :
    Prop :=
  ∃ readings, toolReadings tools (shellCommand (command.args vgName lvName)) = some readings ∧
    ∀ name ∈ command.names, readings[name.1]? = some name.2

section

variable {tools : ToolOptions} {vgName lvName : String}

theorem isPlain_isPlainShellChar : IsPlain isPlainShellChar :=
  ⟨by decide, by decide, by decide⟩

theorem toList_shellQuote (arg : String) :
    (shellQuote arg).toList = quoteWord isPlainShellChar arg.toList := by
  have hQuotes : arg.toList.flatMap (fun c => if c = '\'' then "'\\''".toList else [c]) =
      escapeQuotes arg.toList := rfl
  have hPlain : consistsOf isPlainShellChar arg.toList = true ↔
      arg.toList ≠ [] ∧ arg.toList.all isPlainShellChar = true := by
    simp [consistsOf]
  rw [shellQuote, quoteWord, hQuotes]
  by_cases h : consistsOf isPlainShellChar arg.toList = true
  · rw [if_pos h, if_pos (hPlain.mp h)]
  · rw [if_neg h, if_neg fun hAll => h (hPlain.mpr hAll)]
    simp

/-- The shell hands every argument to the tool as it is. -/
theorem wordsFrom_shellCommand (args : List String) :
    wordsFrom isPlainShellChar .between (shellCommand args).toList =
      some (args.map String.toList) := by
  rw [shellCommand, toList_join, List.map_map, ← wordsFrom_intercalate isPlain_isPlainShellChar,
    List.map_map]
  congr 2
  apply List.map_congr_left
  intro arg _
  exact toList_shellQuote arg

theorem toolReadings_shellCommand (tool : String) (args : List String) :
    toolReadings tools (shellCommand (tool :: args)) =
      some (readWords (tools.takesNext tool.toList) (args.map String.toList)) := by
  rw [toolReadings, wordsFrom_shellCommand]
  rfl

theorem isOption_removed_iff (vgName lvName : String) :
    IsOption s!"{vgName}/{lvName}".toList ↔ vgName.toList.head? = some '-' := by
  have hPath : s!"{vgName}/{lvName}".toList = vgName.toList ++ '/' :: lvName.toList := by
    simp [toString]
  rw [hPath, IsOption]
  cases vgName.toList with
  | nil => simp
  | cons c rest => simp

theorem namesReadAsMeant_iff_of_readings {command : NamedCommand} {readings : List Reading}
    (h : toolReadings tools (shellCommand (command.args vgName lvName)) = some readings) :
    NamesReadAsMeant tools command vgName lvName ↔
      ∀ name ∈ command.names, readings[name.1]? = some name.2 := by
  rw [NamesReadAsMeant, h]
  constructor
  · rintro ⟨_, ⟨⟩, hNames⟩
    exact hNames
  · intro hNames
    exact ⟨readings, rfl, hNames⟩

theorem getElem?_append_readWords {takesNext : Text → Bool} {word : Text} {rest : List Text}
    {i : Nat} {before : List Reading} (hi : before.length = i) :
    (before ++ readWords takesNext (word :: rest))[i]? = some .operand ↔ ¬ IsOption word := by
  rw [List.getElem?_append_right hi.le, hi, Nat.sub_self, ← List.head?_eq_getElem?]
  exact head?_readWords_eq_operand_iff takesNext word rest

theorem readWords_verbose {tool : String} (hTool : tool ∈ ["vgcreate", "lvcreate"])
    (rest : List Text) :
    readWords (tools.takesNext tool.toList) ("-v".toList :: rest) =
      .option :: readWords (tools.takesNext tool.toList) rest :=
  readWords_flag (by decide) (by decide) (tools.verbose tool hTool) rest

theorem readWords_yes {tool : String} (hTool : tool ∈ ["lvcreate", "vgremove", "lvremove"])
    (rest : List Text) :
    readWords (tools.takesNext tool.toList) ("-y".toList :: rest) =
      .option :: readWords (tools.takesNext tool.toList) rest :=
  readWords_flag (by decide) (by decide) (tools.yes tool hTool) rest

theorem readWords_force {tool : String} (hTool : tool ∈ ["vgremove", "lvremove"])
    (rest : List Text) :
    readWords (tools.takesNext tool.toList) ("-f".toList :: rest) =
      .option :: readWords (tools.takesNext tool.toList) rest :=
  readWords_flag (by decide) (by decide) (tools.force tool hTool) rest

theorem namesReadAsMeant_iff (command : NamedCommand) :
    NamesReadAsMeant tools command vgName lvName ↔ command.TakesGroup vgName := by
  cases command with
  | vgCreate pvPaths =>
    have hReadings := @toolReadings_shellCommand tools "vgcreate" ("-v" :: vgName :: pvPaths)
    rw [List.map_cons, List.map_cons, readWords_verbose (by decide)] at hReadings
    rw [@namesReadAsMeant_iff_of_readings _ _ _ (.vgCreate pvPaths) _ hReadings,
      NamedCommand.names, List.forall_mem_singleton]
    exact @getElem?_append_readWords _ _ _ 1 [.option] rfl
  | lvCreate sizeArg =>
    have hReadings := @toolReadings_shellCommand tools "lvcreate"
      ["-y", "-v", "-L", sizeArg, "-n", lvName, vgName]
    simp only [List.map_cons, List.map_nil] at hReadings
    rw [readWords_yes (by decide), readWords_verbose (by decide),
      readWords_value (by decide) (by decide) tools.size,
      readWords_value (by decide) (by decide) tools.name] at hReadings
    rw [@namesReadAsMeant_iff_of_readings _ _ _ (.lvCreate sizeArg) _ hReadings,
      NamedCommand.names, List.forall_mem_cons, List.forall_mem_singleton]
    exact (and_iff_right rfl).trans (@getElem?_append_readWords _ _ _ 6
      [.option, .option, .option, .valueOf "-L".toList, .option, .valueOf "-n".toList] rfl)
  | vgRemove =>
    have hReadings := @toolReadings_shellCommand tools "vgremove" ["-y", "-f", vgName]
    simp only [List.map_cons, List.map_nil] at hReadings
    rw [readWords_yes (by decide), readWords_force (by decide)] at hReadings
    rw [@namesReadAsMeant_iff_of_readings _ _ _ .vgRemove _ hReadings,
      NamedCommand.names, List.forall_mem_singleton]
    exact @getElem?_append_readWords _ _ _ 2 [.option, .option] rfl
  | lvRemove =>
    have hReadings := @toolReadings_shellCommand tools "lvremove"
      ["-y", "-f", s!"{vgName}/{lvName}"]
    simp only [List.map_cons, List.map_nil] at hReadings
    rw [readWords_yes (by decide), readWords_force (by decide)] at hReadings
    rw [@namesReadAsMeant_iff_of_readings _ _ _ .lvRemove _ hReadings,
      NamedCommand.names, List.forall_mem_singleton]
    exact (@getElem?_append_readWords _ _ _ 2 [.option, .option] rfl).trans
      (not_congr (isOption_removed_iff vgName lvName))

end

/-- Names are safe exactly when no hyphens are moved from one pair to the other, and the tool of a
command does not take the name of the group for an option. -/
theorem namesSafe_iff (tools : ToolOptions) (command : NamedCommand)
    (vgName lvName vgName' lvName' : String) :
    ((lvmMapperDeviceName vgName.toList lvName.toList =
          lvmMapperDeviceName vgName'.toList lvName'.toList →
        vgName = vgName' ∧ lvName = lvName') ↔
      ¬ HyphensMoved vgName.toList lvName.toList vgName'.toList lvName'.toList) ∧
    (NamesReadAsMeant tools command vgName lvName ↔ command.TakesGroup vgName) := by
  refine ⟨?_, namesReadAsMeant_iff command⟩
  rw [lvmMapperDeviceName_eq_iff]
  constructor
  · intro hSame hMoved
    exact ne_of_hyphensMoved hMoved (congrArg String.toList (hSame (.inr hMoved)).1)
  · rintro hStay (⟨hVg, hLv⟩ | hMoved)
    · exact ⟨String.toList_injective hVg, String.toList_injective hLv⟩
    · exact absurd hMoved hStay

def documentedOptions : ToolOptions where
  takesNext _ option := ["-L", "-n"].map String.toList |>.contains option
  verbose := by decide
  yes := by decide
  force := by decide
  size := by decide
  name := by decide

/-- Accepted names of different volumes get one name, and one of them is an option. -/
theorem accepted_names_unsafe :
    (isValidLvmName "a-" ∧ isValidLvmName "b" ∧ isValidLvmName "a" ∧ isValidLvmName "-b") ∧
      lvmMapperDeviceName "a-".toList "b".toList = lvmMapperDeviceName "a".toList "-b".toList ∧
      ¬ NamesReadAsMeant documentedOptions .vgRemove "-b" "b" := by
  refine ⟨by decide, by decide, ?_⟩
  rw [namesReadAsMeant_iff]
  exact not_not.mpr (by decide)

end EsosWebui.Lvm
