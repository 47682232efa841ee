import EsosWebui.Raid.MdCleaning

/-! The commands of an advanced cleanup, and the signature types that they erase: the type of a
member hides all others, and only one spelling stands for what `mdadm --examine` finds. -/
namespace EsosWebui.Raid

open Js

def memberType : String := "linux_raid_member"

/-- What stands for a superblock that `mdadm --examine` finds. -/
def examineType : String := "mdadm_examine"

/-- Characters that have a meaning to the shell, the blank apart. -/
def shellMeta : Text := "|&;<>()$`\\\"'\t\n".toList

def plainWords (command : Text) : List Text :=
  if command.any (· ∈ shellMeta) then [] else (command.splitOn ' ').filter (· ≠ [])

section

variable [CaseMapping]

def advancedCleanupCommands (partition : String) (remainingSignatureTypes : List String)
    (examineDetected : Bool) : Except HttpError (List String) := do
  let devPath ← sanitizeMemberPath partition
  buildAdvancedCleanupCommands devPath remainingSignatureTypes examineDetected

/-- The types that `wipefs` is given, if it is run on the device and on nothing else. -/
def namedTypes (devPath command : String) : List Text :=
  match plainWords command.toList with
  | [tool, option, all, device] =>
    if tool = "wipefs".toList ∧ "--types=".toList <+: option ∧ all = "-a".toList ∧
        device = devPath.toList then
      (option.drop 8).splitOn ','
    else []
  | _ => []

/-- Letter case makes no other type. -/
def SameType (name type : String) : Prop :=
  CaseMapping.toLowerCase name = CaseMapping.toLowerCase type

def Erases (devPath command type : String) : Prop :=
  if CaseMapping.toLowerCase type = examineType then command = zeroSuperblockCommand devPath true
  else ∃ name ∈ namedTypes devPath command, SameType (String.ofList name) type

def NothingToErase (types : List String) (examineDetected : Bool) : Prop :=
  (∀ type ∈ types, isRaidRelatedSignature type = false) ∧ examineDetected = false

structure CoversTypes (partition : String) (types : List String) (examineDetected : Bool) :
    Prop where
  erased : ∀ type ∈ types, isRaidRelatedSignature type = true →
    ∃ devPath commands, sanitizeMemberPath partition = .ok devPath ∧
      advancedCleanupCommands partition types examineDetected = .ok commands ∧
      ∃ command ∈ commands, Erases devPath command type
  onlyRaid : ∀ devPath commands, sanitizeMemberPath partition = .ok devPath →
    advancedCleanupCommands partition types examineDetected = .ok commands →
    ∀ command ∈ commands, ∀ name ∈ namedTypes devPath command,
      isRaidRelatedSignature (String.ofList name) = true
  throws : (∃ error, advancedCleanupCommands partition types examineDetected = .error error) ↔
    NothingToErase types examineDetected

/-- The type is one of an array, and stands for itself. -/
def IsWipedType (type : String) : Prop :=
  isRaidRelatedSignature type = true ∧ CaseMapping.toLowerCase type ≠ examineType

def HasMember (types : List String) : Prop :=
  ∃ type ∈ types, isRaidRelatedSignature type = true ∧ CaseMapping.toLowerCase type = memberType

structure Coverable (types : List String) (examineDetected : Bool) : Prop where
  /-- The superblock is asked for as it is spelled here, or was detected. -/
  examine : ∀ type ∈ types, isRaidRelatedSignature type = true →
    CaseMapping.toLowerCase type = examineType → examineType ∈ types ∨ examineDetected = true
  /-- Members come with no other type. -/
  member : HasMember types → ∀ type ∈ types, IsWipedType type →
    CaseMapping.toLowerCase type = memberType
  /-- The types can stand in a list, in one word. -/
  listed : ¬ HasMember types → ∀ type ∈ types, IsWipedType type →
    ∀ c ∈ type.toList, c ∉ ',' :: ' ' :: shellMeta

def typesToWipe (types : List String) : List String :=
  unique (types.filter fun type => type != examineType && isRaidRelatedSignature type)

def memberWipeCommand (devPath : String) : String := s!"wipefs --types=linux_raid_member -a {devPath}"

def listCommand (devPath : String) (types : List String) : String :=
  let listed := join "," types
  s!"wipefs --types={listed} -a {devPath}"

def wipeStep (devPath : String) (types : List String) : List String :=
  if (typesToWipe types).any fun type => CaseMapping.toLowerCase type == memberType then
    [memberWipeCommand devPath]
  else if (typesToWipe types).length > 0 then [listCommand devPath (typesToWipe types)]
  else []

def needsForceZero (types : List String) (examineDetected : Bool) : Bool :=
  types.contains examineType || examineDetected

def zeroStep (devPath : String) (types : List String) (examineDetected : Bool) : List String :=
  if needsForceZero types examineDetected then [zeroSuperblockCommand devPath true] else []

theorem buildAdvancedCleanupCommands_eq (devPath : String) (types : List String)
    (examineDetected : Bool) :
    buildAdvancedCleanupCommands devPath types examineDetected =
      let commands := wipeStep devPath types ++ zeroStep devPath types examineDetected
      if commands = [] then .error ⟨400, "Aucune action de nettoyage avancée applicable"⟩
      else .ok commands := rfl

variable {devPath partition : String} {types : List String} {examineDetected : Bool}

theorem advancedCleanupCommands_eq (h : sanitizeMemberPath partition = .ok devPath) :
    advancedCleanupCommands partition types examineDetected =
      buildAdvancedCleanupCommands devPath types examineDetected := by
  rw [advancedCleanupCommands, h]
  rfl

theorem mem_typesToWipe {type : String} :
    type ∈ typesToWipe types ↔
      type ∈ types ∧ type ≠ examineType ∧ isRaidRelatedSignature type = true := by
  rw [typesToWipe, mem_unique, List.mem_filter, Bool.and_eq_true, bne_iff_ne]

end

section

variable {devPath command : String}

def PlainWord (word : Text) : Prop := word ≠ [] ∧ ∀ c ∈ word, c ∉ ' ' :: shellMeta

theorem plainWord_of_all {word : Text}
    (h : (!word.isEmpty && word.all (· ∉ ' ' :: shellMeta))) : PlainWord word := by
  obtain ⟨hNe, hAll⟩ := Bool.and_eq_true_iff.mp h
  refine ⟨fun hNil => ?_, fun c hc => of_decide_eq_true (List.all_eq_true.mp hAll c hc)⟩
  rw [hNil] at hNe
  cases hNe

theorem plainWords_intercalate {parts : List Text} (hNe : parts ≠ [])
    (hParts : ∀ p ∈ parts, PlainWord p) : plainWords ([' '].intercalate parts) = parts := by
  have hPlain : ([' '].intercalate parts).any (· ∈ shellMeta) = false := by
    rw [List.any_eq_false]
    intro c hc
    rw [decide_eq_true_eq]
    rcases mem_intercalate hc with rfl | ⟨p, hp, hcp⟩
    · decide
    · exact fun hMeta => (hParts p hp).2 c hcp (List.mem_cons_of_mem _ hMeta)
  have hBlank : ∀ p ∈ parts, ' ' ∉ p := fun p hp hMem =>
    (hParts p hp).2 ' ' hMem List.mem_cons_self
  rw [plainWords, hPlain, if_neg Bool.false_ne_true, List.splitOn_intercalate ' ' hBlank hNe]
  exact List.filter_eq_self.mpr fun p hp => decide_eq_true (hParts p hp).1

theorem plainWord_devPath (h : isLowerDevicePath devPath) : PlainWord devPath.toList := by
  constructor
  · intro hNil
    rw [String.toList_eq_nil_iff] at hNil
    rw [hNil] at h
    exact absurd h (by decide)
  · intro c hc hMeta
    have hAll : (' ' :: shellMeta).all (!isPathChar ·) = true := by decide
    have hChar := List.all_eq_true.mp hAll c hMeta
    rw [isPathChar_of_isLowerDevicePath h c hc] at hChar
    cases hChar

theorem plainWords_wipe {list : Text} (hDev : isLowerDevicePath devPath)
    (hList : ∀ c ∈ list, c ∉ ' ' :: shellMeta) :
    plainWords ("wipefs --types=".toList ++ list ++ " -a ".toList ++ devPath.toList) =
      ["wipefs".toList, "--types=".toList ++ list, "-a".toList, devPath.toList] := by
  have hText : "wipefs --types=".toList ++ list ++ " -a ".toList ++ devPath.toList =
      [' '].intercalate
        ["wipefs".toList, "--types=".toList ++ list, "-a".toList, devPath.toList] := by
    simp [List.intercalate]
  have hOption : PlainWord ("--types=".toList ++ list) := by
    obtain ⟨hNe, hChars⟩ : PlainWord "--types=".toList := plainWord_of_all (by decide)
    refine ⟨List.append_ne_nil_of_left_ne_nil hNe _, ?_⟩
    intro c hc
    rcases List.mem_append.mp hc with hc | hc
    · exact hChars c hc
    · exact hList c hc
  rw [hText]
  apply plainWords_intercalate (List.cons_ne_nil _ _)
  simp only [List.forall_mem_cons]
  exact ⟨plainWord_of_all (by decide), hOption, plainWord_of_all (by decide),
    plainWord_devPath hDev, fun _ h => absurd h List.not_mem_nil⟩

theorem namedTypes_wipe {list : Text} (hDev : isLowerDevicePath devPath = true)
    (hCommand : command.toList =
      "wipefs --types=".toList ++ list ++ " -a ".toList ++ devPath.toList)
    (hList : ∀ c ∈ list, c ∉ ' ' :: shellMeta) :
    namedTypes devPath command = list.splitOn ',' := by
  rw [namedTypes, hCommand, plainWords_wipe hDev hList]
  dsimp only
  rw [if_pos ⟨rfl, List.prefix_append _ _, rfl, rfl⟩]
  have hLength : "--types=".toList.length = 8 := by decide
  rw [← hLength, List.drop_left]

theorem not_mem_of_mem_namedTypes {name : Text} (h : name ∈ namedTypes devPath command) :
    ∀ c ∈ name, c ∉ ',' :: ' ' :: shellMeta := by
  rw [namedTypes] at h
  split at h
  case h_2 => cases h
  case h_1 tool option all device hWords =>
    split at h
    case isFalse => cases h
    case isTrue =>
      have hOption : option ∈ plainWords command.toList := by
        rw [hWords]
        simp
      rw [plainWords] at hOption
      split at hOption
      · cases hOption
      next hPlain =>
        intro c hc hMem
        have hWord := (List.mem_filter.mp hOption).1
        have hcOption : c ∈ option := List.mem_of_mem_drop (mem_of_mem_splitOn h hc)
        rcases List.mem_cons.mp hMem with rfl | hMem
        · exact not_mem_of_mem_splitOn h hc
        · rcases List.mem_cons.mp hMem with rfl | hMeta
          · exact not_mem_of_mem_splitOn hWord hcOption
          · exact hPlain (List.any_eq_true.mpr
              ⟨c, mem_of_mem_splitOn hWord hcOption, decide_eq_true hMeta⟩)

theorem toList_listCommand (types : List String) :
    (listCommand devPath types).toList =
      "wipefs --types=".toList ++ [','].intercalate (types.map String.toList) ++ " -a ".toList ++
        devPath.toList := by
  have hJoin : [','].intercalate (types.map String.toList) = (join "," types).toList :=
    (toList_join "," types).symm
  rw [hJoin, ← String.toList_append, ← String.toList_append, ← String.toList_append]
  rfl

theorem toList_memberWipe :
    (memberWipeCommand devPath).toList =
      "wipefs --types=".toList ++ memberType.toList ++ " -a ".toList ++ devPath.toList := by
  rw [← String.toList_append, ← String.toList_append, ← String.toList_append]
  exact congrArg (fun text => (text ++ devPath).toList) (by decide)

theorem namedTypes_memberWipe (hDev : isLowerDevicePath devPath) :
    namedTypes devPath (memberWipeCommand devPath) = [memberType.toList] := by
  have hPlain : memberType.toList.all (· ∉ ' ' :: shellMeta) = true := by decide
  have hList : ∀ c ∈ memberType.toList, c ∉ ' ' :: shellMeta := fun c hc =>
    of_decide_eq_true (List.all_eq_true.mp hPlain c hc)
  rw [namedTypes_wipe hDev toList_memberWipe hList]
  decide

theorem namedTypes_listCommand {types : List String} (hDev : isLowerDevicePath devPath)
    (hNe : types ≠ []) (h : ∀ type ∈ types, ∀ c ∈ type.toList, c ∉ ',' :: ' ' :: shellMeta) :
    namedTypes devPath (listCommand devPath types) = types.map String.toList := by
  rw [namedTypes_wipe hDev (toList_listCommand types), List.splitOn_intercalate ',']
  · intro name hName
    obtain ⟨type, hType, rfl⟩ := List.mem_map.mp hName
    exact fun hComma => h type hType ',' hComma List.mem_cons_self
  · exact fun hNil => hNe (List.map_eq_nil_iff.mp hNil)
  · intro c hc
    rcases mem_intercalate hc with rfl | ⟨name, hName, hc⟩
    · decide
    · obtain ⟨type, hType, rfl⟩ := List.mem_map.mp hName
      exact fun hMem => h type hType c hc (List.mem_cons_of_mem _ hMem)

theorem toList_zeroSuperblockCommand :
    (zeroSuperblockCommand devPath true).toList =
      [' '].intercalate
        ["mdadm".toList, "--zero-superblock".toList, "--force".toList, devPath.toList] := by
  have hText : (zeroSuperblockCommand devPath true).toList =
      "mdadm --zero-superblock --force ".toList ++ devPath.toList := by
    rw [← String.toList_append]
    rfl
  rw [hText]
  simp [List.intercalate]

theorem namedTypes_zeroSuperblockCommand (hDev : isLowerDevicePath devPath) :
    namedTypes devPath (zeroSuperblockCommand devPath true) = [] := by
  rw [namedTypes, toList_zeroSuperblockCommand, plainWords_intercalate (List.cons_ne_nil _ _)]
  · rfl
  · simp only [List.forall_mem_cons]
    exact ⟨plainWord_of_all (by decide), plainWord_of_all (by decide),
      plainWord_of_all (by decide), plainWord_devPath hDev,
      fun _ h => absurd h List.not_mem_nil⟩

theorem zeroSuperblockCommand_notMem_wipeStep [CaseMapping] (types : List String) :
    zeroSuperblockCommand devPath true ∉ wipeStep devPath types := by
  have hZero : (zeroSuperblockCommand devPath true).toList.head? = some 'm' := by
    rw [toList_zeroSuperblockCommand]
    rfl
  have hWipe {text : Text} {command : String}
      (hText : command.toList =
        "wipefs --types=".toList ++ text ++ " -a ".toList ++ devPath.toList) :
      zeroSuperblockCommand devPath true ≠ command := by
    rintro rfl
    rw [hText] at hZero
    exact absurd (Option.some.inj hZero) (by decide)
  rw [wipeStep]
  split
  · rw [List.mem_singleton]
    exact hWipe toList_memberWipe
  · split
    · rw [List.mem_singleton]
      exact hWipe (toList_listCommand _)
    · exact List.not_mem_nil

theorem needsForceZero_iff {types : List String} {examineDetected : Bool} :
    needsForceZero types examineDetected = true ↔
      examineType ∈ types ∨ examineDetected = true := by
  rw [needsForceZero, Bool.or_eq_true, List.contains_iff_mem]

theorem mem_zeroStep {types : List String} {examineDetected : Bool} :
    command ∈ zeroStep devPath types examineDetected ↔
      needsForceZero types examineDetected = true ∧
        command = zeroSuperblockCommand devPath true := by
  rw [zeroStep]
  split
  next hForce => rw [List.mem_singleton, and_iff_right hForce]
  next hForce => exact iff_of_false List.not_mem_nil fun h => hForce h.1

theorem separators_spec {c : Char} (h : c ∈ ',' :: ' ' :: shellMeta) :
    c.toNat < 128 ∧ c.isAlpha = false := by
  have hAll : (',' :: ' ' :: shellMeta).all (fun c => c.toNat < 128 && !c.isAlpha) = true := by
    decide
  obtain ⟨hAscii, hLetter⟩ := Bool.and_eq_true_iff.mp (List.all_eq_true.mp hAll c h)
  exact ⟨of_decide_eq_true hAscii, Bool.not_eq_true' _ ▸ hLetter⟩

end

section

variable [LawfulCaseMapping] {partition devPath type : String} {types : List String}
  {examineDetected : Bool}

theorem toLowerCase_of_all {s : String}
    (h : s.toList.all (fun c => c.toNat < 128 && !c.isUpper)) :
    CaseMapping.toLowerCase s = s := by
  apply LawfulCaseMapping.toLowerCase_lower
  intro c hc
  simpa using List.all_eq_true.mp h c hc

theorem toLowerCase_memberType : CaseMapping.toLowerCase memberType = memberType :=
  toLowerCase_of_all (by decide)

theorem toLowerCase_examineType : CaseMapping.toLowerCase examineType = examineType :=
  toLowerCase_of_all (by decide)

theorem isRaidRelatedSignature_memberType : isRaidRelatedSignature memberType := by
  have hTrim : trimString memberType = memberType := by decide
  unfold isRaidRelatedSignature
  rw [hTrim, toLowerCase_memberType]
  decide

theorem isRaidRelatedSignature_examineType : isRaidRelatedSignature examineType := by
  have hTrim : trimString examineType = examineType := by decide
  unfold isRaidRelatedSignature
  rw [hTrim, toLowerCase_examineType]
  decide

theorem any_memberType_iff :
    ((typesToWipe types).any fun type => CaseMapping.toLowerCase type == memberType) = true ↔
      HasMember types := by
  rw [List.any_eq_true]
  constructor
  · rintro ⟨type, hType, hLower⟩
    obtain ⟨hMem, -, hRaid⟩ := mem_typesToWipe.mp hType
    exact ⟨type, hMem, hRaid, eq_of_beq hLower⟩
  · rintro ⟨type, hMem, hRaid, hLower⟩
    refine ⟨type, mem_typesToWipe.mpr ⟨hMem, ?_, hRaid⟩, beq_iff_eq.mpr hLower⟩
    rintro rfl
    rw [toLowerCase_examineType] at hLower
    exact absurd hLower (by decide)

theorem wipeStep_of_hasMember (h : HasMember types) :
    wipeStep devPath types = [memberWipeCommand devPath] := if_pos (any_memberType_iff.mpr h)

theorem wipeStep_of_not_hasMember (h : ¬ HasMember types) :
    wipeStep devPath types =
      if typesToWipe types = [] then [] else [listCommand devPath (typesToWipe types)] := by
  rw [wipeStep, if_neg fun hAny => h (any_memberType_iff.mp hAny)]
  cases typesToWipe types with
  | nil => rfl
  | cons type rest => rfl

theorem typesToWipe_eq_nil_iff :
    typesToWipe types = [] ↔
      ∀ type ∈ types, isRaidRelatedSignature type = true → type = examineType := by
  rw [List.eq_nil_iff_forall_not_mem]
  constructor
  · intro h type hType hRaid
    by_contra hOther
    exact h type (mem_typesToWipe.mpr ⟨hType, hOther, hRaid⟩)
  · intro h type hType
    obtain ⟨hMem, hOther, hRaid⟩ := mem_typesToWipe.mp hType
    exact hOther (h type hMem hRaid)

theorem wipeStep_eq_nil_iff : wipeStep devPath types = [] ↔ typesToWipe types = [] := by
  by_cases hMember : HasMember types
  · rw [wipeStep_of_hasMember hMember]
    refine iff_of_false (List.cons_ne_nil _ _) fun hNil => ?_
    have hAny := any_memberType_iff.mpr hMember
    rw [hNil] at hAny
    cases hAny
  · rw [wipeStep_of_not_hasMember hMember, ite_eq_left_iff, not_imp_comm]
    simp

theorem steps_eq_nil_iff :
    wipeStep devPath types ++ zeroStep devPath types examineDetected = [] ↔
      NothingToErase types examineDetected := by
  have hZero : zeroStep devPath types examineDetected = [] ↔
      ¬ (examineType ∈ types ∨ examineDetected = true) := by
    rw [← needsForceZero_iff, zeroStep]
    split
    next hForce => exact iff_of_false (List.cons_ne_nil _ _) (not_not_intro hForce)
    next hForce => exact iff_of_true rfl hForce
  rw [List.append_eq_nil_iff, wipeStep_eq_nil_iff, typesToWipe_eq_nil_iff, hZero, not_or,
    Bool.not_eq_true]
  constructor
  · rintro ⟨hTypes, hExamine, hDetected⟩
    refine ⟨fun type hType => ?_, hDetected⟩
    by_contra hRaid
    exact hExamine (hTypes type hType (eq_true_of_ne_false hRaid) ▸ hType)
  · rintro ⟨hTypes, hDetected⟩
    refine ⟨fun type hType hRaid => ?_, fun hExamine => ?_, hDetected⟩
    · exact absurd ((hTypes type hType).symm.trans hRaid) Bool.false_ne_true
    · exact absurd ((hTypes _ hExamine).symm.trans isRaidRelatedSignature_examineType)
        Bool.false_ne_true

theorem erases_examine_iff (h : CaseMapping.toLowerCase type = examineType) :
    (∃ command ∈ wipeStep devPath types ++ zeroStep devPath types examineDetected,
        Erases devPath command type) ↔
      examineType ∈ types ∨ examineDetected = true := by
  simp only [Erases, if_pos h]
  rw [← needsForceZero_iff]
  constructor
  · rintro ⟨command, hCommand, rfl⟩
    rcases List.mem_append.mp hCommand with hWipe | hZero
    · exact absurd hWipe (zeroSuperblockCommand_notMem_wipeStep types)
    · exact (mem_zeroStep.mp hZero).1
  · intro hForce
    exact ⟨_, List.mem_append_right _ (mem_zeroStep.mpr ⟨hForce, rfl⟩), rfl⟩

theorem erases_named_iff (hDev : isLowerDevicePath devPath)
    (h : CaseMapping.toLowerCase type ≠ examineType) :
    (∃ command ∈ wipeStep devPath types ++ zeroStep devPath types examineDetected,
        Erases devPath command type) ↔
      ∃ command ∈ wipeStep devPath types, ∃ name ∈ namedTypes devPath command,
        SameType (String.ofList name) type := by
  simp only [Erases, if_neg h]
  constructor
  · rintro ⟨command, hCommand, name, hName, hSame⟩
    rcases List.mem_append.mp hCommand with hWipe | hZero
    · exact ⟨command, hWipe, name, hName, hSame⟩
    · obtain ⟨-, rfl⟩ := mem_zeroStep.mp hZero
      rw [namedTypes_zeroSuperblockCommand hDev] at hName
      cases hName
  · rintro ⟨command, hWipe, hNamed⟩
    exact ⟨command, List.mem_append_left _ hWipe, hNamed⟩

theorem mem_separators_of_lower_eq {name other : String}
    (h : CaseMapping.toLowerCase name = CaseMapping.toLowerCase other)
    (hName : ∀ c ∈ name.toList, c ∉ ',' :: ' ' :: shellMeta) :
    ∀ c ∈ other.toList, c ∉ ',' :: ' ' :: shellMeta := by
  intro c hc hMem
  obtain ⟨hAscii, hLetter⟩ := separators_spec hMem
  have hLower := (LawfulCaseMapping.mem_toLowerCase other hAscii hLetter).mpr hc
  rw [← h] at hLower
  exact hName c ((LawfulCaseMapping.mem_toLowerCase name hAscii hLetter).mp hLower) hMem

theorem listed_of_examine (h : CaseMapping.toLowerCase type = examineType) :
    ∀ c ∈ type.toList, c ∉ ',' :: ' ' :: shellMeta := by
  have hPlain : examineType.toList.all (· ∉ ',' :: ' ' :: shellMeta) = true := by decide
  exact mem_separators_of_lower_eq (toLowerCase_examineType.trans h.symm) fun c hc =>
    of_decide_eq_true (List.all_eq_true.mp hPlain c hc)

theorem namedTypes_listCommand_typesToWipe (hDev : isLowerDevicePath devPath)
    (hNe : typesToWipe types ≠ [])
    (h : ∀ type ∈ types, IsWipedType type → ∀ c ∈ type.toList, c ∉ ',' :: ' ' :: shellMeta) :
    namedTypes devPath (listCommand devPath (typesToWipe types)) =
      (typesToWipe types).map String.toList := by
  apply namedTypes_listCommand hDev hNe
  intro type hType
  obtain ⟨hMem, -, hRaid⟩ := mem_typesToWipe.mp hType
  by_cases hExamine : CaseMapping.toLowerCase type = examineType
  · exact listed_of_examine hExamine
  · exact h type hMem ⟨hRaid, hExamine⟩

variable (types examineDetected) in
theorem steps_cover_iff (hDev : isLowerDevicePath devPath) :
    ((∀ type ∈ types, isRaidRelatedSignature type = true →
        ∃ command ∈ wipeStep devPath types ++ zeroStep devPath types examineDetected,
          Erases devPath command type) ∧
      ∀ command ∈ wipeStep devPath types ++ zeroStep devPath types examineDetected,
        ∀ name ∈ namedTypes devPath command,
          isRaidRelatedSignature (String.ofList name) = true) ↔
      Coverable types examineDetected := by
  constructor
  · rintro ⟨hErased, -⟩
    have hNamed : ∀ type ∈ types, IsWipedType type → ∃ command ∈ wipeStep devPath types,
        ∃ name ∈ namedTypes devPath command, SameType (String.ofList name) type :=
      fun type hMem hType => (erases_named_iff hDev hType.2).mp (hErased type hMem hType.1)
    refine ⟨?_, ?_, ?_⟩
    · intro type hMem hRaid hExamine
      exact (erases_examine_iff hExamine).mp (hErased type hMem hRaid)
    · intro hMember type hMem hType
      obtain ⟨command, hCommand, name, hName, hSame⟩ := hNamed type hMem hType
      rw [wipeStep_of_hasMember hMember, List.mem_singleton] at hCommand
      rw [hCommand, namedTypes_memberWipe hDev, List.mem_singleton] at hName
      rw [SameType, hName, String.ofList_toList, toLowerCase_memberType] at hSame
      exact hSame.symm
    · intro hMember type hMem hType
      obtain ⟨command, -, name, hName, hSame⟩ := hNamed type hMem hType
      refine mem_separators_of_lower_eq hSame ?_
      rw [String.toList_ofList]
      exact not_mem_of_mem_namedTypes hName
  · intro h
    have hNames : ∀ command ∈ wipeStep devPath types, ∀ name ∈ namedTypes devPath command,
        isRaidRelatedSignature (String.ofList name) = true := by
      intro command hCommand name hName
      by_cases hMember : HasMember types
      · rw [wipeStep_of_hasMember hMember, List.mem_singleton] at hCommand
        rw [hCommand, namedTypes_memberWipe hDev, List.mem_singleton] at hName
        rw [hName, String.ofList_toList, isRaidRelatedSignature_memberType]
      · rw [wipeStep_of_not_hasMember hMember] at hCommand
        split at hCommand
        · cases hCommand
        next hNe =>
          rw [List.mem_singleton.mp hCommand,
            namedTypes_listCommand_typesToWipe hDev hNe (h.listed hMember)] at hName
          obtain ⟨type, hType, rfl⟩ := List.mem_map.mp hName
          rw [String.ofList_toList]
          exact (mem_typesToWipe.mp hType).2.2
    constructor
    · intro type hMem hRaid
      by_cases hExamine : CaseMapping.toLowerCase type = examineType
      · exact (erases_examine_iff hExamine).mpr (h.examine type hMem hRaid hExamine)
      · refine (erases_named_iff hDev hExamine).mpr ?_
        have hType : type ∈ typesToWipe types := by
          refine mem_typesToWipe.mpr ⟨hMem, ?_, hRaid⟩
          rintro rfl
          exact hExamine toLowerCase_examineType
        by_cases hMember : HasMember types
        · rw [wipeStep_of_hasMember hMember]
          refine ⟨_, List.mem_singleton_self _, memberType.toList, ?_, ?_⟩
          · rw [namedTypes_memberWipe hDev]
            exact List.mem_singleton_self _
          · rw [SameType, String.ofList_toList, toLowerCase_memberType,
              h.member hMember type hMem ⟨hRaid, hExamine⟩]
        · have hNe : typesToWipe types ≠ [] := List.ne_nil_of_mem hType
          rw [wipeStep_of_not_hasMember hMember, if_neg hNe]
          refine ⟨_, List.mem_singleton_self _, type.toList, ?_, ?_⟩
          · rw [namedTypes_listCommand_typesToWipe hDev hNe (h.listed hMember)]
            exact List.mem_map_of_mem hType
          · rw [SameType, String.ofList_toList]
    · intro command hCommand name hName
      rcases List.mem_append.mp hCommand with hWipe | hZero
      · exact hNames command hWipe name hName
      · obtain ⟨-, rfl⟩ := mem_zeroStep.mp hZero
        rw [namedTypes_zeroSuperblockCommand hDev] at hName
        cases hName

theorem coversTypes_iff_of_ok (h : sanitizeMemberPath partition = .ok devPath) :
    CoversTypes partition types examineDetected ↔
      NothingToErase types examineDetected ∨ Coverable types examineDetected := by
  have hDev : isLowerDevicePath devPath = true := (sanitizeMemberPath_eq_ok h).1
  have hBuild : advancedCleanupCommands partition types examineDetected =
      let commands := wipeStep devPath types ++ zeroStep devPath types examineDetected
      if commands = [] then .error ⟨400, "Aucune action de nettoyage avancée applicable"⟩
      else .ok commands := advancedCleanupCommands_eq h
  have hSteps : wipeStep devPath types ++ zeroStep devPath types examineDetected = [] ↔
      NothingToErase types examineDetected := steps_eq_nil_iff
  have hCover := steps_cover_iff types examineDetected hDev
  generalize wipeStep devPath types ++ zeroStep devPath types examineDetected = steps at *
  dsimp only at hBuild
  by_cases hNothing : NothingToErase types examineDetected
  · refine iff_of_true ?_ (Or.inl hNothing)
    rw [if_pos (hSteps.mpr hNothing)] at hBuild
    refine ⟨fun type hMem hRaid => ?_, fun path commands _ hOk => ?_,
      iff_of_true ⟨_, hBuild⟩ hNothing⟩
    · exact absurd ((hNothing.1 type hMem).symm.trans hRaid) Bool.false_ne_true
    · cases hBuild.symm.trans hOk
  · rw [if_neg fun hNil => hNothing (hSteps.mp hNil)] at hBuild
    rw [or_iff_right hNothing, ← hCover]
    constructor
    · intro hCovers
      constructor
      · intro type hMem hRaid
        obtain ⟨path, commands, hPath, hOk, hErases⟩ := hCovers.erased type hMem hRaid
        cases h.symm.trans hPath
        cases hBuild.symm.trans hOk
        exact hErases
      · exact hCovers.onlyRaid devPath steps h hBuild
    · rintro ⟨hErased, hRaid⟩
      refine ⟨fun type hMem hType => ?_, fun path commands hPath hOk => ?_, ?_⟩
      · exact ⟨devPath, steps, h, hBuild, hErased type hMem hType⟩
      · cases h.symm.trans hPath
        cases hBuild.symm.trans hOk
        exact hRaid
      · refine iff_of_false ?_ hNothing
        rintro ⟨error, hError⟩
        cases hBuild.symm.trans hError

theorem coversTypes_iff_of_error {error : HttpError}
    (h : sanitizeMemberPath partition = .error error) :
    CoversTypes partition types examineDetected ↔ NothingToErase types examineDetected := by
  have hError : advancedCleanupCommands partition types examineDetected = .error error := by
    rw [advancedCleanupCommands, h]
    rfl
  constructor
  · intro hCovers
    exact hCovers.throws.mp ⟨error, hError⟩
  · intro hNothing
    refine ⟨?_, ?_, iff_of_true ⟨error, hError⟩ hNothing⟩
    · intro type hMem hRaid
      exact absurd ((hNothing.1 type hMem).symm.trans hRaid) Bool.false_ne_true
    · intro devPath commands hPath
      cases h.symm.trans hPath

theorem coversTypes_iff (partition : String) (types : List String) (examineDetected : Bool) :
    CoversTypes partition types examineDetected ↔
      NothingToErase types examineDetected ∨
        (∃ devPath, sanitizeMemberPath partition = .ok devPath) ∧
          Coverable types examineDetected := by
  cases hPath : sanitizeMemberPath partition with
  | error error =>
    rw [coversTypes_iff_of_error hPath]
    simp
  | ok devPath =>
    rw [coversTypes_iff_of_ok hPath]
    simp

end

abbrev asciiCaseMapping : LawfulCaseMapping where
  toLowerCase s := String.ofList (s.toList.map Char.toLower)
  toLowerCase_lower s h := by
    have hSame : s.toList.map Char.toLower = s.toList.map id :=
      List.map_congr_left fun c hc =>
        toLower_of_not_isUpper (Bool.eq_false_iff.mp (h c hc).2)
    rw [hSame, List.map_id, String.ofList_toList]
  mem_toLowerCase s c _ hLetter := by
    have hUpper : ¬ c.isUpper = true := fun h =>
      absurd ((Bool.or_eq_false_iff.mp hLetter).1.symm.trans h) Bool.false_ne_true
    rw [String.toList_ofList, List.mem_map]
    constructor
    · rintro ⟨d, hd, rfl⟩
      by_cases hd' : d.isUpper = true
      · exact absurd ((isAlpha_toLower_of_isUpper hd').symm.trans hLetter).symm
          Bool.false_ne_true
      · rwa [toLower_of_not_isUpper hd']
    · intro hc
      exact ⟨c, hc, toLower_of_not_isUpper hUpper⟩

/-- `mdraid` beside `linux_raid_member` stays on the partition. -/
theorem mdraid_left_beside_member :
    ¬ ∀ (host : LawfulCaseMapping) (partition : String) (types : List String)
        (examineDetected : Bool),
      @CoversTypes host.toCaseMapping partition types examineDetected := by
  intro hAll
  have hCovers := (@coversTypes_iff_of_ok asciiCaseMapping "/dev/sda1" "/dev/sda1"
    ["linux_raid_member", "mdraid"] false (by decide)).mp
    (hAll asciiCaseMapping "/dev/sda1" ["linux_raid_member", "mdraid"] false)
  have hRaid : @isRaidRelatedSignature asciiCaseMapping.toCaseMapping "mdraid" = true := by
    decide +kernel
  have hMember : @HasMember asciiCaseMapping.toCaseMapping ["linux_raid_member", "mdraid"] :=
    ⟨_, List.mem_cons_self, by decide +kernel, by decide +kernel⟩
  rcases hCovers with hNothing | hCoverable
  · exact absurd (hNothing.1 "mdraid" (by simp)) (by rw [hRaid]; decide)
  · have hLower := @Coverable.member asciiCaseMapping.toCaseMapping _ _ hCoverable hMember
      "mdraid" (by simp) ⟨hRaid, by decide +kernel⟩
    revert hLower
    decide +kernel

end EsosWebui.Raid
