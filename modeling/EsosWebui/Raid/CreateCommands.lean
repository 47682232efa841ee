import EsosWebui.Js.Arrays
import EsosWebui.Raid.MdActions

/-! The command that creates an array, as the checks of its text read it. -/
namespace EsosWebui.Raid

open Js

def isAnyPathChar (c : Char) : Bool := isPathChar c || c.isUpper

theorem not_isSpace_of_isAnyPathChar {c : Char} (h : isAnyPathChar c) :
    isSpace c = false := by
  have hSplit : c.isAlphanum = ((c.isUpper || c.isLower) || c.isDigit) := rfl
  by_cases hAlnum : c.isAlphanum = true
  · exact (isGraphic_of_isAlphanum hAlnum).isSpace
  · have hOther : c ∈ ['_', '-', '.', '/'] := by
      simp only [hSplit, Bool.or_eq_true, not_or] at hAlnum
      simpa [isAnyPathChar, isPathChar, isArrayNameChar, hAlnum, or_assoc] using h
    have hKnown : ['_', '-', '.', '/'].all (fun c => !isSpace c) = true := by decide
    have hSpace := List.all_eq_true.mp hKnown c hOther
    rwa [Bool.not_eq_true'] at hSpace

theorem startsDevicePath_iff {text : Text} : startsDevicePath text = true ↔
    ∃ d e v c rest, text = '/' :: d :: e :: v :: '/' :: c :: rest ∧ (d = 'd' ∨ d = 'D') ∧
      (e = 'e' ∨ e = 'E') ∧ (v = 'v' ∨ v = 'V') ∧ isAnyPathChar c = true := by
  constructor
  · intro h
    unfold startsDevicePath at h
    split at h
    · rename_i d e v c rest
      refine ⟨d, e, v, c, rest, rfl, ?_⟩
      simpa [isSafeDevicePath, isAnyPathChar, and_assoc] using h
    · cases h
  · rintro ⟨d, e, v, c, rest, rfl, hD, hE, hV, hC⟩
    unfold startsDevicePath isSafeDevicePath
    simpa [isAnyPathChar, hD, hE, hV] using hC

theorem startsDevicePath_append_blank {text : Text} (hText : text ≠ []) (rest : Text) :
    startsDevicePath (text ++ ' ' :: rest) = startsDevicePath text := by
  rw [Bool.eq_iff_iff, startsDevicePath_iff, startsDevicePath_iff]
  constructor
  · rintro ⟨d, e, v, c, tail, hEq, hD, hE, hV, hC⟩
    have hBlank : isAnyPathChar ' ' = false := rfl
    -- Were the text shorter, the blank would be among the characters that are looked at.
    rcases text with _ | ⟨t₀, _ | ⟨t₁, _ | ⟨t₂, _ | ⟨t₃, _ | ⟨t₄, _ | ⟨t₅, text⟩⟩⟩⟩⟩⟩
    · exact absurd rfl hText
    all_goals simp only [List.cons_append, List.nil_append, List.cons.injEq] at hEq
    · obtain ⟨-, rfl, -⟩ := hEq
      exact absurd hD (by decide)
    · obtain ⟨-, -, rfl, -⟩ := hEq
      exact absurd hE (by decide)
    · obtain ⟨-, -, -, rfl, -⟩ := hEq
      exact absurd hV (by decide)
    · exact absurd hEq.2.2.2.2.1 (by decide)
    · obtain ⟨-, -, -, -, -, rfl, -⟩ := hEq
      exact absurd (hBlank.symm.trans hC) Bool.false_ne_true
    · obtain ⟨rfl, rfl, rfl, rfl, rfl, rfl, -⟩ := hEq
      exact ⟨_, _, _, _, text, rfl, hD, hE, hV, hC⟩
  · rintro ⟨d, e, v, c, tail, rfl, hKnown⟩
    exact ⟨d, e, v, c, tail ++ ' ' :: rest, rfl, hKnown⟩

theorem devicePathsIn_append_blank (current : Option Text) (text rest : Text) :
    devicePathsIn current (text ++ ' ' :: rest) =
      devicePathsIn current text ++ devicePathsIn none rest := by
  have hStart : startsDevicePath (' ' :: rest) = false := rfl
  induction text generalizing current with
  | nil =>
    cases current with
    | none => simp [devicePathsIn, hStart]
    | some path =>
      rw [List.nil_append]
      exact if_neg (by decide)
  | cons c text ih =>
    cases current with
    | none =>
      have hHere := startsDevicePath_append_blank (List.cons_ne_nil c text) rest
      rw [List.cons_append] at hHere ⊢
      rw [devicePathsIn, devicePathsIn, hHere, ih, ih]
      split <;> rfl
    | some path =>
      rw [List.cons_append, devicePathsIn, devicePathsIn, ih, ih]
      split <;> rfl

theorem devicePathsIn_intercalate (parts : List Text) :
    devicePathsIn none ([' '].intercalate parts) = parts.flatMap (devicePathsIn none) := by
  induction parts with
  | nil => rfl
  | cons first parts ih =>
    cases parts with
    | nil => simp [List.intercalate]
    | cons second parts =>
      rw [intercalate_cons_cons, devicePathsIn_append_blank, ih]
      rfl

theorem devicePathsIn_of_notMem {text : Text} (h : '/' ∉ text) : devicePathsIn none text = [] := by
  induction text with
  | nil => rfl
  | cons c text ih =>
    have hStart : startsDevicePath (c :: text) = false := by
      unfold startsDevicePath
      split
      · simp_all
      · rfl
    rw [devicePathsIn, hStart, if_neg Bool.false_ne_true, ih (List.not_mem_of_not_mem_cons h)]

theorem devicePathsIn_some {path rest : Text} (h : ∀ c ∈ rest, isAnyPathChar c = true) :
    devicePathsIn (some path) rest = [path ++ rest] := by
  induction rest generalizing path with
  | nil => simp [devicePathsIn]
  | cons c rest ih =>
    have hHere : (isPathChar c || c.isUpper) = true := h c List.mem_cons_self
    rw [devicePathsIn, if_pos hHere, ih fun d hd => h d (List.mem_cons_of_mem _ hd)]
    simp

theorem devicePathsIn_path {text : Text} (hStart : startsDevicePath text)
    (hAll : ∀ c ∈ text, isAnyPathChar c = true) : devicePathsIn none text = [text] := by
  cases text with
  | nil => cases hStart
  | cons c rest =>
    rw [devicePathsIn, hStart, if_pos rfl,
      devicePathsIn_some fun d hd => hAll d (List.mem_cons_of_mem _ hd)]
    rfl

theorem isSafeDevicePath_chars {dev : String} (h : isSafeDevicePath dev) :
    ∀ c ∈ dev.toList, isAnyPathChar c = true := by
  unfold isSafeDevicePath at h
  split at h
  · rename_i d e v rest hDev
    simp only [Bool.and_eq_true, Bool.or_eq_true, beq_iff_eq, List.all_eq_true] at h
    obtain ⟨⟨⟨⟨⟨hD, hE⟩, hV⟩, -⟩, -⟩, hRest⟩ := h
    intro c hc
    rw [hDev] at hc
    simp only [List.mem_cons] at hc
    rcases hc with rfl | rfl | rfl | rfl | rfl | hc
    · rfl
    · rcases hD with rfl | rfl <;> rfl
    · rcases hE with rfl | rfl <;> rfl
    · rcases hV with rfl | rfl <;> rfl
    · rfl
    · simpa [isAnyPathChar] using hRest c hc
  · cases h

theorem startsDevicePath_of_isSafeDevicePath {dev : String} (h : isSafeDevicePath dev) :
    startsDevicePath dev.toList := by
  unfold isSafeDevicePath at h
  split at h
  · rename_i d e v rest hDev
    simp only [Bool.and_eq_true, Bool.or_eq_true, beq_iff_eq, List.all_eq_true,
      Bool.not_eq_true', List.isEmpty_eq_false_iff] at h
    obtain ⟨⟨⟨⟨⟨hD, hE⟩, hV⟩, hNe⟩, -⟩, hRest⟩ := h
    obtain ⟨c, tail, rfl⟩ := List.exists_cons_of_ne_nil hNe
    refine startsDevicePath_iff.mpr ⟨d, e, v, c, tail, hDev, hD, hE, hV, ?_⟩
    simpa [isAnyPathChar] using hRest c List.mem_cons_self
  · cases h

theorem devicePathsIn_of_isSafeDevicePath {dev : String} (h : isSafeDevicePath dev) :
    devicePathsIn none dev.toList = [dev.toList] :=
  devicePathsIn_path (startsDevicePath_of_isSafeDevicePath h) (isSafeDevicePath_chars h)

theorem isWord_of_isSafeDevicePath {dev : String} (h : isSafeDevicePath dev) :
    IsWord dev.toList := by
  refine ⟨?_, fun c hc => not_isSpace_of_isAnyPathChar (isSafeDevicePath_chars h c hc)⟩
  intro hNil
  have hStart := startsDevicePath_of_isSafeDevicePath h
  rw [hNil] at hStart
  cases hStart

/-- What a creation says to the shell, word by word. -/
def createArguments (name level : String) (devices : List String) (chunkKb : Nat) : List String :=
  let count := devices.length
  ["mdadm", "--create", s!"/dev/{name}", s!"--chunk={chunkKb}", s!"--level={level}",
    s!"--raid-devices={count}", "--run"] ++ devices

def createOptions (name level : String) (count chunkKb : Nat) : List Text :=
  ["mdadm".toList, "--create".toList, "/dev/".toList ++ name.toList,
    "--chunk=".toList ++ Nat.toDigits 10 chunkKb, "--level=".toList ++ level.toList,
    raidDevicesLabel ++ Nat.toDigits 10 count, "--run".toList]

theorem map_toList_createArguments (name level : String) (devices : List String) (chunkKb : Nat) :
    (createArguments name level devices chunkKb).map String.toList =
      createOptions name level devices.length chunkKb ++ devices.map String.toList := by
  unfold createArguments createOptions
  rw [List.map_append]
  congr 1
  simp only [List.map_cons, List.map_nil, String.toList_append, toString, Nat.toList_repr]
  rfl

theorem renderedMdCreateCommand_eq (name level : String) (devices : List String) (chunkKb : Nat)
    (hDevices : devices ≠ []) :
    s!"mdadm --create /dev/{name} --chunk={chunkKb} --level={level}" ++
      s!" --raid-devices={devices.length} --run " ++ join " " devices =
      join " " (createArguments name level devices chunkKb) := by
  have hHead : "mdadm --create /dev/".toList =
      "mdadm".toList ++ ' ' :: ("--create".toList ++ ' ' :: "/dev/".toList) := rfl
  have hChunk : " --chunk=".toList = ' ' :: "--chunk=".toList := rfl
  have hLevel : " --level=".toList = ' ' :: "--level=".toList := rfl
  have hCount : " --raid-devices=".toList = ' ' :: raidDevicesLabel := rfl
  have hRun : " --run ".toList = ' ' :: ("--run".toList ++ [' ']) := rfl
  have hBlank : " ".toList = [' '] := rfl
  apply String.toList_injective
  rw [toList_join, map_toList_createArguments]
  obtain ⟨first, devices, rfl⟩ := List.exists_cons_of_ne_nil hDevices
  simp only [createOptions, String.toList_append, toList_join, toString, Nat.toList_repr,
    List.map_cons, List.cons_append, List.nil_append, hHead, hChunk, hLevel, hCount, hRun, hBlank,
    intercalate_cons_cons, List.append_assoc]

/-- Values of which the sanitizers let each pass. -/
structure CreateValues (name level : String) (devices : List String) (chunkKb : Nat) : Prop where
  name : isNumericMdArrayName name = true
  level : level ∈ mdRaidLevels
  chunkKb : chunkKb ∈ mdChunkKbAllowlist
  nonempty : devices ≠ []
  safe : ∀ dev ∈ devices, isSafeDevicePath dev = true

theorem exists_of_isNumericMdArrayName {name : String} (h : isNumericMdArrayName name) :
    ∃ digits, name.toList = 'm' :: 'd' :: digits ∧ digits ≠ [] ∧
      ∀ c ∈ digits, c.isDigit = true := by
  unfold isNumericMdArrayName at h
  split at h
  · rename_i digits hName
    simp only [isDigits, Bool.and_eq_true, Bool.not_eq_true', List.isEmpty_eq_false_iff,
      List.all_eq_true] at h
    exact ⟨digits, hName, h.1, h.2⟩
  · cases h

theorem isAnyPathChar_of_isDigit {c : Char} (h : c.isDigit) : isAnyPathChar c := by
  simp [isAnyPathChar, isPathChar, isArrayNameChar, h]

theorem isAnyPathChar_name {name : String} (h : isNumericMdArrayName name) :
    ∀ c ∈ name.toList, isAnyPathChar c = true := by
  obtain ⟨digits, hName, -, hDigits⟩ := exists_of_isNumericMdArrayName h
  intro c hc
  rw [hName] at hc
  simp only [List.mem_cons] at hc
  rcases hc with rfl | rfl | hc
  · rfl
  · rfl
  · exact isAnyPathChar_of_isDigit (hDigits c hc)

theorem isAnyPathChar_toDigits {n : Nat} : ∀ c ∈ Nat.toDigits 10 n, isAnyPathChar c = true :=
  fun _ hc => isAnyPathChar_of_isDigit (Nat.isDigit_of_mem_toDigits (by omega) (by omega) hc)

theorem isWord_append {label value : Text} (hNe : label ≠ [])
    (hLabel : ∀ c ∈ label, isSpace c = false) (hValue : ∀ c ∈ value, isSpace c = false) :
    IsWord (label ++ value) := by
  refine ⟨List.append_ne_nil_of_left_ne_nil hNe _, fun c hc => ?_⟩
  rcases List.mem_append.mp hc with hc | hc
  · exact hLabel c hc
  · exact hValue c hc

variable {name level : String} {devices : List String} {chunkKb : Nat}

theorem isWord_createOptions (h : CreateValues name level devices chunkKb) :
    ∀ w ∈ createOptions name level devices.length chunkKb, IsWord w := by
  have hLiteral {text : Text} (hText : text.all (fun c => !isSpace c) = true) :
      ∀ c ∈ text, isSpace c = false := fun c hc => by
    simpa using List.all_eq_true.mp hText c hc
  have hDigits {n : Nat} : ∀ c ∈ Nat.toDigits 10 n, isSpace c = false := fun c hc =>
    not_isSpace_of_isAnyPathChar (isAnyPathChar_toDigits c hc)
  have hName : ∀ c ∈ name.toList, isSpace c = false := fun c hc =>
    not_isSpace_of_isAnyPathChar (isAnyPathChar_name h.name c hc)
  have hLevels : mdRaidLevels.all (fun level => level.toList.all fun c => !isSpace c) = true := by
    decide
  have hLevel := hLiteral (List.all_eq_true.mp hLevels level h.level)
  have hPlain {text : Text} (hNe : text ≠ []) (hText : text.all (fun c => !isSpace c) = true) :
      IsWord text := ⟨hNe, hLiteral hText⟩
  intro w hw
  simp only [createOptions, List.mem_cons, List.not_mem_nil, or_false] at hw
  rcases hw with rfl | rfl | rfl | rfl | rfl | rfl | rfl
  · exact hPlain (by decide) (by decide)
  · exact hPlain (by decide) (by decide)
  · exact isWord_append (by decide) (hLiteral (by decide)) hName
  · exact isWord_append (by decide) (hLiteral (by decide)) hDigits
  · exact isWord_append (by decide) (hLiteral (by decide)) hLevel
  · exact isWord_append (by decide) (hLiteral (by decide)) hDigits
  · exact hPlain (by decide) (by decide)

theorem toList_join_createArguments (name level : String) (devices : List String) (chunkKb : Nat) :
    (join " " (createArguments name level devices chunkKb)).toList =
      [' '].intercalate (createOptions name level devices.length chunkKb ++
        devices.map String.toList) := by
  rw [toList_join, map_toList_createArguments]
  rfl

theorem words_createArguments (h : CreateValues name level devices chunkKb) :
    words (join " " (createArguments name level devices chunkKb)).toList =
      (createArguments name level devices chunkKb).map String.toList := by
  rw [toList_join_createArguments, map_toList_createArguments]
  apply words_intercalate
  intro w hw
  rcases List.mem_append.mp hw with hw | hw
  · exact isWord_createOptions h w hw
  · obtain ⟨dev, hDev, rfl⟩ := List.mem_map.mp hw
    exact isWord_of_isSafeDevicePath (h.safe dev hDev)

/-- The number of members is stated once: in the other words a character of its label is missing. -/
theorem createArguments_label (h : CreateValues name level devices chunkKb) :
    ∀ w ∈ createOptions name level devices.length chunkKb ++ devices.map String.toList,
      w = raidDevicesLabel ++ Nat.toDigits 10 devices.length ∨ ∃ c ∈ raidDevicesLabel, c ∉ w := by
  have hDigits {n : Nat} : 'r' ∉ Nat.toDigits 10 n := fun hMem =>
    absurd (Nat.isDigit_of_mem_toDigits (by omega) (by omega) hMem) (by decide)
  have hName : 'r' ∉ name.toList := by
    obtain ⟨digits, hEq, -, hDigits⟩ := exists_of_isNumericMdArrayName h.name
    rw [hEq]
    simp only [List.mem_cons, not_or]
    exact ⟨by decide, by decide, fun hMem => absurd (hDigits _ hMem) (by decide)⟩
  have hLevels : mdRaidLevels.all (fun level => !level.toList.contains 'r') = true := by decide
  have hLevel : 'r' ∉ level.toList := by simpa using List.all_eq_true.mp hLevels level h.level
  have hNoR {text value : Text} (hText : 'r' ∉ text) (hValue : 'r' ∉ value) :
      ∃ c ∈ raidDevicesLabel, c ∉ text ++ value :=
    ⟨'r', by decide, fun hMem => (List.mem_append.mp hMem).elim hText hValue⟩
  intro w hw
  rcases List.mem_append.mp hw with hw | hw
  · simp only [createOptions, List.mem_cons, List.not_mem_nil, or_false] at hw
    rcases hw with rfl | rfl | rfl | rfl | rfl | rfl | rfl
    · exact Or.inr ⟨'r', by decide, by decide⟩
    · exact Or.inr ⟨'=', by decide, by decide⟩
    · exact Or.inr (hNoR (by decide) hName)
    · exact Or.inr (hNoR (by decide) hDigits)
    · exact Or.inr (hNoR (by decide) hLevel)
    · exact Or.inl rfl
    · exact Or.inr ⟨'=', by decide, by decide⟩
  · obtain ⟨dev, hDev, rfl⟩ := List.mem_map.mp hw
    exact Or.inr ⟨'=', by decide, fun hMem =>
      absurd (isSafeDevicePath_chars (h.safe dev hDev) _ hMem) (by decide)⟩

theorem mem_createArguments_label (name level : String) (devices : List String) (chunkKb : Nat) :
    raidDevicesLabel ++ Nat.toDigits 10 devices.length ∈
      createOptions name level devices.length chunkKb ++ devices.map String.toList := by
  simp [createOptions]

theorem statedMembers_createArguments (h : CreateValues name level devices chunkKb) :
    statedMembers (join " " (createArguments name level devices chunkKb)) =
      some devices.length := by
  have hCount : firstDigits raidDevicesLabel
      (raidDevicesLabel ++ (Nat.toDigits 10 devices.length ++ [])) =
      some (Nat.toDigits 10 devices.length) :=
    firstDigits_label_append Nat.toDigits_ne_nil
      (fun _ hc => Nat.isDigit_of_mem_toDigits (by omega) (by omega) hc) (by simp)
  rw [List.append_nil] at hCount
  have hFirst : firstDigits raidDevicesLabel
      (join " " (createArguments name level devices chunkKb)).toList =
      some (Nat.toDigits 10 devices.length) := by
    rw [toList_join_createArguments, firstDigits_intercalate (by decide)]
    apply findSome?_eq_some_of_forall
    · intro w hw
      rcases createArguments_label h w hw with rfl | ⟨c, hLabel, hWord⟩
      · exact Or.inr hCount
      · exact Or.inl (firstDigits_of_notMem hLabel hWord)
    · exact ⟨_, mem_createArguments_label name level devices chunkKb, hCount⟩
  rw [statedMembers, hFirst, Option.map_some, Nat.ofDigitChars_ten_toDigits]

/-- The number of members is not left out. -/
theorem occurs_createArguments (h : CreateValues name level devices chunkKb) :
    occurs raidDevicesLabel (·.all isSpace)
      (join " " (createArguments name level devices chunkKb)).toList = false := by
  rw [toList_join_createArguments, occurs_intercalate (by decide) rfl (by simp [createOptions]),
    List.any_eq_false]
  intro w hw
  rw [Bool.not_eq_true]
  rcases createArguments_label h w hw with rfl | ⟨c, hLabel, hWord⟩
  · have hHead : (Nat.toDigits 10 devices.length).head?.all isSpace = false := by
      cases hDigits : Nat.toDigits 10 devices.length with
      | nil => exact absurd hDigits Nat.toDigits_ne_nil
      | cons c digits =>
        have hc : c ∈ Nat.toDigits 10 devices.length := hDigits ▸ List.mem_cons_self
        exact not_isSpace_of_isAnyPathChar (isAnyPathChar_toDigits c hc)
    have hMinus : '-' ∉ Nat.toDigits 10 devices.length := fun hMem =>
      absurd (Nat.isDigit_of_mem_toDigits (by omega) (by omega) hMem) (by decide)
    have hLabel : Unbordered raidDevicesLabel := by decide
    rw [occurs_label_append hLabel, hHead, occurs_of_notMem (by decide) hMinus]
    rfl
  · exact occurs_of_notMem hLabel hWord

/-- The paths in the command are those of the array and of the members. -/
theorem devicePathsIn_createArguments (h : CreateValues name level devices chunkKb) :
    devicePathsIn none (join " " (createArguments name level devices chunkKb)).toList =
      ("/dev/".toList ++ name.toList) :: devices.map String.toList := by
  have hDigits {n : Nat} : '/' ∉ Nat.toDigits 10 n := fun hMem =>
    absurd (Nat.isDigit_of_mem_toDigits (by omega) (by omega) hMem) (by decide)
  have hLevels : mdRaidLevels.all (fun level => !level.toList.contains '/') = true := by decide
  have hLevel : '/' ∉ level.toList := by simpa using List.all_eq_true.mp hLevels level h.level
  have hNoSlash {text value : Text} (hText : '/' ∉ text) (hValue : '/' ∉ value) :
      devicePathsIn none (text ++ value) = [] :=
    devicePathsIn_of_notMem fun hMem => (List.mem_append.mp hMem).elim hText hValue
  have hArray : devicePathsIn none ("/dev/".toList ++ name.toList) =
      ["/dev/".toList ++ name.toList] := by
    have hName := isAnyPathChar_name h.name
    obtain ⟨digits, hEq, -, -⟩ := exists_of_isNumericMdArrayName h.name
    apply devicePathsIn_path
    · rw [hEq]
      rfl
    · have hDev : "/dev/".toList.all isAnyPathChar = true := by decide
      intro c hc
      exact (List.mem_append.mp hc).elim (List.all_eq_true.mp hDev c) (hName c)
  have hMembers (members : List String) (hSafe : ∀ dev ∈ members, isSafeDevicePath dev = true) :
      (members.map String.toList).flatMap (devicePathsIn none) = members.map String.toList := by
    induction members with
    | nil => rfl
    | cons dev members ih =>
      rw [List.map_cons, List.flatMap_cons,
        devicePathsIn_of_isSafeDevicePath (hSafe dev List.mem_cons_self),
        ih fun other hOther => hSafe other (List.mem_cons_of_mem _ hOther)]
      rfl
  have hMdadm : devicePathsIn none "mdadm".toList = [] := rfl
  have hCreate : devicePathsIn none "--create".toList = [] := rfl
  have hRun : devicePathsIn none "--run".toList = [] := rfl
  have hChunkLabel : '/' ∉ "--chunk=".toList := by decide
  have hLevelLabel : '/' ∉ "--level=".toList := by decide
  have hCountLabel : '/' ∉ raidDevicesLabel := by decide
  rw [toList_join_createArguments, devicePathsIn_intercalate, List.flatMap_append,
    hMembers devices h.safe]
  simp only [createOptions, List.flatMap_cons, List.flatMap_nil, hMdadm, hCreate, hRun, hArray,
    hNoSlash hChunkLabel hDigits, hNoSlash hLevelLabel hLevel, hNoSlash hCountLabel hDigits,
    List.nil_append, List.append_nil, List.cons_append]

/-- A path that the check of a rendered command takes for the array's. -/
def looksLikeArray (dev : String) : Bool := (afterLiteral "/dev/md" dev).isSome

theorem looksLikeArray_name (h : isNumericMdArrayName name) :
    looksLikeArray (String.ofList ("/dev/".toList ++ name.toList)) := by
  obtain ⟨digits, hEq, -, -⟩ := exists_of_isNumericMdArrayName h
  have hText : (String.ofList ("/dev/".toList ++ name.toList)).toList =
      "/dev/".toList ++ 'm' :: 'd' :: digits := by
    rw [hEq]
    exact String.toList_ofList
  have hPrefix : "/dev/md".toList.isPrefixOf
      (String.ofList ("/dev/".toList ++ name.toList)).toList = true := by
    rw [hText]
    rfl
  unfold looksLikeArray afterLiteral
  rw [if_pos hPrefix]
  rfl

theorem assertRendered_eq_ok_iff (h : CreateValues name level devices chunkKb) :
    assertRenderedMdCreateCommand (join " " (createArguments name level devices chunkKb))
      devices.length = .ok () ↔ ∀ dev ∈ devices, looksLikeArray dev = false := by
  have hCounted : ((devicePathsIn none
      (join " " (createArguments name level devices chunkKb)).toList).filter fun path =>
        (afterLiteral "/dev/md" (String.ofList path)).isNone) =
      (devices.filter fun dev => !looksLikeArray dev).map String.toList := by
    have hArray := looksLikeArray_name h.name
    rw [devicePathsIn_createArguments h, List.filter_cons_of_neg, List.filter_map]
    · congr 2
      funext dev
      simp [looksLikeArray, String.ofList_toList]
    · rw [looksLikeArray, Option.isSome_iff_ne_none] at hArray
      simpa using hArray
  have hLength : devices.length ≠ 0 := fun hZero => h.nonempty (List.length_eq_zero_iff.mp hZero)
  have hStated : ¬ (statedMembers (join " " (createArguments name level devices chunkKb)) ≠
      some devices.length ∨ devices.length = 0) := by
    rw [statedMembers_createArguments h]
    exact fun hOr => hOr.elim (fun hNe => hNe rfl) hLength
  unfold assertRenderedMdCreateCommand
  rw [throwIf, if_neg hStated]
  show throwIf _ _ = .ok () ↔ _
  rw [throwIf_eq_ok, not_not, hCounted, List.length_map, List.length_filter_eq_length_iff]
  simp only [Bool.not_eq_true']

end EsosWebui.Raid
