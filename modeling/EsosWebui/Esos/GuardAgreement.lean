import EsosWebui.Esos.Guards

/-! When the shared predicates and the checks of the server take the same mount points and files
for protected, in every spelling of them. -/
namespace EsosWebui.Esos

open Js

variable {input : ProtectionInput} {s t p : Text}

def NamesImage (s : Text) : Prop := ∃ name ∈ squashRootBasenames, contains s name = true

/-- The path goes through `mnt` and `root` to an image of a file system. -/
def LeadsToRootImage (s : Text) : Prop :=
  ∃ before after, pathSegments s = before ++ "mnt".toList :: "root".toList :: after ∧
    (isAbsolute s = true ∨ before ≠ []) ∧
    ∃ name ∈ after.getLast?, endsWith name ".sqsh".toList = true

/-- The path is spelled as one of the shared rules for files has it. -/
def MatchesFileRule (input : ProtectionInput) (path : Text) : Prop :=
  (∃ p ∈ input.protectedFilePaths, isOrIsUnder p path = true) ∨
    baseName path ∈ squashRootBasenames ∨
    (contains path "/mnt/root/".toList = true ∧ endsWith (baseName path) ".sqsh".toList = true)

theorem assertEsosProtectionReliable_build (input : ProtectionInput) :
    assertEsosProtectionReliable (buildEsosSystemProtection input) = .ok () := rfl

theorem mem_protectedMountPoints_of_system (h : p ∈ esosSystemMountPoints) :
    p ∈ input.protectedMountPoints := by
  apply mem_unique.mpr
  simp [h]

theorem ne_nil_of_mem_protectedMountPoints (h : p ∈ input.protectedMountPoints) : p ≠ [] := by
  have hSystem : ∀ q ∈ esosSystemMountPoints, q ≠ [] := by decide
  rw [ProtectionInput.protectedMountPoints, mem_unique, List.mem_append, List.mem_append] at h
  rcases h with (h | h) | h
  · exact hSystem p h
  · obtain ⟨dev, -, hMount⟩ := List.mem_filterMap.mp h
    exact of_decide_eq_true (Option.filter_eq_some_iff.mp hMount).2
  · have hTarget := (List.mem_filter.mp h).2
    exact hSystem p (List.contains_iff_mem.mp hTarget)

theorem thrown_mountPoint_iff :
    Guarded.mountPoint.thrown (buildEsosSystemProtection input) s = true ↔
      s ∈ input.protectedMountPoints := by
  show (!(assertMountPointNotEsosProtected s _).isOk) = true ↔ _
  rw [assertMountPointNotEsosProtected, assertEsosProtectionReliable_build,
    findProtectionForMountPoint]
  show _ ↔ s ∈ (buildEsosSystemProtection input).protectedMountPoints
  by_cases h : s ∈ (buildEsosSystemProtection input).protectedMountPoints
  · rw [if_pos h]
    exact iff_of_true rfl h
  · rw [if_neg h]
    exact iff_of_false Bool.false_ne_true h

theorem shown_mountPoint_iff :
    Guarded.mountPoint.shown (buildEsosSystemProtection input) s = true ↔
      trim s ∈ input.protectedMountPoints := by
  show isMountPointEsosProtected s _ = true ↔ _
  simp only [isMountPointEsosProtected, Bool.and_eq_true, Bool.or_eq_true, decide_eq_true_eq,
    Option.any_some, List.contains_iff_mem]
  show _ ∧ (_ ∨ trim s ∈ input.protectedMountPoints) ↔ _
  constructor
  · rintro ⟨-, (hRoot | hOverlay) | hListed⟩
    · exact mem_protectedMountPoints_of_system (List.mem_cons.mpr (Or.inl hRoot))
    · exact mem_protectedMountPoints_of_system (List.mem_cons_of_mem _ hOverlay)
    · exact hListed
  · intro h
    exact ⟨ne_nil_of_mem_protectedMountPoints h, Or.inr h⟩

theorem slash_not_mem_of_basename (h : p ∈ squashRootBasenames) : '/' ∉ p := by
  have hAll : ∀ name ∈ squashRootBasenames, '/' ∉ name := by decide
  exact hAll p h

theorem namesImage_mono (hInfix : s <:+: t) (h : NamesImage s) : NamesImage t := by
  obtain ⟨name, hName, hIn⟩ := h
  exact ⟨name, hName, contains_iff.mpr ((contains_iff.mp hIn).trans hInfix)⟩

theorem namesImage_of_basename (h : p ∈ squashRootBasenames) : NamesImage p :=
  ⟨p, h, contains_iff.mpr List.infix_rfl⟩

theorem namesImage_iff_segment :
    NamesImage s ↔ ∃ name ∈ squashRootBasenames, ∃ segment ∈ pathSegments s, name <:+: segment := by
  have hBlank : ∀ name ∈ squashRootBasenames, name ≠ [] ∧
      (name.head?.all fun c => !isSpace c) = true ∧
      (name.getLast?.all fun c => !isSpace c) = true := by decide
  refine exists_congr fun name => and_congr_right fun hName => ?_
  obtain ⟨hNe, hFirst, hLast⟩ := hBlank name hName
  have hTrim : name <:+: trim s ↔ name <:+: s :=
    infix_trim_iff hNe (fun c hc => by simpa [Option.mem_def.mp hc] using hFirst)
      (fun c hc => by simpa [Option.mem_def.mp hc] using hLast)
  rw [contains_iff, ← hTrim, infix_iff_exists_splitOn (slash_not_mem_of_basename hName)]
  constructor
  · rintro ⟨segment, hSegment, hIn⟩
    have hSome : segment ≠ [] := by
      rintro rfl
      exact hNe (List.infix_nil.mp hIn)
    exact ⟨segment, List.mem_filter.mpr ⟨hSegment, by simpa using hSome⟩, hIn⟩
  · rintro ⟨segment, hSegment, hIn⟩
    exact ⟨segment, (List.mem_filter.mp hSegment).1, hIn⟩

theorem SamePath.namesImage_iff (h : SamePath t s) : NamesImage t ↔ NamesImage s := by
  rw [namesImage_iff_segment, namesImage_iff_segment, h.2]

theorem SamePath.leadsToRootImage_iff (h : SamePath t s) :
    LeadsToRootImage t ↔ LeadsToRootImage s := by
  rw [LeadsToRootImage, LeadsToRootImage, h.1, h.2]

theorem namesImage_trim (h : NamesImage (trim s)) : NamesImage s := by
  obtain ⟨before, after, -, -, hText⟩ := exists_spaces_trim s
  exact namesImage_mono ⟨before, after, hText⟩ h

theorem replaceDoubleSlash_eq_self {path : Text} (h : '/' ∉ path) :
    ProtectionInput.replaceDoubleSlash path = path := by
  induction path with
  | nil => rfl
  | cons c rest ih =>
    have hc : c ≠ '/' := fun hEq => h (hEq ▸ List.mem_cons_self)
    have hRest := ih fun hMem => h (List.mem_cons_of_mem _ hMem)
    rw [ProtectionInput.replaceDoubleSlash, hRest]
    rintro _ rfl
    exact absurd rfl hc

theorem suffix_replaceDoubleSlash {path : Text} (hSlash : '/' ∉ p) (h : p <:+ path) :
    p <:+ ProtectionInput.replaceDoubleSlash path := by
  induction path using ProtectionInput.replaceDoubleSlash.induct with
  | case1 rest =>
    rw [ProtectionInput.replaceDoubleSlash]
    rcases List.suffix_cons_iff.mp h with rfl | hRest
    · exact absurd List.mem_cons_self hSlash
    · exact hRest
  | case2 c rest hNot ih =>
    rcases List.suffix_cons_iff.mp h with rfl | hRest
    · simpa only [replaceDoubleSlash_eq_self hSlash] using h
    · rw [ProtectionInput.replaceDoubleSlash]
      · exact (ih hRest).trans (List.suffix_cons _ _)
      · exact hNot
  | case3 => exact h

theorem namesImage_of_mem_protectedFilePaths (h : p ∈ input.protectedFilePaths) :
    NamesImage p := by
  rw [ProtectionInput.protectedFilePaths, mem_unique, List.mem_append, List.mem_append] at h
  rcases h with (hFixed | hMount) | hNamed
  · have hAll : ∀ path ∈ squashRootFilePaths, ∃ name ∈ squashRootBasenames,
        contains path name = true := by decide +kernel
    exact hAll p hFixed
  · obtain ⟨base, -, hBase⟩ := List.mem_flatMap.mp hMount
    obtain ⟨name, hName, rfl⟩ := List.mem_map.mp hBase
    have hSuffix := suffix_replaceDoubleSlash (slash_not_mem_of_basename hName)
      (show name <:+ base ++ '/' :: name from ⟨base ++ ['/'], by simp⟩)
    exact namesImage_mono hSuffix.isInfix (namesImage_of_basename hName)
  · obtain ⟨dev, -, hDev⟩ := List.mem_flatMap.mp hNamed
    obtain ⟨name, hMem, hPath⟩ := List.mem_flatMap.mp hDev
    have hName : NamesImage name := namesImage_of_basename (List.mem_filter.mp hMem).1
    rcases List.mem_append.mp hPath with hOn | hRoot
    · split at hOn
      · obtain rfl := List.mem_singleton.mp hOn
        exact namesImage_mono (List.IsSuffix.isInfix ⟨dev.mountpoint.getD [] ++ ['/'], by simp⟩)
          hName
      · cases hOn
    · obtain rfl := List.mem_singleton.mp hRoot
      exact namesImage_mono (List.suffix_append _ _).isInfix hName

theorem namesImage_of_isOrIsUnder (hp : p ∈ input.protectedFilePaths)
    (h : isOrIsUnder p s) : NamesImage s := by
  have hPrefix : p <+: s := by
    rcases Bool.or_eq_true_iff.mp h with hSame | hUnder
    · exact of_decide_eq_true hSame ▸ List.prefix_rfl
    · exact (List.prefix_append _ _).trans (startsWith_iff.mp hUnder)
  exact namesImage_mono hPrefix.isInfix (namesImage_of_mem_protectedFilePaths hp)

theorem thrown_filePath_iff :
    Guarded.filePath.thrown (buildEsosSystemProtection input) s = true ↔ NamesImage s := by
  show (!(assertFilePathNotEsosProtected s _).isOk) = true ↔ _
  rw [assertFilePathNotEsosProtected, assertEsosProtectionReliable_build]
  show (!(if input.protectedFilePaths.any (isOrIsUnder · s) then _ else _ : Except _ _).isOk) = true
    ↔ _
  by_cases hListed : input.protectedFilePaths.any (isOrIsUnder · s) = true
  · rw [if_pos hListed]
    obtain ⟨p, hp, hUnder⟩ := List.any_eq_true.mp hListed
    exact iff_of_true rfl (namesImage_of_isOrIsUnder hp hUnder)
  · rw [if_neg hListed, throwIf]
    have hNames : (squashRootBasenames.any fun name =>
        endsWith s ('/' :: name) || contains s name) = true ↔ NamesImage s := by
      rw [List.any_eq_true]
      refine exists_congr fun name => and_congr_right fun _ => ?_
      rw [Bool.or_eq_true, or_iff_right_iff_imp]
      intro hEnds
      exact contains_iff.mpr ((List.suffix_cons _ _).trans (endsWith_iff.mp hEnds)).isInfix
    by_cases h : NamesImage s
    · rw [if_pos (hNames.mpr h)]
      exact iff_of_true rfl h
    · rw [if_neg fun hAny => h (hNames.mp hAny)]
      exact iff_of_false Bool.false_ne_true h

theorem ne_nil_of_matchesFileRule (h : MatchesFileRule input s) : s ≠ [] := by
  rintro rfl
  rcases h with ⟨p, hp, hUnder⟩ | hBase | ⟨hIn, -⟩
  · obtain ⟨name, hName, hIn⟩ := namesImage_of_isOrIsUnder hp hUnder
    have hNone : ∀ name ∈ squashRootBasenames, contains [] name = false := by decide +kernel
    exact Bool.false_ne_true ((hNone name hName).symm.trans hIn)
  · have hNone : baseName [] ∉ squashRootBasenames := by decide
    exact hNone hBase
  · have hNone : contains [] "/mnt/root/".toList = false := by decide +kernel
    exact Bool.false_ne_true (hNone.symm.trans hIn)

theorem shown_filePath_iff :
    Guarded.filePath.shown (buildEsosSystemProtection input) s = true ↔
      MatchesFileRule input (trim s) := by
  show isFilePathEsosProtected s _ = true ↔ _
  simp only [isFilePathEsosProtected, Bool.and_eq_true, Bool.or_eq_true, decide_eq_true_eq,
    Option.any_some, List.contains_iff_mem, List.any_eq_true]
  show _ ∧ ((((∃ p ∈ input.protectedFilePaths, _) ∨ _) ∨ _) ∨ _) ↔ _
  constructor
  · rintro ⟨-, ((hListed | ⟨p, hp, hFixed⟩) | hBase) | hImage⟩
    · exact Or.inl hListed
    · exact Or.inl ⟨p, mem_unique.mpr (by simp [hp]), hFixed⟩
    · exact Or.inr (Or.inl hBase)
    · exact Or.inr (Or.inr hImage)
  · intro h
    refine ⟨ne_nil_of_matchesFileRule h, ?_⟩
    rcases h with hListed | hBase | hImage
    · exact Or.inl (Or.inl (Or.inl hListed))
    · exact Or.inl (Or.inr hBase)
    · exact Or.inr hImage

theorem baseName_suffix (path : Text) : baseName path <:+ path := by
  obtain ⟨last, hLast⟩ : ∃ last, last ∈ (path.splitOn '/').getLast? :=
    ⟨_, List.getLast?_eq_some_getLast (List.splitOn_ne_nil '/' path)⟩
  have hJoin : ['/'].intercalate (path.splitOn '/') = path := List.intercalate_splitOn '/'
  rw [baseName, Option.mem_def.mp hLast, Option.getD_some]
  exact hJoin ▸ suffix_intercalate hLast

theorem baseName_eq {path : Text} {before after : List Text} {last : Text}
    (hSplit : path.splitOn '/' = before ++ after) (h : last ∈ after.getLast?) :
    baseName path = last := by
  rw [baseName, hSplit, List.getLast?_append, Option.mem_def.mp h]
  rfl

def names (path : Text) : List Text := (path.splitOn '/').filter (· ≠ [])

@[simp] theorem names_append_slash (x y : Text) : names (x ++ '/' :: y) = names x ++ names y := by
  rw [names, List.splitOn_append_cons_self, List.filter_append]
  rfl

theorem startsWith_of_names_nil {x : Text} (h : names x = []) (hNe : x ≠ []) :
    startsWith x ['/'] := by
  obtain ⟨c, rest, rfl⟩ := List.exists_cons_of_ne_nil hNe
  by_cases hc : c = '/'
  · exact startsWith_iff.mpr ⟨rest, by rw [hc, List.singleton_append]⟩
  · obtain ⟨first, more, hSplit⟩ := List.exists_cons_of_ne_nil (List.splitOn_ne_nil '/' rest)
    rw [names, List.splitOn_cons_eq_if_modifyHead, if_neg (by simpa using hc), hSplit] at h
    simp at h

theorem head?_of_names_cons {x name : Text} {rest : List Text} (hNot : startsWith x ['/'] = false)
    (h : names x = name :: rest) : name.head? = x.head? := by
  cases x with
  | nil => simp [names] at h
  | cons c more =>
    have hc : c ≠ '/' := by
      rintro rfl
      exact Bool.false_ne_true (hNot.symm.trans (startsWith_iff.mpr ⟨more, rfl⟩))
    obtain ⟨first, others, hSplit⟩ := List.exists_cons_of_ne_nil (List.splitOn_ne_nil '/' more)
    rw [names, List.splitOn_cons_eq_if_modifyHead, if_neg (by simpa using hc), hSplit,
      List.modifyHead_cons, List.filter_cons_of_pos (by simp)] at h
    obtain ⟨rfl, -⟩ := List.cons.inj h
    rfl

theorem names_intercalate {pieces : List Text} (h : ∀ p ∈ pieces, '/' ∉ p ∧ p ≠ []) :
    names (['/'].intercalate pieces) = pieces := by
  by_cases hNil : pieces = []
  · rw [hNil]
    rfl
  · rw [names, List.splitOn_intercalate '/' (fun p hp => (h p hp).1) hNil]
    exact List.filter_eq_self.mpr fun p hp => by simpa using (h p hp).2

theorem getLast?_names {x last : Text} (h : last ∈ (x.splitOn '/').getLast?) (hNe : last ≠ []) :
    last ∈ (names x).getLast? := by
  obtain ⟨init, hSplit⟩ := List.getLast?_eq_some_iff.mp (Option.mem_def.mp h)
  rw [names, hSplit, List.filter_append, List.filter_cons_of_pos (by simpa using hNe)]
  simp

theorem ne_nil_of_endsWith {name ending : Text} (hNe : ending ≠ [])
    (h : endsWith name ending) : name ≠ [] := by
  rintro rfl
  exact hNe (List.suffix_nil.mp (endsWith_iff.mp h))

theorem names_through_mnt_root (x y : Text) :
    names (x ++ "/mnt/root/".toList ++ y) =
      names x ++ "mnt".toList :: "root".toList :: names y := by
  have hPath : x ++ "/mnt/root/".toList ++ y =
      x ++ '/' :: ("mnt".toList ++ '/' :: ("root".toList ++ '/' :: y)) := by
    rw [List.append_assoc]
    rfl
  have hMnt : names "mnt".toList = ["mnt".toList] := by decide
  have hRoot : names "root".toList = ["root".toList] := by decide
  rw [hPath, names_append_slash, names_append_slash, names_append_slash, hMnt, hRoot]
  rfl

theorem baseName_through_mnt_root (x y : Text) :
    baseName (x ++ "/mnt/root/".toList ++ y) = baseName y := by
  have hPath : x ++ "/mnt/root/".toList ++ y = (x ++ "/mnt/root".toList) ++ '/' :: y := by
    rw [List.append_assoc, List.append_assoc]
    rfl
  obtain ⟨last, hLast⟩ : ∃ last, last ∈ (y.splitOn '/').getLast? :=
    ⟨_, List.getLast?_eq_some_getLast (List.splitOn_ne_nil '/' y)⟩
  rw [hPath, baseName_eq (List.splitOn_append_cons_self _ _) hLast, baseName,
    Option.mem_def.mp hLast, Option.getD_some]

theorem leadsToRootImage_of_matches (hIn : contains (trim s) "/mnt/root/".toList)
    (hBase : endsWith (baseName (trim s)) ".sqsh".toList) : LeadsToRootImage s := by
  obtain ⟨x, y, hText⟩ := contains_iff.mp hIn
  refine ⟨names x, names y, ?_, ?_, ?_⟩
  · show names (trim s) = _
    rw [← hText, names_through_mnt_root]
  · by_cases hNames : names x = []
    · left
      show startsWith (trim s) ['/'] = true
      rw [← hText, startsWith_iff]
      by_cases hx : x = []
      · rw [hx]
        exact ⟨_, rfl⟩
      · exact (startsWith_iff.mp (startsWith_of_names_nil hNames hx)).trans
          ((List.prefix_append _ _).trans (List.prefix_append _ _))
    · exact Or.inr hNames
  · rw [← hText, baseName_through_mnt_root] at hBase
    refine ⟨baseName y, ?_, hBase⟩
    apply getLast?_names
    · rw [baseName, List.getLast?_eq_some_getLast (List.splitOn_ne_nil '/' y)]
      rfl
    · exact ne_nil_of_endsWith (by decide) hBase

theorem startsWith_slash_iff {x : Text} : startsWith x ['/'] = true ↔ x.head? = some '/' := by
  rw [startsWith_iff]
  cases x with
  | nil => simp
  | cons c rest => simp [List.cons_prefix_cons, eq_comm]

/-- The first names of a path, spelled without blanks around it and with single slashes. -/
theorem exists_front {before rest : List Text} (hNames : names (trim s) = before ++ rest)
    (hStart : isAbsolute s = true ∨ before ≠ []) :
    ∃ x, x ≠ [] ∧ names x = before ∧ x.head? = (trim s).head? := by
  have hPieces : ∀ p ∈ before, '/' ∉ p ∧ p ≠ [] := by
    intro p hp
    have hMem : p ∈ names (trim s) := hNames ▸ List.mem_append_left _ hp
    obtain ⟨hSplit, hNe⟩ := List.mem_filter.mp hMem
    exact ⟨not_mem_of_mem_splitOn hSplit, by simpa using hNe⟩
  by_cases hAbs : isAbsolute s = true
  · refine ⟨[] ++ '/' :: ['/'].intercalate before, List.cons_ne_nil _ _, ?_, ?_⟩
    · rw [names_append_slash, names_intercalate hPieces]
      rfl
    · exact (startsWith_slash_iff.mp hAbs).symm
  · obtain ⟨name, others, rfl⟩ := List.exists_cons_of_ne_nil (hStart.resolve_left hAbs)
    have hHead := head?_of_names_cons (Bool.eq_false_iff.mpr hAbs) hNames
    have hName : name ≠ [] := (hPieces name List.mem_cons_self).2
    have hPrefix : ∃ more, ['/'].intercalate (name :: others) = name ++ more := by
      cases others with
      | nil => exact ⟨[], by simp⟩
      | cons next others => exact ⟨_, intercalate_cons_cons _ _ _ _⟩
    obtain ⟨more, hMore⟩ := hPrefix
    refine ⟨['/'].intercalate (name :: others), ?_, names_intercalate hPieces, ?_⟩
    · simp [hMore, hName]
    · rw [hMore, List.head?_append_of_ne_nil _ hName, hHead]

theorem exists_samePath_matches (input : ProtectionInput) (h : LeadsToRootImage s) :
    ∃ t, SamePath t s ∧ MatchesFileRule input (trim t) := by
  obtain ⟨before, after, hNames, hStart, name, hLast, hEnds⟩ := h
  obtain ⟨x, hNe, hFront, hHead⟩ := exists_front hNames hStart
  have hAfter : ∀ p ∈ after, '/' ∉ p ∧ p ≠ [] := by
    intro p hp
    have hMem : p ∈ names (trim s) := by
      show p ∈ pathSegments s
      simp [hNames, hp]
    obtain ⟨hSplit, hNe⟩ := List.mem_filter.mp hMem
    exact ⟨not_mem_of_mem_splitOn hSplit, by simpa using hNe⟩
  have hSuffix : name <:+ x ++ "/mnt/root/".toList ++ ['/'].intercalate after :=
    (suffix_intercalate hLast).trans (List.suffix_append _ _)
  have hTrim : trim (x ++ "/mnt/root/".toList ++ ['/'].intercalate after) =
      x ++ "/mnt/root/".toList ++ ['/'].intercalate after := by
    apply trim_eq_self
    · rw [List.append_assoc, List.head?_append_of_ne_nil _ hNe, hHead]
      exact head?_trim s
    · obtain ⟨start, hText⟩ := (endsWith_iff.mp hEnds).trans hSuffix
      have hLetter : ".sqsh".toList.getLast? = some 'h' := by decide
      rw [← hText, List.getLast?_append, hLetter]
      intro c hc
      obtain rfl : 'h' = c := Option.some.inj hc
      decide
  refine ⟨x ++ "/mnt/root/".toList ++ ['/'].intercalate after, ⟨?_, ?_⟩, ?_⟩
  · rw [isAbsolute, isAbsolute, hTrim, Bool.eq_iff_iff, startsWith_slash_iff, startsWith_slash_iff,
      List.append_assoc, List.head?_append_of_ne_nil _ hNe, hHead]
  · show names (trim _) = pathSegments s
    rw [hTrim, names_through_mnt_root, hFront, names_intercalate hAfter, hNames]
  · rw [hTrim]
    refine Or.inr (Or.inr ⟨contains_iff.mpr ⟨_, _, rfl⟩, ?_⟩)
    have hSome : after ≠ [] := by
      rintro rfl
      cases hLast
    have hSplit : (['/'].intercalate after).splitOn '/' = [] ++ after :=
      List.splitOn_intercalate '/' (fun p hp => (hAfter p hp).1) hSome
    rwa [baseName_through_mnt_root, baseName_eq hSplit hLast]

theorem namesImage_or_leadsToRootImage (h : MatchesFileRule input (trim s)) :
    NamesImage s ∨ LeadsToRootImage s := by
  rcases h with ⟨p, hp, hUnder⟩ | hBase | ⟨hIn, hEnds⟩
  · exact Or.inl (namesImage_trim (namesImage_of_isOrIsUnder hp hUnder))
  · exact Or.inl (namesImage_trim
      (namesImage_mono (baseName_suffix _).isInfix (namesImage_of_basename hBase)))
  · exact Or.inr (leadsToRootImage_of_matches hIn hEnds)

/-- What is protected in some spelling is protected in this one, for the predicate and the check. -/
def Guarded.IsPlain (input : ProtectionInput) : Guarded → Text → Prop
  | mountPoint, s => (∃ p ∈ input.protectedMountPoints, SamePath p s) →
      s ∈ input.protectedMountPoints ∧ trim s ∈ input.protectedMountPoints
  | filePath, s => (NamesImage s → MatchesFileRule input (trim s)) ∧
      (LeadsToRootImage s → NamesImage s)

theorem samePath_trim (s : Text) : SamePath (trim s) s := by
  constructor
  · rw [isAbsolute, trim_trim, isAbsolute]
  · rw [pathSegments, trim_trim, pathSegments]

theorem mountPoint_agrees_iff (input : ProtectionInput) (s : Text) :
    Guarded.mountPoint.Agrees (buildEsosSystemProtection input) s ↔
      Guarded.mountPoint.IsPlain input s := by
  constructor
  · rintro ⟨hSame, -, hThrown⟩ ⟨p, hp, hPath⟩
    have hs : Guarded.mountPoint.thrown (buildEsosSystemProtection input) s = true :=
      hThrown p hPath (thrown_mountPoint_iff.mpr hp)
    exact ⟨thrown_mountPoint_iff.mp hs, shown_mountPoint_iff.mp (hSame.trans hs)⟩
  · intro hPlain
    have hShown : ∀ t, SamePath t s →
        Guarded.mountPoint.shown (buildEsosSystemProtection input) t = true →
        s ∈ input.protectedMountPoints ∧ trim s ∈ input.protectedMountPoints := by
      intro t hPath ht
      have hTrim := samePath_trim t
      exact hPlain ⟨trim t, shown_mountPoint_iff.mp ht, hTrim.1.trans hPath.1,
        hTrim.2.trans hPath.2⟩
    have hThrown : ∀ t, SamePath t s →
        Guarded.mountPoint.thrown (buildEsosSystemProtection input) t = true →
        s ∈ input.protectedMountPoints ∧ trim s ∈ input.protectedMountPoints :=
      fun t hPath ht => hPlain ⟨t, thrown_mountPoint_iff.mp ht, hPath⟩
    refine ⟨?_, fun t hPath ht => shown_mountPoint_iff.mpr (hShown t hPath ht).2,
      fun t hPath ht => thrown_mountPoint_iff.mpr (hThrown t hPath ht).1⟩
    rw [Bool.eq_iff_iff]
    exact ⟨fun hs => thrown_mountPoint_iff.mpr (hShown s ⟨rfl, rfl⟩ hs).1,
      fun hs => shown_mountPoint_iff.mpr (hThrown s ⟨rfl, rfl⟩ hs).2⟩

theorem filePath_agrees_iff (input : ProtectionInput) (s : Text) :
    Guarded.filePath.Agrees (buildEsosSystemProtection input) s ↔
      Guarded.filePath.IsPlain input s := by
  constructor
  · rintro ⟨hSame, hShown, -⟩
    constructor
    · intro hName
      exact shown_filePath_iff.mp (hSame.trans (thrown_filePath_iff.mpr hName))
    · intro hLeads
      obtain ⟨t, hPath, hMatches⟩ := exists_samePath_matches input hLeads
      have hs := hShown t hPath (shown_filePath_iff.mpr hMatches)
      exact thrown_filePath_iff.mp (hSame.symm.trans hs)
  · rintro ⟨hNamed, hLeads⟩
    have hShown : ∀ t, SamePath t s →
        Guarded.filePath.shown (buildEsosSystemProtection input) t = true → NamesImage s := by
      intro t hPath ht
      rcases namesImage_or_leadsToRootImage (shown_filePath_iff.mp ht) with hName | hRoot
      · exact hPath.namesImage_iff.mp hName
      · exact hLeads (hPath.leadsToRootImage_iff.mp hRoot)
    have hThrown : ∀ t, SamePath t s →
        Guarded.filePath.thrown (buildEsosSystemProtection input) t = true → NamesImage s :=
      fun t hPath ht => hPath.namesImage_iff.mp (thrown_filePath_iff.mp ht)
    refine ⟨?_, fun t hPath ht => shown_filePath_iff.mpr (hNamed (hShown t hPath ht)),
      fun t hPath ht => thrown_filePath_iff.mpr (hThrown t hPath ht)⟩
    rw [Bool.eq_iff_iff]
    exact ⟨fun hs => thrown_filePath_iff.mpr (hShown s ⟨rfl, rfl⟩ hs),
      fun hs => shown_filePath_iff.mpr (hNamed (hThrown s ⟨rfl, rfl⟩ hs))⟩

/-- The predicate and the check agree on a string in every spelling exactly when its own spelling
is one that both know. -/
theorem guards_agree_iff (input : ProtectionInput) (kind : Guarded) (s : Text) :
    kind.Agrees (buildEsosSystemProtection input) s ↔ kind.IsPlain input s := by
  cases kind with
  | mountPoint => exact mountPoint_agrees_iff input s
  | filePath => exact filePath_agrees_iff input s

/-- The check of the server lets the mount point of the system through with a slash after it. -/
theorem trailingSlash_disagrees :
    ¬ Guarded.mountPoint.Agrees (buildEsosSystemProtection ⟨[], [], {}⟩) "/mnt/root/".toList := by
  intro h
  have hPlain := h.thrown_of_same "/mnt/root".toList (by decide +kernel) (by decide +kernel)
  revert hPlain
  decide +kernel

end EsosWebui.Esos
