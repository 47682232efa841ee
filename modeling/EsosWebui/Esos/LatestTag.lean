import EsosWebui.Esos.GitHubReleases
import EsosWebui.Js.Lines
import EsosWebui.Js.ParseInt
import EsosWebui.Js.Sorting
import Mathlib

/-! The latest of a list of tags: the greatest version, where every tag name that is taken for a
version also parses as one. -/
namespace EsosWebui.Esos

open Js

/-- `sort`'s comparator; a comparison that gives up counts as equal. -/
def tagOrder (a b : GitHubTag) : Ordering := (compareSemverOrder b.name a.name).getD .eq

/-- `pickLatestSemverTag`, with the sort of the engine. -/
def pickLatestSemverTagWith
    (sort : (GitHubTag → GitHubTag → Ordering) → List GitHubTag → List GitHubTag)
    (tags : List GitHubTag) : Option GitHubTag :=
  (sort tagOrder (filterSemverTags tags)).head?

/-- The three numbers of a semver tag name, most significant first. -/
abbrev TagVersion := Nat ×ₗ Nat ×ₗ Nat

def tagVersion (tag : GitHubTag) : TagVersion :=
  match (cleanTagName tag.name).splitOn '.' with
  | [major, minor, patch] =>
    toLex (Nat.ofDigitChars 10 major 0,
      toLex (Nat.ofDigitChars 10 minor 0, Nat.ofDigitChars 10 patch 0))
  | _ => toLex (0, toLex (0, 0))

def numberRank : Number → WithTop Int
  | .int n => n
  | _ => ⊤

def roundedRank (n : Nat) : WithTop Int := numberRank (Number.ofNat n)

/-- A version whose numbers are those of the language. -/
def roundedVersion (version : TagVersion) : WithTop Int ×ₗ WithTop Int ×ₗ WithTop Int :=
  toLex (roundedRank (ofLex version).1, toLex (roundedRank (ofLex (ofLex version).2).1,
    roundedRank (ofLex (ofLex version).2).2))

/-- The picked tag has the greatest version, whatever the order of the list. -/
structure LatestIsMaximum
    (sort : (GitHubTag → GitHubTag → Ordering) → List GitHubTag → List GitHubTag)
    (tags : List GitHubTag) : Prop where
  none_iff : pickLatestSemverTagWith sort tags = none ↔
    ∀ tag ∈ tags, isSemverTagName tag.name = false
  maximal : ∀ latest, pickLatestSemverTagWith sort tags = some latest →
    latest ∈ filterSemverTags tags ∧ ∀ tag ∈ filterSemverTags tags,
      ¬ tagVersion latest < tagVersion tag
  anyOrder : ∀ others, others.Perm tags →
    (pickLatestSemverTagWith sort others).map tagVersion =
      (pickLatestSemverTagWith sort tags).map tagVersion

/-- All semver tags have one version. -/
def OneVersion (tags : List GitHubTag) : Prop :=
  ∀ a ∈ filterSemverTags tags, ∀ b ∈ filterSemverTags tags, tagVersion a = tagVersion b

/-- No semver tag is written with a capital `V`, and the versions that are the greatest as the
language rounds them are the greatest. -/
structure Comparable (tags : List GitHubTag) : Prop where
  noCapital : ∀ tag ∈ filterSemverTags tags, tag.name.head? ≠ some 'V'
  rounded : ∀ latest ∈ filterSemverTags tags,
    (∀ tag ∈ filterSemverTags tags,
      roundedVersion (tagVersion tag) ≤ roundedVersion (tagVersion latest)) →
    ∀ tag ∈ filterSemverTags tags, tagVersion tag ≤ tagVersion latest

theorem isVersionPrefix_of_isSpace {c : Char} (h : isSpace c) :
    isVersionPrefix c := by
  simp [isVersionPrefix, h]

theorem cleanVersion_of_trim {s text : Text} (h : trim s = text)
    (hFirst : ∀ c ∈ text.head?, isVersionPrefix c = false) (hDash : '-' ∉ text) :
    (trim (s.dropWhile isVersionPrefix)).takeWhile (· != '-') = text := by
  have hTrim : trim text = text := by rw [← h, trim_trim]
  obtain ⟨p, q, hp, hq, hSplit⟩ := exists_spaces_trim s
  rw [h] at hSplit
  have hText : (text ++ q).dropWhile isVersionPrefix = text ++ q ∨ text = [] := by
    cases text with
    | nil => exact Or.inr rfl
    | cons c rest => exact Or.inl (List.dropWhile_cons_of_neg (by simp [hFirst c rfl]))
  have hDrop : trim (s.dropWhile isVersionPrefix) = text := by
    rw [← hSplit, List.append_assoc,
      List.dropWhile_append_of_pos fun c hc => isVersionPrefix_of_isSpace (hp c hc)]
    rcases hText with hText | rfl
    · rw [hText, trim_append_spaces hq, hTrim]
    · rw [List.nil_append, List.dropWhile_eq_nil_iff.mpr fun c hc =>
        isVersionPrefix_of_isSpace (hq c hc)]
      exact hTrim
  rw [hDrop]
  exact List.takeWhile_eq_self_iff.mpr fun c hc => by
    simp only [bne_iff_ne, ne_eq]
    rintro rfl
    exact hDash hc

structure SemverParts (name major minor patch : Text) : Prop where
  split : (cleanTagName name).splitOn '.' = [major, minor, patch]
  major : isDigits major = true
  minor : isDigits minor = true
  patch : isDigits patch = true

theorem isSemverTagName_iff {name : Text} :
    isSemverTagName name = true ↔ ∃ major minor patch, SemverParts name major minor patch := by
  unfold isSemverTagName
  constructor
  · intro h
    split at h
    · rename_i major minor patch hSplit
      simp only [Bool.and_eq_true] at h
      exact ⟨major, minor, patch, hSplit, h.1.1, h.1.2, h.2⟩
    · cases h
  · rintro ⟨major, minor, patch, h⟩
    simp [h.split, h.major, h.minor, h.patch]

theorem mem_of_isDigits {s : Text} (h : isDigits s) {c : Char} (hc : c ∈ s) :
    c.isDigit := by
  simp only [isDigits, Bool.and_eq_true, List.all_eq_true] at h
  exact h.2 c hc

namespace SemverParts

variable {name major minor patch : Text}

theorem text (h : SemverParts name major minor patch) :
    cleanTagName name = major ++ '.' :: minor ++ '.' :: patch := by
  have hJoin : ['.'].intercalate ((cleanTagName name).splitOn '.') = cleanTagName name :=
    List.intercalate_splitOn '.'
  rw [h.split] at hJoin
  rw [← hJoin]
  simp [List.intercalate, List.intersperse]

theorem mem (h : SemverParts name major minor patch) {c : Char} (hc : c ∈ cleanTagName name) :
    c.isDigit = true ∨ c = '.' := by
  rw [h.text] at hc
  simp only [List.append_assoc, List.cons_append, List.mem_append, List.mem_cons] at hc
  rcases hc with hc | rfl | hc | rfl | hc
  · exact Or.inl (mem_of_isDigits h.major hc)
  · exact Or.inr rfl
  · exact Or.inl (mem_of_isDigits h.minor hc)
  · exact Or.inr rfl
  · exact Or.inl (mem_of_isDigits h.patch hc)

theorem not_prefix (h : SemverParts name major minor patch) {c : Char}
    (hc : c ∈ cleanTagName name) : isVersionPrefix c = false := by
  rcases h.mem hc with hDigit | rfl
  · have hSpace : isSpace c = false :=
      (isWord_of_isDigits (s := [c]) (by simp [isDigits, hDigit])).2 c List.mem_cons_self
    have hNe (d : Char) (hNot : d.isDigit = false) : c ≠ d := by
      rintro rfl
      rw [hDigit] at hNot
      cases hNot
    simp [isVersionPrefix, hSpace, hNe '^' rfl, hNe '~' rfl, hNe '>' rfl, hNe '=' rfl, hNe 'v' rfl]
  · decide

end SemverParts

theorem partValue_of_isDigits {digits : Text} (h : isDigits digits) :
    partValue digits = some (Number.parseInt digits) := by
  obtain ⟨hTake, hNe⟩ := Number.takeWhile_of_isDigits h
  have hDrop : digits.dropWhile Char.isDigit = [] :=
    List.dropWhile_eq_nil_iff.mpr fun c hc => mem_of_isDigits h hc
  have hTrim := (isWord_of_isDigits h).trim_eq
  cases digits with
  | nil => exact absurd rfl hNe
  | cons c rest =>
    have hDigit : c.isDigit = true := mem_of_isDigits h List.mem_cons_self
    have hPlus : ¬ (c :: rest).head? = some '+' := by
      intro hHead
      obtain rfl := Option.some.inj hHead
      exact absurd hDigit (by decide)
    have hInfinity : ¬ c :: rest = "Infinity".toList := by
      intro hText
      obtain rfl : c = 'I' := congrArg (fun t => t.headD ' ') hText
      exact absurd hDigit (by decide)
    simp only [partValue, hTrim, if_neg hPlus, if_neg hInfinity, hDrop, hTake]
    rfl

theorem partValue_of_capital (rest : Text) : partValue ('V' :: rest) = none := by
  have hTrim : trim ('V' :: rest) = 'V' :: trimEnd rest := trim_cons (by decide) rest
  simp only [partValue, hTrim]
  generalize trimEnd rest = rest
  have hPlus : ¬ ('V' :: rest).head? = some '+' := by simp
  have hInfinity : ¬ 'V' :: rest = "Infinity".toList := by
    intro hText
    have hHead : 'V' = 'I' := congrArg (fun t => t.headD ' ') hText
    exact absurd hHead (by decide)
  rw [if_neg hPlus, if_neg hInfinity]
  rfl

theorem eq_of_toLower_eq_v {c : Char} (h : c.toLower = 'v') : c = 'v' ∨ c = 'V' := by
  by_cases hUpper : c.isUpper = true
  · refine Or.inr ?_
    have hCode : c.val + ('a'.val - 'A'.val) = 'v'.val := by
      have hVal := congrArg Char.val h
      unfold Char.toLower at hVal
      rwa [dif_pos (of_decide_eq_true hUpper)] at hVal
    refine Char.ext ?_
    have hSub := congrArg (· - ('a'.val - 'A'.val)) hCode
    simpa using hSub
  · exact Or.inl ((toLower_of_not_isUpper hUpper).symm.trans h)

theorem parseSemver_of_parts {name major minor patch : Text}
    (h : SemverParts name major minor patch) (hCapital : name.head? ≠ some 'V') :
    parseSemver name =
      some (Number.parseInt major, Number.parseInt minor, Number.parseInt patch) := by
  have hFirst : ∀ c ∈ (cleanTagName name).head?, isVersionPrefix c = false := fun c hc =>
    h.not_prefix (List.mem_of_mem_head? hc)
  have hDash : '-' ∉ cleanTagName name := by
    intro hMem
    rcases h.mem hMem with hDigit | hDot
    · exact absurd hDigit (by decide)
    · exact absurd hDot (by decide)
  have hClean : cleanVersion name = cleanTagName name := by
    by_cases hV : (name.head?.map Char.toLower) = some 'v'
    · cases name with
      | nil => cases hV
      | cons c rest =>
        obtain rfl : c = 'v' := by
          rcases eq_of_toLower_eq_v (Option.some.inj hV) with hSmall | hBig
          · exact hSmall
          · exact absurd (congrArg some hBig) hCapital
        have hTag : cleanTagName ('v' :: rest) = trim rest := by
          rw [cleanTagName, if_pos hV, List.tail_cons]
        rw [hTag] at hFirst hDash ⊢
        rw [cleanVersion, List.dropWhile_cons_of_pos (by decide)]
        exact cleanVersion_of_trim rfl hFirst hDash
    · have hTag : cleanTagName name = trim name := by rw [cleanTagName, if_neg hV]
      rw [hTag] at hFirst hDash ⊢
      exact cleanVersion_of_trim rfl hFirst hDash
  rw [parseSemver, hClean, h.split]
  simp [partValue_of_isDigits h.major, partValue_of_isDigits h.minor,
    partValue_of_isDigits h.patch]

/-- A name with a capital `V` is taken for a version, but parsed as none. -/
theorem parseSemver_of_capital {name : Text}
    (hCapital : name.head? = some 'V') : parseSemver name = none := by
  cases name with
  | nil => cases hCapital
  | cons c rest =>
    obtain rfl := Option.some.inj hCapital
    have hClean : cleanVersion ('V' :: rest) = 'V' :: (trimEnd rest).takeWhile (· != '-') := by
      have hDrop : ('V' :: rest).dropWhile isVersionPrefix = 'V' :: rest :=
        List.dropWhile_cons_of_neg (by decide)
      rw [cleanVersion, hDrop, trim_cons (by decide)]
      rfl
    rw [parseSemver, hClean, List.splitOn_cons_eq_if_modifyHead, if_neg (by decide)]
    cases hParts : ((trimEnd rest).takeWhile (· != '-')).splitOn '.' with
    | nil => exact absurd hParts (List.splitOn_ne_nil _ _)
    | cons first parts =>
      rw [List.modifyHead_cons, List.mapM_cons, partValue_of_capital]
      rfl

/-- `a - b < 0` and `a - b > 0`, of two numbers that were read. -/
def numberOrder (a b : Number) : Ordering :=
  if numberLt a b then .lt else if numberLt b a then .gt else .eq

theorem numberOrder_ofNat (m n : Nat) :
    numberOrder (Number.ofNat m) (Number.ofNat n) = cmp (roundedRank m) (roundedRank n) := by
  have hCases (n : Nat) :
      (∃ k : Int, Number.ofNat n = .int k) ∨ Number.ofNat n = .infinity := by
    unfold Number.ofNat
    split
    · exact Or.inl ⟨_, rfl⟩
    · exact Or.inr rfl
  unfold roundedRank
  rcases hCases m with ⟨a, hA⟩ | hA <;> rcases hCases n with ⟨b, hB⟩ | hB <;> rw [hA, hB]
  all_goals unfold cmp cmpUsing
  · simp only [numberOrder, numberLt, numberRank, decide_eq_true_eq, WithTop.coe_lt_coe]
  · simp [numberOrder, numberLt, numberRank]
  · simp [numberOrder, numberLt, numberRank]
  · simp [numberOrder, numberLt, numberRank]

theorem cmp_toLex {α β : Type} [LinearOrder α] [LinearOrder β] (a b : α) (c d : β) :
    cmp (toLex (a, c)) (toLex (b, d)) = (cmp a b).then (cmp c d) := by
  rcases lt_trichotomy a b with hLt | rfl | hGt
  · have hPair : toLex (a, c) < toLex (b, d) := Prod.Lex.toLex_lt_toLex.mpr (Or.inl hLt)
    rw [(cmp_eq_lt_iff a b).mpr hLt, (cmp_eq_lt_iff _ _).mpr hPair]
    rfl
  · rw [cmp_self_eq_eq]
    unfold cmp cmpUsing
    simp [Prod.Lex.toLex_lt_toLex, Ordering.then]
  · have hPair : toLex (b, d) < toLex (a, c) := Prod.Lex.toLex_lt_toLex.mpr (Or.inl hGt)
    rw [(cmp_eq_gt_iff a b).mpr hGt, (cmp_eq_gt_iff _ _).mpr hPair]
    rfl

theorem tagVersion_of_parts {tag : GitHubTag} {major minor patch : Text}
    (h : SemverParts tag.name major minor patch) :
    tagVersion tag = toLex (Nat.ofDigitChars 10 major 0,
      toLex (Nat.ofDigitChars 10 minor 0, Nat.ofDigitChars 10 patch 0)) := by
  rw [tagVersion, h.split]

theorem tagOrder_eq {a b : GitHubTag} (hA : isSemverTagName a.name)
    (hB : isSemverTagName b.name) (hCapitalA : a.name.head? ≠ some 'V')
    (hCapitalB : b.name.head? ≠ some 'V') :
    tagOrder a b = cmp (roundedVersion (tagVersion b)) (roundedVersion (tagVersion a)) := by
  obtain ⟨majorA, minorA, patchA, hPartsA⟩ := isSemverTagName_iff.mp hA
  obtain ⟨majorB, minorB, patchB, hPartsB⟩ := isSemverTagName_iff.mp hB
  rw [tagVersion_of_parts hPartsA, tagVersion_of_parts hPartsB, roundedVersion, roundedVersion,
    cmp_toLex, cmp_toLex]
  dsimp only [ofLex_toLex]
  rw [← numberOrder_ofNat, ← numberOrder_ofNat, ← numberOrder_ofNat]
  rw [tagOrder, compareSemverOrder, parseSemver_of_parts hPartsA hCapitalA,
    parseSemver_of_parts hPartsB hCapitalB]
  exact Ordering.then_assoc _ _ _

theorem tagOrder_of_capital {a b : GitHubTag}
    (h : a.name.head? = some 'V' ∨ b.name.head? = some 'V') : tagOrder a b = .eq := by
  rw [tagOrder, compareSemverOrder]
  rcases h with h | h
  · rw [parseSemver_of_capital h]
    cases parseSemver b.name <;> rfl
  · rw [parseSemver_of_capital h]
    rfl

theorem descends_of_noCapital {tags : List GitHubTag}
    (h : ∀ tag ∈ filterSemverTags tags, tag.name.head? ≠ some 'V') :
    Descends (fun tag => roundedVersion (tagVersion tag)) tagOrder (filterSemverTags tags) :=
  fun a hA b hB => tagOrder_eq (List.mem_filter.mp hA).2 (List.mem_filter.mp hB).2 (h a hA) (h b hB)

section

variable {sort : (GitHubTag → GitHubTag → Ordering) → List GitHubTag → List GitHubTag}
  {tags others : List GitHubTag}

theorem pickLatestSemverTagWith_eq_none_iff (hSort : SortsArrays sort) :
    pickLatestSemverTagWith sort tags = none ↔ ∀ tag ∈ tags, isSemverTagName tag.name = false := by
  rw [pickLatestSemverTagWith, List.head?_eq_none_iff, ← List.length_eq_zero_iff,
    (hSort.perm _ _).length_eq, List.length_eq_zero_iff, filterSemverTags, List.filter_eq_nil_iff]
  simp

theorem mem_of_pickLatest (hSort : SortsArrays sort) {latest : GitHubTag}
    (h : pickLatestSemverTagWith sort tags = some latest) : latest ∈ filterSemverTags tags :=
  (hSort.perm _ _).mem_iff.mp (List.mem_of_mem_head? h)

theorem filterSemverTags_perm (h : others.Perm tags) :
    (filterSemverTags others).Perm (filterSemverTags tags) := h.filter _

/-- Where every list with the same tags gives a greatest version, the order is no matter. -/
theorem latestIsMaximum_of (hSort : SortsArrays sort)
    (h : ∀ others, others.Perm tags → ∀ latest, pickLatestSemverTagWith sort others = some latest →
      ∀ tag ∈ filterSemverTags tags, tagVersion tag ≤ tagVersion latest) :
    LatestIsMaximum sort tags := by
  refine ⟨pickLatestSemverTagWith_eq_none_iff hSort, fun latest hLatest =>
    ⟨mem_of_pickLatest hSort hLatest, fun tag hTag =>
      not_lt.mpr (h tags (List.Perm.refl _) latest hLatest tag hTag)⟩, fun others hPerm => ?_⟩
  have hNone : pickLatestSemverTagWith sort others = none ↔
      pickLatestSemverTagWith sort tags = none := by
    rw [pickLatestSemverTagWith_eq_none_iff hSort, pickLatestSemverTagWith_eq_none_iff hSort]
    exact forall_congr' fun tag => by rw [hPerm.mem_iff]
  cases hTags : pickLatestSemverTagWith sort tags with
  | none => rw [hNone.mpr hTags]
  | some latest =>
    cases hOthers : pickLatestSemverTagWith sort others with
    | none =>
      rw [hNone.mp hOthers] at hTags
      cases hTags
    | some other =>
      have hMem := mem_of_pickLatest hSort hTags
      have hOther := (filterSemverTags_perm hPerm).mem_iff.mp (mem_of_pickLatest hSort hOthers)
      exact congrArg some (le_antisymm
        (h tags (List.Perm.refl _) latest hTags other hOther)
        (h others hPerm other hOthers latest hMem))

theorem exists_perm_first {tag : GitHubTag} (h : tag ∈ filterSemverTags tags) :
    ∃ others rest, others.Perm tags ∧ filterSemverTags others = tag :: rest := by
  obtain ⟨hMem, hSemver⟩ := List.mem_filter.mp h
  exact ⟨tag :: tags.erase tag, filterSemverTags (tags.erase tag),
    (List.perm_cons_erase hMem).symm, List.filter_cons_of_pos hSemver⟩

theorem le_of_first (h : LatestIsMaximum sort tags) {first : GitHubTag}
    (hPerm : others.Perm tags) (hFirst : pickLatestSemverTagWith sort others = some first) :
    ∀ tag ∈ filterSemverTags tags, tagVersion tag ≤ tagVersion first := by
  intro tag hTag
  have hOrder := h.anyOrder others hPerm
  rw [hFirst, Option.map_some] at hOrder
  obtain ⟨latest, hLatest, hVersion⟩ := Option.map_eq_some_iff.mp hOrder.symm
  rw [← hVersion]
  exact not_lt.mp ((h.maximal latest hLatest).2 tag hTag)

/-- An engine that leaves inconsistent lists alone moves no tag beside one that does not parse. -/
theorem lazySort_of_capital {l : List GitHubTag} {capital : GitHubTag} (hMem : capital ∈ l)
    (h : capital.name.head? = some 'V') : lazySort tagOrder l = l := by
  unfold lazySort
  split
  · rename_i hConsistent
    refine stableSort_of_eq fun a hA b hB => ?_
    exact hConsistent.trans a hA capital hMem b hB .eq (tagOrder_of_capital (Or.inr h))
      (tagOrder_of_capital (Or.inl h))
  · rfl

end

theorem pickLatestSemverTag_eq (tags : List GitHubTag) :
    pickLatestSemverTag tags = pickLatestSemverTagWith stableSort tags := by
  have hTest (a b : GitHubTag) :
      (compareSemverOrder b.name a.name != some .gt) = (tagOrder a b != .gt) := by
    unfold tagOrder
    cases compareSemverOrder b.name a.name with
    | none => rfl
    | some order => cases order <;> rfl
  simp only [pickLatestSemverTag, sortSemverTagsDesc, pickLatestSemverTagWith, stableSort, hTest]

theorem latest_is_maximum_iff (tags : List GitHubTag) :
    (∀ sort, SortsArrays sort → LatestIsMaximum sort tags) ↔ OneVersion tags ∨ Comparable tags := by
  constructor
  · intro hLaw
    by_cases hCapital : ∃ tag ∈ filterSemverTags tags, tag.name.head? = some 'V'
    · obtain ⟨capital, hCapitalMem, hCapital⟩ := hCapital
      left
      -- an engine may leave a list with such a tag as it is, so any tag may come out first
      have hGreatest (first : GitHubTag) (hFirst : first ∈ filterSemverTags tags) :
          ∀ tag ∈ filterSemverTags tags, tagVersion tag ≤ tagVersion first := by
        obtain ⟨others, rest, hPerm, hOthers⟩ := exists_perm_first hFirst
        refine le_of_first (hLaw lazySort lazySort_sorts) hPerm ?_
        have hMem := (filterSemverTags_perm hPerm).mem_iff.mpr hCapitalMem
        rw [pickLatestSemverTagWith, lazySort_of_capital hMem hCapital, hOthers]
        rfl
      exact fun a hA b hB => le_antisymm (hGreatest b hB a hA) (hGreatest a hA b hB)
    · right
      push Not at hCapital
      refine ⟨hCapital, fun latest hLatest hRounded => ?_⟩
      obtain ⟨others, rest, hPerm, hOthers⟩ := exists_perm_first hLatest
      refine le_of_first (hLaw stableSort stableSort_sorts) hPerm ?_
      have hMem (tag : GitHubTag) (hTag : tag ∈ latest :: rest) : tag ∈ filterSemverTags tags :=
        (filterSemverTags_perm hPerm).mem_iff.mp (hOthers ▸ hTag)
      have hDescends : Descends (fun tag => roundedVersion (tagVersion tag)) tagOrder
          (latest :: rest) := fun a hA b hB =>
        descends_of_noCapital hCapital a (hMem a hA) b (hMem b hB)
      rw [pickLatestSemverTagWith, hOthers]
      exact hDescends.head_of_first fun tag hTag =>
        hRounded tag (hMem tag (List.mem_cons_of_mem _ hTag))
  · rintro (hOne | hComparable) sort hSort
    · refine latestIsMaximum_of hSort fun others hPerm latest hLatest tag hTag => ?_
      have hMem := (filterSemverTags_perm hPerm).mem_iff.mp (mem_of_pickLatest hSort hLatest)
      exact (hOne tag hTag latest hMem).le
    · refine latestIsMaximum_of hSort fun others hPerm latest hLatest tag hTag => ?_
      have hFilter := filterSemverTags_perm hPerm
      have hMem := hFilter.mem_iff.mp (mem_of_pickLatest hSort hLatest)
      have hCapital (tag : GitHubTag) (hTag : tag ∈ filterSemverTags others) :
          tag.name.head? ≠ some 'V' := hComparable.noCapital tag (hFilter.mem_iff.mp hTag)
      have hDescends := descends_of_noCapital hCapital
      rw [pickLatestSemverTagWith, hSort.stable _ _ hDescends.consistent] at hLatest
      refine hComparable.rounded latest hMem (fun other hOther => ?_) tag hTag
      exact hDescends.key_le_head hLatest (hFilter.mem_iff.mpr hOther)

/-- A newer release whose tag is written with a capital letter. -/
def capitalTags : List GitHubTag :=
  ["1.0.0", "V2.0.0"].map fun name =>
    { name := name.toList
      sha := []
      publishedAt := none
      zipUrl := []
      tarUrl := []
      downloadUrl := [] }

theorem capitalTags_older_picked :
    (pickLatestSemverTag capitalTags).map (·.name) = some "1.0.0".toList ∧
      ¬ LatestIsMaximum stableSort capitalTags := by
  have hPick : pickLatestSemverTagWith stableSort capitalTags = capitalTags.head? := by
    have hFilter : filterSemverTags capitalTags = capitalTags := by decide
    have hSort : stableSort tagOrder capitalTags = capitalTags := by
      refine List.mergeSort_of_pairwise (List.pairwise_pair.mpr ?_)
      rw [tagOrder_of_capital (Or.inr rfl)]
      rfl
    rw [pickLatestSemverTagWith, hFilter, hSort]
  refine ⟨by rw [pickLatestSemverTag_eq, hPick]; rfl, fun hLaw => ?_⟩
  have hNot := (hLaw.maximal _ hPick).2 (capitalTags.get ⟨1, by decide⟩) (by decide)
  revert hNot
  decide

end EsosWebui.Esos
