import EsosWebui.Js.Number

/-! The latest stable release as GitHub answers it: from its releases, else from its tags. Every
failure is a value. -/
namespace EsosWebui.Esos

open Js

def digitsValue (base : Nat) (digits : Text) : Nat :=
  digits.foldl (fun n c => n * base +
    (if c.isDigit then c.toNat - 48 else c.toLower.toNat - 87)) 0

def isRadixDigit (base : Nat) (c : Char) : Bool :=
  (c.isDigit && decide (c.toNat - 48 < base)) ||
    (c.isAlpha && decide (c.toLower.toNat - 87 < base))

/-- `m · 10 ^ e`; from some exponent on the only finite value is zero. -/
def scaled (m e : Nat) : Number :=
  if m = 0 then .int 0 else if 400 < e then .infinity else Number.ofNat (m * 10 ^ e)

/-- `Number(part)` of a text without `.` and `-`, unless it is not a number. -/
def partValue (part : Text) : Option Number :=
  let s := trim part
  let unsigned := if s.head? = some '+' then s.tail else s
  if s.isEmpty then some (.int 0)
  else if unsigned = "Infinity".toList then some .infinity
  else
    let digits := unsigned.takeWhile Char.isDigit
    match unsigned.dropWhile Char.isDigit with
    | [] => if digits.isEmpty then none else some (Number.parseInt digits)
    | mark :: rest =>
      let exponent := if rest.head? = some '+' then rest.tail else rest
      let radix (base : Nat) : Option Number :=
        if s.head? = some '0' && digits = ['0'] && !rest.isEmpty &&
            rest.all (isRadixDigit base) then
          some (Number.ofNat (digitsValue base rest))
        else none
      if mark.toLower = 'e' then
        if !digits.isEmpty && isDigits exponent then
          some (scaled (digitsValue 10 digits) (digitsValue 10 exponent))
        else none
      else if mark.toLower = 'x' then radix 16
      else if mark.toLower = 'o' then radix 8
      else if mark.toLower = 'b' then radix 2
      else none

/-- The characters that `cleanVersion` removes in front. -/
def isVersionPrefix (c : Char) : Bool :=
  c == '^' || c == '~' || c == '>' || c == '=' || c == 'v' || isSpace c

def cleanVersion (v : Text) : Text := (trim (v.dropWhile isVersionPrefix)).takeWhile (· != '-')

def parseSemver (v : Text) : Option (Number × Number × Number) :=
  match ((cleanVersion v).splitOn '.').mapM partValue with
  | some (major :: minor :: patch :: _) => some (major, minor, patch)
  | _ => none

/-- `a - b < 0`, of numbers that are not negative. -/
def numberLt : Number → Number → Bool
  | .int a, .int b => decide (a < b)
  | .int _, .infinity => true
  | _, _ => false

/-- The order of two versions, when both are versions. -/
def compareSemverOrder (a b : Text) : Option Ordering :=
  match parseSemver a, parseSemver b with
  | some (a₁, a₂, a₃), some (b₁, b₂, b₃) =>
    let order (x y : Number) : Ordering :=
      if numberLt x y then .lt else if numberLt y x then .gt else .eq
    some (((order a₁ b₁).then (order a₂ b₂)).then (order a₃ b₃))
  | _, _ => none

structure GitHubTag where
  name : Text
  sha : Text
  publishedAt : Option Text
  zipUrl : Text
  tarUrl : Text
  downloadUrl : Text
  deriving DecidableEq

def cleanTagName (name : Text) : Text :=
  trim (if (name.head?.map Char.toLower) = some 'v' then name.tail else name)

def isSemverTagName (name : Text) : Bool :=
  match (cleanTagName name).splitOn '.' with
  | [major, minor, patch] => isDigits major && isDigits minor && isDigits patch
  | _ => false

/-- `Number.parseInt(text, 10)`, printed. -/
def parseIntText (text : Text) : Text :=
  let s := trimStart text
  let unsigned := if s.head? = some '+' || s.head? = some '-' then s.tail else s
  let digits := unsigned.takeWhile Char.isDigit
  if digits.isEmpty then "NaN".toList
  else
    let value := Number.parseInt digits
    if s.head? = some '-' && value != .int 0 then '-' :: value.toText else value.toText

def buildDownloadUrl (tag : Text) : Text :=
  "https://download.esos-project.com/".toList ++ parseIntText (tag.takeWhile (· != '.')) ++
    ".x.x/esos-".toList ++ tag ++ ".zip".toList

def tagFromReleaseName (tagName : Text) : Option GitHubTag :=
  let name := cleanTagName tagName
  if (parseSemver name).isNone then none
  else some
    { name, sha := [], publishedAt := none, zipUrl := [], tarUrl := []
      downloadUrl := buildDownloadUrl name }

/-- An entry of the tags that GitHub lists. -/
structure RawTag where
  name : Text
  sha : Text
  zipballUrl : Text
  tarballUrl : Text

def liteTagFromRaw (raw : RawTag) : GitHubTag :=
  let name := cleanTagName raw.name
  { name
    sha := raw.sha.take 7
    publishedAt := none
    zipUrl := raw.zipballUrl
    tarUrl := raw.tarballUrl
    downloadUrl := buildDownloadUrl name }

def filterSemverTags (tags : List GitHubTag) : List GitHubTag :=
  tags.filter fun t => isSemverTagName t.name

def sortSemverTagsDesc (tags : List GitHubTag) : List GitHubTag :=
  tags.mergeSort fun a b => compareSemverOrder b.name a.name != some .gt

def pickLatestSemverTag (tags : List GitHubTag) : Option GitHubTag :=
  (sortSemverTagsDesc (filterSemverTags tags)).head?

inductive GitHubReleaseErrorCode where
  | rateLimit
  | network
  | httpError
  | noSemverTags

def GitHubReleaseErrorCode.toText : GitHubReleaseErrorCode → Text
  | rateLimit => "rate_limit".toList
  | network => "network".toList
  | httpError => "http_error".toList
  | noSemverTags => "no_semver_tags".toList

/-- The result of a resolution, without where it comes from. -/
structure GitHubReleaseResolveResult where
  ok : Bool
  latest : Option GitHubTag
  error : Option GitHubReleaseErrorCode := none
  httpStatus : Option Nat := none
  message : Option String := none

inductive GitHubAnswer (α : Type) where
  | thrown (message : String)
  | response (status : Nat) (body : Except String α)

def isOkStatus (status : Nat) : Bool := 200 ≤ status && status < 300

def networkError (message : String) : GitHubReleaseResolveResult :=
  { ok := false, latest := none, error := some .network, message := some message }

/-- `classifyFetchError`, for an answer that is not ok. -/
def classifyStatus (status : Nat) : GitHubReleaseResolveResult :=
  if status = 403 then
    { ok := false, latest := none, error := some .rateLimit, httpStatus := some 403
      message := some "GitHub API rate limit" }
  else
    { ok := false, latest := none, error := some .httpError, httpStatus := some status
      message := some s!"GitHub HTTP {status}" }

def fetchLatestFromReleasesApi (answer : GitHubAnswer (Option Text)) : GitHubReleaseResolveResult :=
  match answer with
  | .thrown message => networkError message
  | .response status body =>
    if !isOkStatus status then
      if status = 404 then
        { ok := false, latest := none, error := some .httpError, httpStatus := some 404
          message := some "No releases" }
      else classifyStatus status
    else
      match body with
      | .error message => networkError message
      | .ok none | .ok (some []) =>
        { ok := false, latest := none, error := some .httpError
          message := some "Missing tag_name" }
      | .ok (some tagName) =>
        match tagFromReleaseName tagName with
        | none =>
          let printed := String.ofList tagName
          { ok := false, latest := none, error := some .noSemverTags
            message := some s!"Non-semver release tag: {printed}" }
        | some latest => { ok := true, latest := some latest }

def fetchLatestFromTagsApi (answer : GitHubAnswer (List RawTag)) : GitHubReleaseResolveResult :=
  match answer with
  | .thrown message => networkError message
  | .response status body =>
    if !isOkStatus status then
      if status = 403 then classifyStatus 403
      else networkError s!"GitHub tags HTTP {status}"
    else
      match body with
      | .error message => networkError message
      | .ok raw =>
        let tags := sortSemverTagsDesc (filterSemverTags (raw.map liteTagFromRaw))
        match pickLatestSemverTag tags with
        | none =>
          { ok := false, latest := none, error := some .noSemverTags
            message := some "No semver tags found" }
        | some latest => { ok := true, latest := some latest }

/-- What GitHub answers to the two requests of a refresh; the second one is made when the first
gives no release. -/
structure GitHubAnswers where
  releases : GitHubAnswer (Option Text)
  tags : GitHubAnswer (List RawTag)

def loadLatestLive (answers : GitHubAnswers) : GitHubReleaseResolveResult :=
  let fromRelease := fetchLatestFromReleasesApi answers.releases
  let fromTags := fetchLatestFromTagsApi answers.tags
  if fromRelease.ok && fromRelease.latest.isSome then fromRelease
  else if fromTags.ok && fromTags.latest.isSome then fromTags
  else if fromTags.ok then fromTags
  else if fromRelease.error.isSome then fromRelease
  else fromTags

def namesRelease : GitHubAnswer (Option Text) → Bool
  | .response status (.ok (some tagName)) =>
    isOkStatus status && !tagName.isEmpty && (parseSemver (cleanTagName tagName)).isSome
  | _ => false

def listsVersion : GitHubAnswer (List RawTag) → Bool
  | .response status (.ok raw) =>
    isOkStatus status && raw.any fun t => isSemverTagName (cleanTagName t.name)
  | _ => false

def GitHubAnswers.giveRelease (answers : GitHubAnswers) : Bool :=
  namesRelease answers.releases || listsVersion answers.tags

theorem classifyStatus_failed (status : Nat) :
    (classifyStatus status).ok = false ∧ (classifyStatus status).latest.isSome = false := by
  unfold classifyStatus
  split <;> exact ⟨rfl, rfl⟩

theorem tagFromReleaseName_isSome (tagName : Text) :
    (tagFromReleaseName tagName).isSome = (parseSemver (cleanTagName tagName)).isSome := by
  simp only [tagFromReleaseName]
  cases parseSemver (cleanTagName tagName) <;> rfl

theorem ok_fetchLatestFromReleasesApi (answer : GitHubAnswer (Option Text)) :
    (fetchLatestFromReleasesApi answer).ok = namesRelease answer ∧
      (fetchLatestFromReleasesApi answer).latest.isSome = namesRelease answer := by
  cases answer with
  | thrown message => exact ⟨rfl, rfl⟩
  | response status body =>
    cases hStatus : isOkStatus status with
    | false =>
      have hNames : namesRelease (.response status body) = false := by
        cases body with
        | error message => rfl
        | ok tagName => cases tagName <;> simp [namesRelease, hStatus]
      rw [hNames]
      simp only [fetchLatestFromReleasesApi, hStatus, Bool.not_false, if_true]
      split
      · exact ⟨rfl, rfl⟩
      · exact classifyStatus_failed status
    | true =>
      cases body with
      | error message => simp [fetchLatestFromReleasesApi, namesRelease, hStatus, networkError]
      | ok tagName =>
        rcases tagName with _ | _ | ⟨c, s⟩
        · simp [fetchLatestFromReleasesApi, namesRelease, hStatus]
        · simp [fetchLatestFromReleasesApi, namesRelease, hStatus]
        · have hSome := tagFromReleaseName_isSome (c :: s)
          cases hTag : tagFromReleaseName (c :: s) <;> rw [hTag] at hSome <;>
            simp [fetchLatestFromReleasesApi, namesRelease, hStatus, hTag, ← hSome]

theorem mem_sortSemverTagsDesc {tags : List GitHubTag} {t : GitHubTag} :
    t ∈ sortSemverTagsDesc tags ↔ t ∈ tags :=
  (List.mergeSort_perm tags _).mem_iff

theorem pickLatestSemverTag_eq_none_iff {tags : List GitHubTag} :
    pickLatestSemverTag tags = none ↔ ∀ t ∈ tags, isSemverTagName t.name = false := by
  rw [pickLatestSemverTag, List.head?_eq_none_iff, List.eq_nil_iff_forall_not_mem]
  simp [mem_sortSemverTagsDesc, filterSemverTags]

theorem ok_fetchLatestFromTagsApi (answer : GitHubAnswer (List RawTag)) :
    (fetchLatestFromTagsApi answer).ok = listsVersion answer ∧
      (fetchLatestFromTagsApi answer).latest.isSome = listsVersion answer := by
  cases answer with
  | thrown message => exact ⟨rfl, rfl⟩
  | response status body =>
    cases hStatus : isOkStatus status with
    | false =>
      have hLists : listsVersion (.response status body) = false := by
        cases body <;> simp [listsVersion, hStatus]
      rw [hLists]
      simp only [fetchLatestFromTagsApi, hStatus, Bool.not_false, if_true]
      split
      · exact classifyStatus_failed 403
      · exact ⟨rfl, rfl⟩
    | true =>
      cases body with
      | error message => simp [fetchLatestFromTagsApi, listsVersion, hStatus, networkError]
      | ok raw =>
        have hNone : pickLatestSemverTag
              (sortSemverTagsDesc (filterSemverTags (raw.map liteTagFromRaw))) = none ↔
            ∀ t ∈ raw, isSemverTagName (cleanTagName t.name) = false := by
          rw [pickLatestSemverTag_eq_none_iff]
          simp only [mem_sortSemverTagsDesc, filterSemverTags, List.mem_filter, and_imp,
            List.forall_mem_map, liteTagFromRaw]
          exact forall₂_congr fun t _ => by simp
        cases hPick : pickLatestSemverTag
            (sortSemverTagsDesc (filterSemverTags (raw.map liteTagFromRaw))) with
        | none =>
          have hAll := hNone.mp hPick
          simp [fetchLatestFromTagsApi, listsVersion, hStatus, hPick]
          simpa using hAll
        | some latest =>
          have hAny : raw.any (fun t => isSemverTagName (cleanTagName t.name)) = true := by
            by_contra hNot
            rw [hNone.mpr (by simpa using hNot)] at hPick
            cases hPick
          simp [fetchLatestFromTagsApi, listsVersion, hStatus, hPick, hAny]

theorem ok_loadLatestLive (answers : GitHubAnswers) :
    (loadLatestLive answers).ok = answers.giveRelease ∧
      (loadLatestLive answers).latest.isSome = answers.giveRelease := by
  obtain ⟨hRelease, hLatest⟩ := ok_fetchLatestFromReleasesApi answers.releases
  obtain ⟨hTags, hLatestTag⟩ := ok_fetchLatestFromTagsApi answers.tags
  simp only [loadLatestLive, GitHubAnswers.giveRelease, hRelease, hLatest, hTags, hLatestTag,
    Bool.and_self]
  cases hNames : namesRelease answers.releases with
  | true => simp [hRelease, hLatest, hNames]
  | false =>
    cases hLists : listsVersion answers.tags with
    | true => simp [hTags, hLatestTag, hLists]
    | false =>
      simp only [Bool.false_eq_true, if_false, Bool.or_self]
      split
      · exact ⟨hRelease.trans hNames, hLatest.trans hNames⟩
      · exact ⟨hTags.trans hLists, hLatestTag.trans hLists⟩

end EsosWebui.Esos
