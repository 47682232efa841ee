import EsosWebui.Js.Scan
import EsosWebui.Ldap.Filter

/-! The filter that a login is searched with: a template whose placeholders stand for the login
name and its parts. -/
namespace EsosWebui.Ldap

open Js

structure NormalizedLdapLogin where
  rawUsername : Text
  accountName : Text
  userPrincipalName : Option Text
  domainPrefix : Option Text

/-- `value || other` -/
def orElse (value other : Text) : Text := if value.isEmpty then other else value

/-- `value || null` -/
def orNull (value : Text) : Option Text := if value.isEmpty then none else some value

/-- A name with a backslash has a domain before it, one with `@` after it; another one belongs to
the default domain, if there is one. -/
def normalizeLdapLoginIdentifier (raw : Text) (defaultUpnSuffix : Option Text) :
    NormalizedLdapLogin :=
  let rawUsername := trim raw
  if rawUsername.isEmpty then ⟨[], [], none, none⟩
  else if rawUsername.contains '\\' then
    { rawUsername
      accountName := orElse (trim (rawUsername.dropWhile (· != '\\')).tail) rawUsername
      userPrincipalName := none
      domainPrefix := orNull (trim (rawUsername.takeWhile (· != '\\'))) }
  else
    let atIndex := rawUsername.findIdx (· == '@')
    if 0 < atIndex ∧ atIndex + 1 < rawUsername.length then
      { rawUsername
        accountName := orElse (trim (rawUsername.take atIndex)) rawUsername
        userPrincipalName := some rawUsername
        domainPrefix := none }
    else
      { rawUsername
        accountName := rawUsername
        userPrincipalName :=
          (defaultUpnSuffix.bind fun suffix => orNull (trim suffix)).map fun suffix =>
            rawUsername ++ '@' :: suffix
        domainPrefix := none }

/-- Whether `assertSafeLdapLoginUsername` throws nothing. -/
def isSafeLdapLoginUsername (username : Text) : Bool :=
  decide (1 ≤ utf16Length username ∧ utf16Length username ≤ 256) &&
    username.all fun c => c != '*' && c != '(' && c != ')' && c != '\x00'

/-- `text.replace(/c/g, value)` -/
def replaceChar (c : Char) (value text : Text) : Text :=
  text.flatMap fun d => if d = c then value else [d]

def escapeLdapFilterValue (input : Text) : Text :=
  replaceChar '\x00' ['\\', '0', '0'] (replaceChar ')' ['\\', '2', '9']
    (replaceChar '(' ['\\', '2', '8'] (replaceChar '*' ['\\', '2', 'a']
      (replaceChar '\\' ['\\', '5', 'c'] input))))

inductive PlaceholderKey where
  | username
  | accountName
  | userPrincipalName
  | domainPrefix
  deriving DecidableEq

/-- `FILTER_PLACEHOLDER_KEYS` -/
def placeholderKeys : List PlaceholderKey :=
  [.username, .accountName, .userPrincipalName, .domainPrefix]

def PlaceholderKey.name : PlaceholderKey → Text
  | username => "username".toList
  | accountName => "accountName".toList
  | userPrincipalName => "userPrincipalName".toList
  | domainPrefix => "domainPrefix".toList

def placeholder (key : PlaceholderKey) : Text := '{' :: '{' :: (key.name ++ ['}', '}'])

def escaped (identity : NormalizedLdapLogin) (normalizeLegacy : Bool) : PlaceholderKey → Text
  | .username =>
    escapeLdapFilterValue (if normalizeLegacy then identity.accountName else identity.rawUsername)
  | .accountName => escapeLdapFilterValue identity.accountName
  | .userPrincipalName => identity.userPrincipalName.elim [] escapeLdapFilterValue
  | .domainPrefix => identity.domainPrefix.elim [] escapeLdapFilterValue

/-- `[\w.-]` -/
def isClauseNameChar (c : Char) : Bool := c.isAlphanum || c == '_' || c == '.' || c == '-'

/-- `/\([A-Za-z][\w.-]*=\)/` at the start of a text. -/
def findEmptyClause : Text → Option (Nat × Text)
  | '(' :: c :: rest =>
    if c.isAlpha then
      match rest.dropWhile isClauseNameChar with
      | '=' :: ')' :: _ => some ((rest.takeWhile isClauseNameChar).length + 3, [])
      | _ => none
    else none
  | _ => none

def pruneEmptyLdapFilterClauses (filter : Text) : Text :=
  (scan findEmptyClause (fun c => [c]) filter).flatten

def substitute (values : PlaceholderKey → Text) (keys : List PlaceholderKey) (template : Text) :
    Text :=
  keys.foldl (fun out key => replaceAll (placeholder key) (values key) out) template

def renderLdapUserFilter (filterTemplate usernameAttribute : Text) (identity : NormalizedLdapLogin)
    (normalizeLegacyUsernamePlaceholder : Option Bool) : Text :=
  let normalizeLegacy := normalizeLegacyUsernamePlaceholder != some false
  let template := trim filterTemplate
  let hasPlaceholder := placeholderKeys.any fun key => contains template (placeholder key)
  let values := escaped identity normalizeLegacy
  if hasPlaceholder then pruneEmptyLdapFilterClauses (substitute values placeholderKeys template)
  else
    let attr := orElse (trim usernameAttribute) "sAMAccountName".toList
    '(' :: '&' :: (template ++ ('(' :: (attr ++ ('=' :: (values .accountName ++ [')', ')'])))))

inductive Piece where
  | char (c : Char)
  | slot (key : PlaceholderKey)
  deriving DecidableEq

def Piece.text (values : PlaceholderKey → Text) : Piece → Text
  | char c => [c]
  | slot key => values key

def findPlaceholder (s : Text) : Option (Nat × Piece) :=
  (placeholderKeys.find? fun key => (placeholder key).isPrefixOf s).map fun key =>
    ((placeholder key).length - 1, .slot key)

def pieces (template : Text) : List Piece := scan findPlaceholder .char template

def fill (values : PlaceholderKey → Text) (template : Text) : Text :=
  (pieces template).flatMap (Piece.text values)

theorem placeholder_ne_nil (key : PlaceholderKey) : placeholder key ≠ [] := List.cons_ne_nil _ _

theorem unbordered_placeholder (key : PlaceholderKey) : Unbordered (placeholder key) := by
  cases key <;> decide

theorem findPlaceholder_eq_some {s : Text} {n : Nat} {piece : Piece}
    (h : findPlaceholder s = some (n, piece)) :
    ∃ key rest, s = placeholder key ++ rest ∧ n = (placeholder key).length - 1 ∧
      piece = .slot key := by
  obtain ⟨key, hFound, hPair⟩ := Option.map_eq_some_iff.mp h
  have hPrefix := List.find?_some (p := fun key => (placeholder key).isPrefixOf s) hFound
  obtain ⟨rest, rfl⟩ := List.isPrefixOf_iff_prefix.mp hPrefix
  obtain ⟨rfl, rfl⟩ := Prod.mk.inj hPair
  exact ⟨key, rest, rfl, rfl, rfl⟩

theorem findPlaceholder_cons {c : Char} (h : c ≠ '{') (s : Text) :
    findPlaceholder (c :: s) = none := by
  cases hFound : findPlaceholder (c :: s) with
  | none => rfl
  | some found =>
    obtain ⟨key, rest, hText, -⟩ := findPlaceholder_eq_some hFound
    exact absurd (List.cons.inj hText).1 h

theorem pieces_cons {c : Char} {s : Text} (h : findPlaceholder (c :: s) = none) :
    pieces (c :: s) = .char c :: pieces s := scan_cons h

theorem pieces_placeholder {key : PlaceholderKey} {rest : Text}
    (h : findPlaceholder (placeholder key ++ rest) =
      some ((placeholder key).length - 1, .slot key)) :
    pieces (placeholder key ++ rest) = .slot key :: pieces rest :=
  scan_found (placeholder_ne_nil key) h

theorem pieces_induction {P : Text → Prop} (nil : P [])
    (char : ∀ c s, findPlaceholder (c :: s) = none → P s → P (c :: s))
    (slot : ∀ key rest, pieces (placeholder key ++ rest) = .slot key :: pieces rest → P rest →
      P (placeholder key ++ rest)) (s : Text) : P s := by
  induction hLength : s.length using Nat.strong_induction_on generalizing s with
  | _ n ih =>
    subst hLength
    cases s with
    | nil => exact nil
    | cons c s =>
      cases hFound : findPlaceholder (c :: s) with
      | none => exact char c s hFound (ih s.length (Nat.lt_succ_self _) s rfl)
      | some found =>
        obtain ⟨n, piece⟩ := found
        obtain ⟨key, rest, hText, rfl, rfl⟩ := findPlaceholder_eq_some hFound
        have hShorter : rest.length < (c :: s).length := by
          rw [hText, List.length_append]
          have hPos := List.length_pos_iff.mpr (placeholder_ne_nil key)
          omega
        rw [hText] at hFound ⊢
        exact slot key rest (pieces_placeholder hFound) (ih _ hShorter rest rfl)

theorem fill_placeholder (s : Text) : fill placeholder s = s := by
  induction s using pieces_induction with
  | nil => rfl
  | char c s hNone ih =>
    rw [fill, pieces_cons hNone, List.flatMap_cons]
    exact congrArg (c :: ·) ih
  | slot key rest hPieces ih =>
    rw [fill, hPieces, List.flatMap_cons]
    exact congrArg (placeholder key ++ ·) ih

section

variable {values : PlaceholderKey → Text}

theorem fill_append {s : Text} (h : '{' ∉ s) (rest : Text) :
    fill values (s ++ rest) = s ++ fill values rest := by
  unfold fill pieces
  rw [scan_append fun c t hSuffix => findPlaceholder_cons (fun hSame => h ?_) _]
  · rw [List.flatMap_append, List.flatMap_map]
    congr 1
    induction s with
    | nil => rfl
    | cons c s ih => exact congrArg (c :: ·) (ih fun hMem => h (List.mem_cons_of_mem c hMem))
  · exact hSuffix.subset (hSame ▸ List.mem_cons_self)

theorem pieces_append_cons {d : Char} (hd : ∀ key, d ∉ placeholder key) (s rest : Text) :
    pieces (s ++ d :: rest) = pieces s ++ .char d :: pieces rest := by
  have hBrace : d ≠ '{' := fun hSame => hd .username (hSame ▸ List.mem_cons_self)
  refine scanFrom_append_cons (Nat.zero_le _) (findPlaceholder_cons hBrace rest) ?_ ?_
  · intro t _ _
    have hPrefix : ∀ key : PlaceholderKey,
        (placeholder key).isPrefixOf (t ++ d :: rest) = (placeholder key).isPrefixOf t := by
      intro key
      rw [Bool.eq_iff_iff, List.isPrefixOf_iff_prefix, List.isPrefixOf_iff_prefix]
      refine ⟨prefix_of_prefix_append_cons (hd key), fun h => h.trans (List.prefix_append _ _)⟩
    unfold findPlaceholder
    simp only [hPrefix]
  · intro t n piece _ hFound
    obtain ⟨key, tail, rfl, rfl, -⟩ := findPlaceholder_eq_some hFound
    rw [List.length_append]
    have hPos := List.length_pos_iff.mpr (placeholder_ne_nil key)
    omega

theorem fill_append_cons {d : Char} (hd : ∀ key, d ∉ placeholder key) (s rest : Text) :
    fill values (s ++ d :: rest) = fill values s ++ d :: fill values rest := by
  unfold fill
  rw [pieces_append_cons hd, List.flatMap_append, List.flatMap_cons]
  rfl

end

variable (values : PlaceholderKey → Text) (template : Text)

def partly (keys : List PlaceholderKey) (key : PlaceholderKey) : Text :=
  if key ∈ keys then values key else placeholder key

/-- When it is its turn, every placeholder is found only where the template has it. -/
def ExpandsTemplateOnly : Prop :=
  ∀ before key after, placeholderKeys = before ++ key :: after →
    occurrences (placeholder key) (substitute values before template) =
      (pieces template).count (.slot key)

/-- The values of the placeholders before it form no other placeholder in the template, neither
alone nor with the text beside them. -/
def FormsNoPlaceholder : Prop :=
  ∀ before key after, placeholderKeys = before ++ key :: after →
    occurrences (placeholder key) (fill (partly values before) template) =
      (pieces template).count (.slot key)

variable {values template} {keys : List PlaceholderKey} {key : PlaceholderKey}

theorem substitute_snoc : substitute values (keys ++ [key]) template =
    replaceAll (placeholder key) (values key) (substitute values keys template) :=
  List.foldl_append

private def holes (values : PlaceholderKey → Text) (keys : List PlaceholderKey)
    (key : PlaceholderKey) (template : Text) : List (Option Text) :=
  (pieces template).map fun piece =>
    if piece = .slot key then none else some (piece.text (partly values keys))

private theorem fillHoles_holes (value : Text) (other : PlaceholderKey → Text)
    (hKey : other key = value) (hOther : ∀ k, k ≠ key → other k = partly values keys k) :
    fillHoles value (holes values keys key template) = fill other template := by
  unfold fillHoles holes fill
  rw [List.flatMap_map]
  refine List.flatMap_congr fun piece _ => ?_
  cases piece with
  | char c => rfl
  | slot k =>
    by_cases hSame : k = key
    · rw [hSame, if_pos rfl]
      exact hKey.symm
    · rw [if_neg (fun h => hSame (Piece.slot.inj h))]
      exact (hOther k hSame).symm

theorem substitute_step (hNew : key ∉ keys)
    (hDone : substitute values keys template = fill (partly values keys) template)
    (hOnly : occurrences (placeholder key) (fill (partly values keys) template) =
      (pieces template).count (.slot key)) :
    substitute values (keys ++ [key]) template = fill (partly values (keys ++ [key])) template := by
  have hBefore : fillHoles (placeholder key) (holes values keys key template) =
      fill (partly values keys) template :=
    fillHoles_holes _ _ (if_neg hNew) fun k _ => rfl
  have hAfter : fillHoles (values key) (holes values keys key template) =
      fill (partly values (keys ++ [key])) template := by
    refine fillHoles_holes _ _ (if_pos (by simp)) fun k hk => ?_
    simp [partly, hk]
  have hCount : (holes values keys key template).count none =
      (pieces template).count (.slot key) := by
    unfold holes
    rw [List.count_eq_countP, List.count_eq_countP, List.countP_map]
    refine List.countP_congr fun piece _ => ?_
    by_cases hSame : piece = .slot key <;> simp [hSame]
  rw [substitute_snoc, hDone, ← hBefore, replaceAll_fillHoles (unbordered_placeholder key), hAfter]
  rw [hBefore, hOnly, hCount]

theorem key_not_mem {before after : List PlaceholderKey}
    (hSplit : placeholderKeys = before ++ key :: after) : key ∉ before := by
  have hNodup : placeholderKeys.Nodup := by decide
  rw [hSplit] at hNodup
  exact fun hMem => (List.nodup_append.mp hNodup).2.2 key hMem key List.mem_cons_self rfl

theorem substitute_eq_fill
    (h : ∀ before key after, placeholderKeys = before ++ key :: after →
      substitute values before template = fill (partly values before) template →
        occurrences (placeholder key) (fill (partly values before) template) =
          (pieces template).count (.slot key))
    (after : List PlaceholderKey) (hKeys : placeholderKeys = keys ++ after) :
    substitute values keys template = fill (partly values keys) template := by
  induction keys using List.reverseRecOn generalizing after with
  | nil => exact (fill_placeholder template).symm
  | append_singleton keys key ih =>
    have hSplit : placeholderKeys = keys ++ key :: after := by
      rw [hKeys, List.append_assoc]
      rfl
    have hDone := ih (key :: after) hSplit
    exact substitute_step (key_not_mem hSplit) hDone (h keys key after hSplit hDone)

theorem expandsTemplateOnly_iff :
    ExpandsTemplateOnly values template ↔ FormsNoPlaceholder values template := by
  constructor
  · intro h before key after hSplit
    rw [← substitute_eq_fill (fun b k a hs hDone => hDone ▸ h b k a hs) (key :: after) hSplit]
    exact h before key after hSplit
  · intro h before key after hSplit
    rw [substitute_eq_fill (fun b k a hs _ => h b k a hs) (key :: after) hSplit]
    exact h before key after hSplit

theorem substitute_all (h : FormsNoPlaceholder values template) :
    substitute values placeholderKeys template = fill values template := by
  rw [substitute_eq_fill (fun b k a hs _ => h b k a hs) [] (List.append_nil _).symm]
  have hAll : partly values placeholderKeys = values := by
    funext key
    cases key <;> rfl
  rw [hAll]

end EsosWebui.Ldap
