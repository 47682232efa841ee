import EsosWebui.Ldap.Rendering

/-! When a login keeps the shape of the search: the filter that is sent is the template with the
values in it, where only clauses of values that the login does not have are missing. -/
namespace EsosWebui.Ldap

open Js

def PlaceholderKey.IsOptional : PlaceholderKey → Prop
  | userPrincipalName | domainPrefix => True
  | _ => False

def PlaceholderKey.IsAccount (key : PlaceholderKey) : Prop := ¬ key.IsOptional

/-- A clause of nothing but optional values, which the login does not have. -/
def Item.IsAbsent (values : PlaceholderKey → Text) (i : Item) : Prop :=
  ∃ v, i.values = [v] ∧ pieces v ≠ [] ∧
    ∀ piece ∈ pieces v, ∃ key : PlaceholderKey, piece = .slot key ∧ key.IsOptional ∧ values key = []

/-- A clause that constrains the account name. -/
def Item.HasAccount (i : Item) : Prop :=
  ∃ v ∈ i.values, ∃ key : PlaceholderKey, .slot key ∈ pieces v ∧ key.IsAccount

/-- The text is the template with its values, without the clauses that `p` says. -/
structure Renders (values : PlaceholderKey → Text) (template : Clauses) (p : Item → Bool)
    (text : Text) : Prop where
  absent : ∀ i ∈ template.items, p i = true → i.IsAbsent values
  filter : ((template.without p).mapItems (Item.fill values)).IsFilter
  text : text = ((template.without p).mapItems (Item.fill values)).text
  account : ∀ i ∈ template.items, i.HasAccount →
    i ∈ (template.without p).items ∧ ∃ v ∈ (i.fill values).values, v ≠ []

/-- The shape of the search is that of the template, and no text of the login is expanded. -/
def KeepsShape (values : PlaceholderKey → Text) (template : Clauses) (text : Text) : Prop :=
  (∃ p, Renders values template p text) ∧ ExpandsTemplateOnly values template.text

namespace Clauses

/-- How many of the clauses are not left out. -/
def kept (p : Item → Bool) : Clauses → Nat
  | nil => 0
  | item i rest => rest.kept p + if p i then 0 else 1
  | group _ _ rest => rest.kept p + 1

def GroupsKeep (p : Item → Bool) : Clauses → Prop
  | nil => True
  | item _ rest => rest.GroupsKeep p
  | group _ inner rest => 0 < inner.kept p ∧ inner.GroupsKeep p ∧ rest.GroupsKeep p

end Clauses

def Item.isEmptied (values : PlaceholderKey → Text) (i : Item) : Bool :=
  (i.fill values).isEmptyClause

structure LoginFits (raw : Text) (values : PlaceholderKey → Text) (template : Clauses) : Prop where
  forms : FormsNoPlaceholder values template.text
  emptied : ∀ i ∈ template.items, i.isEmptied values = true → i.IsAbsent values
  keeps : 0 < template.kept (Item.isEmptied values)
  groups : template.GroupsKeep (Item.isEmptied values)
  account : trim raw ≠ [] ∨
    ∀ i ∈ template.items, i.HasAccount → ∃ v ∈ i.values, ∃ c, .char c ∈ pieces v

namespace Clauses

variable {p q : Item → Bool} (f : Clauses)

theorem length_without : (f.without p).length = f.kept p := by
  induction f with
  | nil => rfl
  | item i rest ih =>
    show (if p i then rest.without p else item i (rest.without p)).length =
      rest.kept p + if p i then 0 else 1
    cases p i with
    | true => exact ih
    | false => exact congrArg (· + 1) ih
  | group op inner rest _ ih => exact congrArg (· + 1) ih

theorem kept_le_length : f.kept p ≤ f.length := by
  induction f with
  | nil => exact le_refl _
  | item i rest ih =>
    show rest.kept p + (if p i then 0 else 1) ≤ rest.length + 1
    split <;> omega
  | group op inner rest _ ih => exact Nat.succ_le_succ ih

theorem Connective.takes_iff {op : Connective} {m n : Nat} (h : op.Takes n) (hLe : m ≤ n) :
    op.Takes m ↔ 0 < m := by
  cases op with
  | and => exact Iff.rfl
  | or => exact Iff.rfl
  | not =>
    have hOne : n = 1 := h
    show m = 1 ↔ 0 < m
    omega

theorem grouped_without_iff (h : f.Grouped) : (f.without p).Grouped ↔ f.GroupsKeep p := by
  induction f with
  | nil => exact Iff.rfl
  | item i rest ih =>
    show (if p i then rest.without p else item i (rest.without p)).Grouped ↔ rest.GroupsKeep p
    split
    · exact ih h
    · exact ih h
  | group op inner rest ihInner ih =>
    show op.Takes (inner.without p).length ∧ (inner.without p).Grouped ∧
      (rest.without p).Grouped ↔ 0 < inner.kept p ∧ inner.GroupsKeep p ∧ rest.GroupsKeep p
    rw [length_without, ihInner h.2.1, ih h.2.2,
      Connective.takes_iff h.1 inner.kept_le_length]

theorem kept_mono (h : ∀ i ∈ f.items, q i = true → p i = true) : f.kept p ≤ f.kept q := by
  induction f with
  | nil => exact le_refl _
  | item i rest ih =>
    have hRest := ih fun j hj => h j (List.mem_cons_of_mem i hj)
    have hFirst := h i List.mem_cons_self
    show rest.kept p + (if p i then 0 else 1) ≤ rest.kept q + if q i then 0 else 1
    cases hq : q i with
    | true =>
      rw [hFirst hq]
      simpa using hRest
    | false =>
      rw [if_neg Bool.false_ne_true]
      split <;> omega
  | group op inner rest _ ih =>
    exact Nat.succ_le_succ (ih fun j hj => h j (List.mem_append_right _ hj))

theorem groupsKeep_mono (h : ∀ i ∈ f.items, q i = true → p i = true) (hKeep : f.GroupsKeep p) :
    f.GroupsKeep q := by
  induction f with
  | nil => trivial
  | item i rest ih => exact ih (fun j hj => h j (List.mem_cons_of_mem i hj)) hKeep
  | group op inner rest ihInner ih =>
    have hInner : ∀ i ∈ inner.items, q i = true → p i = true :=
      fun j hj => h j (List.mem_append_left _ hj)
    exact ⟨hKeep.1.trans_le (inner.kept_mono hInner), ihInner hInner hKeep.2.1,
      ih (fun j hj => h j (List.mem_append_right _ hj)) hKeep.2.2⟩

theorem mem_items_without {i : Item} :
    i ∈ (f.without p).items ↔ i ∈ f.items ∧ p i = false := by
  rw [items_without, List.mem_filter, Bool.not_eq_true']

end Clauses

section

variable {values : PlaceholderKey → Text} {template : Clauses}

theorem Clauses.eq_nil_of_length {f : Clauses} (h : f.length = 0) : f = .nil := by
  cases f with
  | nil => rfl
  | item i rest => cases h
  | group op inner rest => cases h

theorem Clauses.trim_text {f : Clauses} (h : f.length = 1) : trim f.text = f.text := by
  have hEnds : ∀ body : Text, trim ('(' :: (body ++ [')'])) = '(' :: (body ++ [')']) := by
    intro body
    refine trim_eq_self (fun c hc => ?_) fun c hc => ?_
    · obtain rfl : '(' = c := Option.some.inj hc
      decide
    · have hLast : ('(' :: (body ++ [')'])).getLast? = some ')' := by
        rw [← List.cons_append]
        exact List.getLast?_concat
      obtain rfl : ')' = c := Option.some.inj (hLast.symm.trans hc)
      decide
  cases f with
  | nil => cases h
  | item i rest =>
    obtain rfl := eq_nil_of_length (Nat.succ_injective h)
    have hText : (Clauses.item i .nil).text =
        '(' :: ((i.attr ++ (i.comparison.text ++ i.valueText)) ++ [')']) := by
      simp [text, Item.text]
    rw [hText, hEnds]
  | group op inner rest =>
    obtain rfl := eq_nil_of_length (Nat.succ_injective h)
    exact hEnds (op.char :: inner.text)

theorem render_eq (hFilter : template.IsFilter)
    (hPlaceholder : ∃ key, placeholder key <:+: template.text) (usernameAttribute : Text)
    (identity : NormalizedLdapLogin) (normalizeLegacy : Option Bool) :
    renderLdapUserFilter template.text usernameAttribute identity normalizeLegacy =
      pruneEmptyLdapFilterClauses (substitute (escaped identity (normalizeLegacy != some false))
        placeholderKeys template.text) := by
  obtain ⟨key, hKey⟩ := hPlaceholder
  have hAny : (placeholderKeys.any fun key => contains template.text (placeholder key)) = true := by
    refine List.any_eq_true.mpr ⟨key, ?_, contains_iff.mpr hKey⟩
    cases key <;> decide
  unfold renderLdapUserFilter
  rw [Clauses.trim_text hFilter.single]
  exact if_pos hAny

theorem prune_substitute (hFilter : template.IsFilter)
    (hValues : ∀ key, isValue (values key) = true)
    (hForms : FormsNoPlaceholder values template.text) :
    pruneEmptyLdapFilterClauses (substitute values placeholderKeys template.text) =
      ((template.without (Item.isEmptied values)).mapItems (Item.fill values)).text := by
  have hFill : fill values (template.text ++ []) = _ := template.fill_text hFilter.items []
  have hOk : ∀ i ∈ (template.mapItems (Item.fill values)).items, i.Ok := by
    intro i hi
    rw [Clauses.items_mapItems] at hi
    obtain ⟨j, hj, rfl⟩ := List.mem_map.mp hi
    exact Item.ok_fill hValues (hFilter.items j hj)
  have hPrune := Clauses.prune_text _ hOk []
  rw [List.append_nil, show fill values [] = [] from rfl, List.append_nil] at hFill
  rw [List.append_nil, show pruneEmptyLdapFilterClauses [] = [] from rfl, List.append_nil,
    Clauses.without_mapItems] at hPrune
  rw [substitute_all hForms, hFill, hPrune]
  rfl

theorem Clauses.not_empty_of_prune {f : Clauses} (h : ∀ i ∈ f.items, i.Ok)
    (hSame : pruneEmptyLdapFilterClauses f.text = f.text) :
    ∀ i ∈ f.items, i.isEmptyClause = false := by
  intro i hi
  have hPrune := f.prune_text h []
  rw [List.append_nil, show pruneEmptyLdapFilterClauses [] = [] from rfl, List.append_nil,
    hSame] at hPrune
  cases hEmpty : i.isEmptyClause with
  | false => rfl
  | true =>
    have hLt := f.length_text_without_lt hi hEmpty
    rw [← hPrune] at hLt
    exact absurd hLt (lt_irrefl _)

theorem Item.not_hasAccount_of_isAbsent {i : Item} (h : i.IsAbsent values) : ¬ i.HasAccount := by
  rintro ⟨v, hv, key, hSlot, hAccount⟩
  obtain ⟨w, hValues, -, hAbsent⟩ := h
  rw [hValues, List.mem_singleton] at hv
  subst hv
  obtain ⟨other, hSame, hOptional, -⟩ := hAbsent _ hSlot
  exact hAccount (Piece.slot.inj hSame ▸ hOptional)

/-- The clause is not left empty. -/
def Item.HasText (values : PlaceholderKey → Text) (i : Item) : Prop :=
  ∃ v ∈ (i.fill values).values, v ≠ []

theorem render_shape_iff (hFilter : template.IsFilter)
    (hValues : ∀ key, isValue (values key) = true) :
    KeepsShape values template
        (pruneEmptyLdapFilterClauses (substitute values placeholderKeys template.text)) ↔
      FormsNoPlaceholder values template.text ∧
        (∀ i ∈ template.items, i.isEmptied values = true → i.IsAbsent values) ∧
        0 < template.kept (Item.isEmptied values) ∧ template.GroupsKeep (Item.isEmptied values) ∧
        ∀ i ∈ template.items, i.HasAccount → i.HasText values := by
  unfold KeepsShape
  rw [expandsTemplateOnly_iff]
  have hOk : ∀ p : Item → Bool,
      ∀ i ∈ ((template.without p).mapItems (Item.fill values)).items, i.Ok := by
    intro p i hi
    rw [Clauses.items_mapItems] at hi
    obtain ⟨j, hj, rfl⟩ := List.mem_map.mp hi
    exact Item.ok_fill hValues (hFilter.items j (template.mem_items_without.mp hj).1)
  constructor
  · rintro ⟨⟨p, hRenders⟩, hForms⟩
    have hText := hRenders.text
    rw [prune_substitute hFilter hValues hForms] at hText
    -- the code leaves no empty clause, so none is left in the filter that it is equal to
    have hNone := Clauses.not_empty_of_prune (hOk p) <| by
      rw [← hText]
      have hAgain := Clauses.prune_text _ (hOk (Item.isEmptied values)) []
      rw [List.append_nil, show pruneEmptyLdapFilterClauses [] = [] from rfl,
        List.append_nil] at hAgain
      rw [hAgain, Clauses.without_eq_self]
      intro i hi
      rw [Clauses.items_mapItems] at hi
      obtain ⟨j, hj, rfl⟩ := List.mem_map.mp hi
      exact (template.mem_items_without.mp hj).2
    have hDropped : ∀ i ∈ template.items, i.isEmptied values = true → p i = true := by
      intro i hi hEmptied
      cases hp : p i with
      | true => rfl
      | false =>
        have hMem : i.fill values ∈ ((template.without p).mapItems (Item.fill values)).items := by
          rw [Clauses.items_mapItems]
          exact List.mem_map_of_mem (template.mem_items_without.mpr ⟨hi, hp⟩)
        exact absurd hEmptied (by rw [Item.isEmptied, hNone _ hMem]; exact Bool.false_ne_true)
    have hSingle := hRenders.filter.single
    rw [Clauses.length_mapItems, Clauses.length_without] at hSingle
    have hGrouped := (template.grouped_without_iff hFilter.grouped).mp
      ((Clauses.grouped_mapItems _).mp hRenders.filter.grouped)
    refine ⟨hForms, fun i hi hEmptied => hRenders.absent i hi (hDropped i hi hEmptied), ?_,
      template.groupsKeep_mono hDropped hGrouped, fun i hi hAccount =>
        (hRenders.account i hi hAccount).2⟩
    have hMono := template.kept_mono hDropped
    omega
  · rintro ⟨hForms, hAbsent, hKept, hGroups, hAccount⟩
    refine ⟨⟨Item.isEmptied values, ?_⟩, hForms⟩
    refine ⟨hAbsent, ⟨?_, ?_, hOk _⟩, prune_substitute hFilter hValues hForms, ?_⟩
    · rw [Clauses.length_mapItems, Clauses.length_without]
      have hLe := template.kept_le_length (p := Item.isEmptied values)
      have hSingle := hFilter.single
      omega
    · exact (Clauses.grouped_mapItems _).mpr
        ((template.grouped_without_iff hFilter.grouped).mpr hGroups)
    · intro i hi hHas
      refine ⟨template.mem_items_without.mpr ⟨hi, ?_⟩, hAccount i hi hHas⟩
      cases hEmptied : i.isEmptied values with
      | false => rfl
      | true => exact absurd hHas (Item.not_hasAccount_of_isAbsent (hAbsent i hi hEmptied))

end

section

variable {raw : Text} {defaultUpnSuffix : Option Text} {normalizeLegacy : Bool}

theorem orElse_ne_nil {value other : Text} (h : other ≠ []) : orElse value other ≠ [] := by
  unfold orElse
  split
  · exact h
  · rename_i hSome
    exact fun hNil => hSome (List.isEmpty_iff.mpr hNil)

theorem normalize_blank (h : trim raw = []) :
    normalizeLdapLoginIdentifier raw defaultUpnSuffix = ⟨[], [], none, none⟩ :=
  if_pos (List.isEmpty_iff.mpr h)

variable (defaultUpnSuffix) in
theorem normalize_names (h : trim raw ≠ []) :
    (normalizeLdapLoginIdentifier raw defaultUpnSuffix).rawUsername ≠ [] ∧
      (normalizeLdapLoginIdentifier raw defaultUpnSuffix).accountName ≠ [] := by
  unfold normalizeLdapLoginIdentifier
  dsimp only
  rw [if_neg fun hEmpty => h (List.isEmpty_iff.mp hEmpty)]
  split
  · exact ⟨h, orElse_ne_nil h⟩
  · split
    · exact ⟨h, orElse_ne_nil h⟩
    · exact ⟨h, h⟩

abbrev loginValues (raw : Text) (defaultUpnSuffix : Option Text) (normalizeLegacy : Bool) :
    PlaceholderKey → Text :=
  escaped (normalizeLdapLoginIdentifier raw defaultUpnSuffix) normalizeLegacy

theorem loginValues_blank (h : trim raw = []) (key : PlaceholderKey) :
    loginValues raw defaultUpnSuffix normalizeLegacy key = [] := by
  rw [loginValues, normalize_blank h]
  cases key <;> cases normalizeLegacy <;> rfl

theorem loginValues_account (h : trim raw ≠ []) {key : PlaceholderKey} (hKey : key.IsAccount) :
    loginValues raw defaultUpnSuffix normalizeLegacy key ≠ [] := by
  obtain ⟨hRaw, hAccount⟩ := normalize_names defaultUpnSuffix h
  cases key with
  | username =>
    refine fun hNil => absurd (escape_eq_nil_iff.mp hNil) ?_
    split
    · exact hAccount
    · exact hRaw
  | accountName => exact fun hNil => hAccount (escape_eq_nil_iff.mp hNil)
  | userPrincipalName => exact absurd trivial hKey
  | domainPrefix => exact absurd trivial hKey

theorem fill_ne_nil_iff {values : PlaceholderKey → Text} {v : Text} :
    fill values v ≠ [] ↔ ∃ piece ∈ pieces v, piece.text values ≠ [] := by
  rw [fill, Ne, List.flatMap_eq_nil_iff]
  push Not
  rfl

theorem Item.hasText_iff {values : PlaceholderKey → Text} {i : Item} :
    i.HasText values ↔ ∃ v ∈ i.values, ∃ piece ∈ pieces v, piece.text values ≠ [] := by
  constructor
  · rintro ⟨w, hw, hNe⟩
    obtain ⟨v, hv, rfl⟩ := List.mem_map.mp hw
    exact ⟨v, hv, fill_ne_nil_iff.mp hNe⟩
  · rintro ⟨v, hv, hPiece⟩
    exact ⟨Ldap.fill values v, List.mem_map_of_mem hv, fill_ne_nil_iff.mpr hPiece⟩

theorem account_iff {template : Clauses} :
    (∀ i ∈ template.items, i.HasAccount →
        i.HasText (loginValues raw defaultUpnSuffix normalizeLegacy)) ↔
      trim raw ≠ [] ∨
        ∀ i ∈ template.items, i.HasAccount → ∃ v ∈ i.values, ∃ c, .char c ∈ pieces v := by
  constructor
  · intro h
    by_cases hBlank : trim raw = []
    · refine Or.inr fun i hi hAccount => ?_
      obtain ⟨v, hv, piece, hPiece, hText⟩ := Item.hasText_iff.mp (h i hi hAccount)
      cases piece with
      | char c => exact ⟨v, hv, c, hPiece⟩
      | slot key => exact absurd (loginValues_blank hBlank key) hText
    · exact Or.inl hBlank
  · rintro (hNamed | hText) i hi hAccount
    · obtain ⟨v, hv, key, hSlot, hKey⟩ := hAccount
      exact Item.hasText_iff.mpr ⟨v, hv, .slot key, hSlot, loginValues_account hNamed hKey⟩
    · obtain ⟨v, hv, c, hPiece⟩ := hText i hi hAccount
      exact Item.hasText_iff.mpr ⟨v, hv, .char c, hPiece, List.cons_ne_nil _ _⟩

end

/-- The filter of a login has the shape of the template exactly when no value forms a placeholder,
only absent clauses are emptied, every connective keeps a clause, and the login is not blank. -/
theorem login_keeps_shape_iff (template : Clauses) (hFilter : template.IsFilter)
    (hPlaceholder : ∃ key, placeholder key <:+: template.text) (raw usernameAttribute : Text)
    (defaultUpnSuffix : Option Text) (normalizeLegacy : Option Bool) :
    KeepsShape (loginValues raw defaultUpnSuffix (normalizeLegacy != some false)) template
        (renderLdapUserFilter template.text usernameAttribute
          (normalizeLdapLoginIdentifier raw defaultUpnSuffix) normalizeLegacy) ↔
      LoginFits raw (loginValues raw defaultUpnSuffix (normalizeLegacy != some false))
        template := by
  rw [render_eq hFilter hPlaceholder, render_shape_iff hFilter (isValue_escaped _ _), account_iff]
  constructor
  · rintro ⟨hForms, hEmptied, hKept, hGroups, hAccount⟩
    exact ⟨hForms, hEmptied, hKept, hGroups, hAccount⟩
  · rintro ⟨hForms, hEmptied, hKept, hGroups, hAccount⟩
    exact ⟨hForms, hEmptied, hKept, hGroups, hAccount⟩

/-- `(cn={{username}})` -/
private def byName : Clauses := .item ⟨['c', 'n'], .equal, [placeholder .username]⟩ .nil

private theorem isFilter_byName : byName.IsFilter where
  single := rfl
  grouped := trivial
  items := by
    intro i hi
    rw [List.mem_singleton.mp hi]
    exact ⟨Or.inr (by decide), List.cons_ne_nil _ _, Nat.zero_lt_one, by decide⟩

/-- A login name keeps the shape. -/
theorem login_keeps_shape_alice :
    KeepsShape (loginValues ['a'] none true) byName
      (renderLdapUserFilter byName.text [] (normalizeLdapLoginIdentifier ['a'] none) none) := by
  refine (login_keeps_shape_iff byName isFilter_byName ⟨.username, by decide⟩ ['a'] [] none
    none).mpr ⟨?_, ?_, by decide, trivial, Or.inl (by decide)⟩
  · intro before key after hSplit
    have hBefore : before ∈ placeholderKeys.inits :=
      (List.mem_inits _ _).mpr ⟨key :: after, hSplit.symm⟩
    have hAll : ∀ before ∈ placeholderKeys.inits, ∀ key ∈ placeholderKeys, key ∉ before →
        occurrences (placeholder key) (fill (partly (loginValues ['a'] none true) before)
          byName.text) = (pieces byName.text).count (.slot key) := by decide
    refine hAll before hBefore key ?_ (key_not_mem hSplit)
    rw [hSplit]
    exact List.mem_append_right before List.mem_cons_self
  · intro i hi hEmptied
    rw [List.mem_singleton.mp hi] at hEmptied
    exact absurd hEmptied (by decide)

/-- A login name that reads like a placeholder removes the only clause. -/
theorem placeholder_login_expanded : ¬ ∀ (template : Clauses) (raw : Text), template.IsFilter →
    (∃ key, placeholder key <:+: template.text) → isSafeLdapLoginUsername raw = true →
    KeepsShape (loginValues raw none true) template
      (renderLdapUserFilter template.text [] (normalizeLdapLoginIdentifier raw none) none) := by
  intro h
  obtain ⟨⟨p, hRenders⟩, -⟩ := h byName (placeholder .userPrincipalName) isFilter_byName
    ⟨.username, by decide⟩ (by decide)
  have hNone : renderLdapUserFilter byName.text []
      (normalizeLdapLoginIdentifier (placeholder .userPrincipalName) none) none = [] := by decide
  have hText := hRenders.text
  have hSingle := hRenders.filter.single
  rw [hNone] at hText
  cases hLeft : (byName.without p).mapItems
      (Item.fill (loginValues (placeholder .userPrincipalName) none true)) with
  | nil =>
    rw [hLeft] at hSingle
    cases hSingle
  | item i rest =>
    rw [hLeft] at hText
    cases hText
  | group op inner rest =>
    rw [hLeft] at hText
    cases hText

end EsosWebui.Ldap
