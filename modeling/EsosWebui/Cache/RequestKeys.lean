import EsosWebui.Js.Arrays
import EsosWebui.Js.JsonText
import EsosWebui.Js.Throw
import Mathlib.Algebra.BigOperators.Group.List.Basic

/-! The keys that requests are shared by: `JSON.stringify` is given the sorted keys of a query, and
prints no other ones of the objects in it. -/
namespace EsosWebui.Cache

open Js

inductive WellFormed : Json → Prop
  | null : WellFormed .null
  | bool (value : Bool) : WellFormed (.bool value)
  | number {numeral : Text} (h : Json.IsNumeral numeral) : WellFormed (.number numeral)
  | string (value : Text) : WellFormed (.string value)
  | array {items : List Json} (h : ∀ v ∈ items, WellFormed v) : WellFormed (.array items)
  | object {fields : List (Text × Json)} (hKeys : (fields.map (·.1)).Nodup)
      (h : ∀ field ∈ fields, WellFormed field.2) : WellFormed (.object fields)

/-- Equal values up to the order of keys. -/
inductive SameJson : Json → Json → Prop
  | scalar {v : Json} (h : v.IsScalar) : SameJson v v
  | array {items others : List Json} (h : List.Forall₂ SameJson items others) :
      SameJson (.array items) (.array others)
  | object {fields middle others : List (Text × Json)}
      (hKeys : fields.map (·.1) = middle.map (·.1))
      (hValues : List.Forall₂ SameJson (fields.map (·.2)) (middle.map (·.2)))
      (hOrder : middle.Perm others) : SameJson (.object fields) (.object others)

def objects : Json → Nat :=
  Json.fold
    { scalar := fun _ => 0
      array := List.sum
      object := fun fields => 1 + (fields.map (·.2)).sum }

/-- A query, as a call of `$fetch` is given one. -/
structure Query where
  fields : List (Text × Json)
  wellFormed : WellFormed (.object fields)

def Query.value (query : Query) : Json := .object query.fields

def Query.Flat (query : Query) : Prop := ∀ field ∈ query.fields, objects field.2 = 0

/-- What `JSON.stringify` prints of a value with a list of keys: of each object the listed ones, in
the order of the list. -/
def restricted (keys : List Text) : Json → Json :=
  Json.fold
    { scalar := id
      array := .array
      object := fun fields =>
        .object (keys.filterMap fun key => (fields.lookup key).map (Prod.mk key)) }

section

variable (localeCompare : Text → Text → Ordering)

/-- `Object.keys(query).sort(compareByLocale)` -/
def Query.sortedKeys (query : Query) : List Text :=
  (query.fields.map (·.1)).mergeSort fun a b => (localeCompare a b).isLE

/-- `JSON.stringify(query, Object.keys(query).sort(compareByLocale))`, or nothing without query. -/
def queryText : Option Query → Text
  | some query => (restricted (query.sortedKeys localeCompare) query.value).print
  | none => []

def singleFlightKey (url : Text) (query : Option Query) : Text :=
  url ++ '?' :: queryText localeCompare query

/-- No other request has the key of this one. -/
def KeyIsOwn (url : Text) (query : Option Query) : Prop :=
  ∀ url' query', singleFlightKey localeCompare url query =
      singleFlightKey localeCompare url' query' →
    url = url' ∧ Option.Rel (fun a b => SameJson a.value b.value) query query'

end

variable (keys : List Text) (items : List Json)

@[simp] theorem restricted_array :
    restricted keys (.array items) = .array (items.map (restricted keys)) := Json.fold_array _ _

def selected (keys : List Text) (fields : List (Text × Json)) : List (Text × Json) :=
  keys.filterMap fun key => (fields.lookup key).map (Prod.mk key)

def restrictedField (keys : List Text) (field : Text × Json) : Text × Json :=
  (field.1, restricted keys field.2)

variable (fields : List (Text × Json))

@[simp] theorem restricted_object :
    restricted keys (.object fields) =
      .object (selected keys (fields.map (restrictedField keys))) := Json.fold_object _ _

theorem restricted_scalar {v : Json} (h : v.IsScalar) :
    restricted keys v = v := Json.fold_scalar _ h

@[simp] theorem objects_array :
    objects (.array items) = (items.map objects).sum := Json.fold_array _ _

@[simp] theorem objects_object :
    objects (.object fields) = 1 + (fields.map fun field => objects field.2).sum := by
  rw [objects, Json.fold_object]
  dsimp only
  rw [List.map_map]
  rfl

theorem objects_scalar {v : Json} (h : v.IsScalar) : objects v = 0 := Json.fold_scalar _ h

theorem restricted_of_objects_eq_zero (v : Json) : objects v = 0 → restricted keys v = v := by
  refine @Json.forall_of_parts (fun v => objects v = 0 → restricted keys v = v) ?_ ?_ ?_ v
  · exact fun v hScalar _ => restricted_scalar keys hScalar
  · intro items ih h
    rw [objects_array, List.sum_eq_zero_iff_forall_eq_nat] at h
    rw [restricted_array]
    have hItems : items.map (restricted keys) = items.map id :=
      List.map_congr_left fun v hv => ih v hv (h _ (List.mem_map_of_mem hv))
    rw [hItems, List.map_id]
  · intro fields _ h
    rw [objects_object] at h
    omega

theorem objects_of_restricted (v : Json) : objects (restricted keys v) = 0 → objects v = 0 := by
  refine @Json.forall_of_parts (fun v => objects (restricted keys v) = 0 → objects v = 0)
    ?_ ?_ ?_ v
  · exact fun v hScalar _ => objects_scalar hScalar
  · intro items ih h
    rw [restricted_array, objects_array, List.sum_eq_zero_iff_forall_eq_nat, List.map_map] at h
    rw [objects_array, List.sum_eq_zero_iff_forall_eq_nat]
    refine List.forall_mem_map.mpr fun v hv => ih v hv ?_
    exact h _ (List.mem_map_of_mem hv)
  · intro fields _ h
    rw [restricted_object, objects_object] at h
    omega

theorem mem_selected {keys : List Text} {fields : List (Text × Json)} {field : Text × Json}
    (h : field ∈ selected keys fields) : field ∈ fields := by
  obtain ⟨key, -, hKey⟩ := List.mem_filterMap.mp h
  obtain ⟨value, hValue, rfl⟩ := Option.map_eq_some_iff.mp hKey
  exact mem_of_lookup hValue

theorem numerals_restricted {v : Json} (h : v.Numerals) : (restricted keys v).Numerals := by
  induction h with
  | null => exact .null
  | bool value => exact .bool value
  | number h => exact .number h
  | string value => exact .string value
  | array h ih =>
    rw [restricted_array]
    exact .array (List.forall_mem_map.mpr ih)
  | object h ih =>
    rw [restricted_object]
    refine .object fun field hField => ?_
    obtain ⟨printed, hPrinted, rfl⟩ := List.mem_map.mp (mem_selected hField)
    exact ih printed hPrinted

theorem selected_perm {keys : List Text} {fields : List (Text × Json)}
    (hNodup : (fields.map (·.1)).Nodup) (hKeys : keys.Perm (fields.map (·.1))) :
    (selected keys fields).Perm fields := by
  have hAll : selected (fields.map (·.1)) fields = fields := by
    unfold selected
    rw [List.filterMap_map]
    have hSome : ∀ field ∈ fields,
        ((fun key => (fields.lookup key).map (Prod.mk key)) ∘ (·.1)) field = some field := by
      intro field hField
      rw [Function.comp_apply, lookup_of_mem hNodup hField]
      rfl
    rw [List.filterMap_congr hSome, List.filterMap_some]
  have hOrder : (selected keys fields).Perm (selected (fields.map (·.1)) fields) :=
    hKeys.filterMap _
  rwa [hAll] at hOrder

theorem SameJson.refl (v : Json) : SameJson v v := by
  refine @Json.forall_of_parts (fun v => SameJson v v) ?_ ?_ ?_ v
  · exact fun v hScalar => .scalar hScalar
  · exact fun items ih => .array (List.forall₂_same.mpr ih)
  · exact fun fields ih =>
      .object rfl (List.forall₂_same.mpr (List.forall_mem_map.mpr ih)) (List.Perm.refl _)

theorem WellFormed.numerals {v : Json} (h : WellFormed v) : v.Numerals := by
  induction h with
  | null => exact .null
  | bool value => exact .bool value
  | number h => exact .number h
  | string value => exact .string value
  | array _ ih => exact .array ih
  | object _ _ ih => exact .object ih

namespace Query

variable {localeCompare : Text → Text → Ordering} (query : Query)

theorem nodup_keys : (query.fields.map (·.1)).Nodup := by
  obtain ⟨fields, h⟩ := query
  cases h with
  | object hKeys _ => exact hKeys

variable (localeCompare) in
def printed : List (Text × Json) :=
  selected (query.sortedKeys localeCompare)
    (query.fields.map (restrictedField (query.sortedKeys localeCompare)))

theorem printed_perm : (query.printed localeCompare).Perm
    (query.fields.map (restrictedField (query.sortedKeys localeCompare))) := by
  have hKeys : (query.fields.map (restrictedField (query.sortedKeys localeCompare))).map (·.1) =
      query.fields.map (·.1) := by
    rw [List.map_map]
    rfl
  refine selected_perm ?_ ?_
  · rw [hKeys]
    exact query.nodup_keys
  · rw [hKeys]
    exact List.mergeSort_perm _ _

theorem restricted_value : restricted (query.sortedKeys localeCompare) query.value =
    .object (query.printed localeCompare) := restricted_object _ _

theorem numerals_printed : (Json.object (query.printed localeCompare)).Numerals := by
  rw [← restricted_value]
  exact numerals_restricted _ query.wellFormed.numerals

theorem quoted_queryText (query : Option Query) : Json.Quoted (queryText localeCompare query) := by
  cases query with
  | none => exact Json.quoted_nil
  | some query =>
    rw [queryText, restricted_value]
    exact Json.quoted_print query.numerals_printed

theorem queryText_some_ne_nil : queryText localeCompare (some query) ≠ [] := by
  rw [queryText, restricted_value]
  obtain ⟨c, rest, hPrint, -⟩ :=
    Json.exists_print_eq_cons (@numerals_printed localeCompare query)
  rw [hPrint]
  exact List.cons_ne_nil _ _

/-- Two requests have the same key if they are for one address and print the same fields. -/
theorem singleFlightKey_eq_iff {url url' : Text} {query query' : Option Query} :
    singleFlightKey localeCompare url query = singleFlightKey localeCompare url' query' ↔
      url = url' ∧ query.map (printed localeCompare) = query'.map (printed localeCompare) := by
  constructor
  · intro h
    obtain ⟨hUrl, hText⟩ := Json.question_inj (quoted_queryText _) (quoted_queryText _) h
    refine ⟨hUrl, ?_⟩
    cases query with
    | none =>
      cases query' with
      | none => rfl
      | some query' => exact absurd hText.symm query'.queryText_some_ne_nil
    | some query =>
      cases query' with
      | none => exact absurd hText query.queryText_some_ne_nil
      | some query' =>
        rw [queryText, queryText, restricted_value, restricted_value] at hText
        have hObject :=
          Json.print_injective query.numerals_printed query'.numerals_printed hText
        exact congrArg some (Json.object.inj hObject)
  · rintro ⟨rfl, hSame⟩
    cases query with
    | none =>
      cases query' with
      | none => rfl
      | some query' => cases hSame
    | some query =>
      cases query' with
      | none => cases hSame
      | some query' =>
        have hPrinted := Option.some.inj hSame
        rw [singleFlightKey, singleFlightKey, queryText, queryText, restricted_value,
          restricted_value, hPrinted]

theorem printed_of_flat {query : Query} (h : query.Flat) :
    (query.printed localeCompare).Perm query.fields := by
  have hFields : query.fields.map (restrictedField (query.sortedKeys localeCompare)) =
      query.fields.map id := by
    refine List.map_congr_left fun field hField => ?_
    rw [restrictedField, restricted_of_objects_eq_zero _ _ (h field hField)]
    rfl
  have hPerm := @printed_perm localeCompare query
  rwa [hFields, List.map_id] at hPerm

theorem flat_of_printed {query query' : Query} (h : query.Flat)
    (hSame : query.printed localeCompare = query'.printed localeCompare) : query'.Flat := by
  intro field hField
  have hPrinted : restrictedField (query'.sortedKeys localeCompare) field ∈
      query'.printed localeCompare :=
    query'.printed_perm.mem_iff.mpr (List.mem_map_of_mem hField)
  rw [← hSame, (printed_of_flat h).mem_iff] at hPrinted
  exact objects_of_restricted _ _ (h _ hPrinted)

theorem sameJson_of_perm {fields others : List (Text × Json)} (h : fields.Perm others) :
    SameJson (.object fields) (.object others) :=
  .object rfl (List.forall₂_same.mpr fun v _ => SameJson.refl v) h

theorem sameJson_of_printed {query query' : Query} (h : query.Flat)
    (hSame : query.printed localeCompare = query'.printed localeCompare) :
    SameJson query.value query'.value := by
  have hFlat := flat_of_printed h hSame
  exact sameJson_of_perm ((printed_of_flat h).symm.trans (hSame ▸ printed_of_flat hFlat))

end Query

/-- Every object gets one more field. -/
def marked (fresh : Text) : Json → Json :=
  Json.fold
    { scalar := id
      array := .array
      object := fun fields => .object ((fresh, .null) :: fields) }

def markedField (fresh : Text) (field : Text × Json) : Text × Json :=
  (field.1, marked fresh field.2)

def allKeys : Json → List Text :=
  Json.fold
    { scalar := fun _ => []
      array := List.flatten
      object := fun fields => fields.map (·.1) ++ (fields.map (·.2)).flatten }

/-- The number of fields of all objects in a value. -/
def fieldCount : Json → Nat :=
  Json.fold
    { scalar := fun _ => 0
      array := List.sum
      object := fun fields => fields.length + (fields.map (·.2)).sum }

section

variable (fresh : Text)

@[simp] theorem marked_array :
    marked fresh (.array items) = .array (items.map (marked fresh)) := Json.fold_array _ _

@[simp] theorem marked_object :
    marked fresh (.object fields) =
      .object ((fresh, .null) :: fields.map (markedField fresh)) := Json.fold_object _ _

theorem marked_scalar {v : Json} (h : v.IsScalar) : marked fresh v = v := Json.fold_scalar _ h

@[simp] theorem allKeys_array :
    allKeys (.array items) = (items.map allKeys).flatten := Json.fold_array _ _

@[simp] theorem allKeys_object :
    allKeys (.object fields) =
      fields.map (·.1) ++ (fields.map fun field => allKeys field.2).flatten := by
  rw [allKeys, Json.fold_object]
  dsimp only
  rw [List.map_map, List.map_map]
  rfl

@[simp] theorem fieldCount_array :
    fieldCount (.array items) = (items.map fieldCount).sum := Json.fold_array _ _

@[simp] theorem fieldCount_object :
    fieldCount (.object fields) =
      fields.length + (fields.map fun field => fieldCount field.2).sum := by
  rw [fieldCount, Json.fold_object]
  dsimp only
  rw [List.map_map, List.length_map]
  rfl

theorem restricted_marked {keys : List Text} (hFresh : fresh ∉ keys) (v : Json) :
    restricted keys (marked fresh v) = restricted keys v := by
  refine @Json.forall_of_parts (fun v => restricted keys (marked fresh v) = restricted keys v)
    ?_ ?_ ?_ v
  · intro v hScalar
    rw [marked_scalar fresh hScalar]
  · intro items ih
    rw [marked_array, restricted_array, restricted_array, List.map_map]
    exact congrArg Json.array (List.map_congr_left ih)
  · intro fields ih
    have hFields : (fields.map (markedField fresh)).map (restrictedField keys) =
        fields.map (restrictedField keys) := by
      rw [List.map_map]
      refine List.map_congr_left fun field hField => ?_
      exact congrArg (Prod.mk field.1) (ih field hField)
    rw [marked_object, restricted_object, restricted_object, List.map_cons, hFields]
    refine congrArg Json.object (List.filterMap_congr fun key hKey => ?_)
    have hOther : (key == fresh) = false := beq_eq_false_iff_ne.mpr fun h => hFresh (h ▸ hKey)
    rw [restrictedField, List.lookup_cons, hOther]

theorem fieldCount_marked (v : Json) : fieldCount (marked fresh v) = fieldCount v + objects v := by
  refine @Json.forall_of_parts
    (fun v => fieldCount (marked fresh v) = fieldCount v + objects v) ?_ ?_ ?_ v
  · intro v hScalar
    rw [marked_scalar fresh hScalar, objects_scalar hScalar, Nat.add_zero]
  · intro items ih
    rw [marked_array, fieldCount_array, fieldCount_array, objects_array, List.map_map,
      ← List.sum_map_add]
    exact congrArg List.sum (List.map_congr_left ih)
  · intro fields ih
    have hNull : fieldCount .null = 0 := rfl
    have hSum : (fields.map fun field => fieldCount (marked fresh field.2)).sum =
        (fields.map fun field => fieldCount field.2).sum +
          (fields.map fun field => objects field.2).sum := by
      rw [← List.sum_map_add]
      exact congrArg List.sum (List.map_congr_left ih)
    rw [marked_object, fieldCount_object, fieldCount_object, objects_object, List.map_cons,
      List.sum_cons, List.length_cons, List.length_map, List.map_map, hNull]
    simp only [Function.comp_def, markedField]
    omega

theorem fieldCount_of_same (v : Json) : ∀ w, SameJson v w → fieldCount v = fieldCount w := by
  refine @Json.forall_of_parts (fun v => ∀ w, SameJson v w → fieldCount v = fieldCount w)
    ?_ ?_ ?_ v
  · intro v hScalar w h
    cases h with
    | scalar _ => rfl
    | array _ => exact hScalar.elim
    | object _ _ _ => exact hScalar.elim
  · intro items ih w h
    cases h with
    | scalar hScalar => exact hScalar.elim
    | @array _ others hItems =>
      rw [fieldCount_array, fieldCount_array]
      have hCounts := map_eq_of_forall₂ ((List.forall₂_and_left _ _).mpr ⟨ih, hItems⟩)
        fun a b h => (h.1 b h.2).symm
      rw [hCounts]
  · intro fields ih w h
    cases h with
    | scalar hScalar => exact hScalar.elim
    | @object _ middle others hKeys hValues hOrder =>
      have hLength : fields.length = others.length := by
        rw [← List.length_map (·.1), hKeys, List.length_map, hOrder.length_eq]
      have hEach : ∀ v ∈ fields.map (·.2), ∀ w, SameJson v w → fieldCount v = fieldCount w :=
        List.forall_mem_map.mpr ih
      have hSums := map_eq_of_forall₂ ((List.forall₂_and_left _ _).mpr ⟨hEach, hValues⟩)
        fun a b h => (h.1 b h.2).symm
      have hPerm : (middle.map fun field => fieldCount field.2).sum =
          (others.map fun field => fieldCount field.2).sum := (hOrder.map _).sum_eq
      rw [List.map_map, List.map_map] at hSums
      rw [fieldCount_object, fieldCount_object, hLength, ← hPerm]
      exact congrArg (fun sums => others.length + List.sum sums) hSums.symm

theorem wellFormed_marked {v : Json} (h : WellFormed v) :
    fresh ∉ allKeys v → WellFormed (marked fresh v) := by
  induction h with
  | null => exact fun _ => .null
  | bool value => exact fun _ => .bool value
  | number h => exact fun _ => .number h
  | string value => exact fun _ => .string value
  | array _ ih =>
    intro hFresh
    rw [allKeys_array, List.mem_flatten] at hFresh
    rw [marked_array]
    refine .array (List.forall_mem_map.mpr fun v hv => ih v hv fun hKey => hFresh ?_)
    exact ⟨_, List.mem_map_of_mem hv, hKey⟩
  | @object fields hKeys _ ih =>
    intro hFresh
    rw [allKeys_object, List.mem_append, not_or, List.mem_flatten] at hFresh
    rw [marked_object]
    refine .object ?_ (List.forall_mem_cons.mpr ⟨.null, List.forall_mem_map.mpr ?_⟩)
    · rw [List.map_cons, List.map_map]
      exact List.nodup_cons.mpr ⟨hFresh.1, hKeys⟩
    · intro field hField
      refine ih field hField fun hKey => hFresh.2 ?_
      exact ⟨_, List.mem_map_of_mem hField, hKey⟩

theorem wellFormed_markedFields {fields : List (Text × Json)} (h : WellFormed (.object fields))
    (hFresh : fresh ∉ allKeys (.object fields)) :
    WellFormed (.object (fields.map (markedField fresh))) := by
  have hMarked := wellFormed_marked fresh h hFresh
  rw [marked_object] at hMarked
  cases hMarked with
  | object hKeys hFields =>
    exact .object (List.nodup_cons.mp hKeys).2 (List.forall_mem_cons.mp hFields).2

end

theorem exists_notMem_keys : ∃ fresh, fresh ∉ keys := by
  refine ⟨'x' :: keys.flatten, fun h => ?_⟩
  have hLength := (List.sublist_flatten_of_mem h).length_le
  rw [List.length_cons] at hLength
  omega

namespace Query

variable {localeCompare : Text → Text → Ordering}

def withMarks (query : Query) {fresh : Text} (hFresh : fresh ∉ allKeys query.value) : Query where
  fields := query.fields.map (markedField fresh)
  wellFormed := wellFormed_markedFields fresh query.wellFormed hFresh

theorem printed_withMarks (query : Query) {fresh : Text} (hFresh : fresh ∉ allKeys query.value) :
    (query.withMarks hFresh).printed localeCompare = query.printed localeCompare := by
  have hSorted : (query.withMarks hFresh).sortedKeys localeCompare =
      query.sortedKeys localeCompare := by
    unfold sortedKeys withMarks
    rw [List.map_map]
    rfl
  have hKeys : fresh ∉ query.sortedKeys localeCompare := by
    intro h
    refine hFresh ?_
    rw [value, allKeys_object]
    exact List.mem_append_left _ ((List.mergeSort_perm _ _).mem_iff.mp h)
  unfold printed
  rw [hSorted]
  refine congrArg _ ?_
  rw [withMarks, List.map_map]
  refine List.map_congr_left fun field _ => ?_
  exact congrArg (Prod.mk field.1) (restricted_marked fresh hKeys field.2)

theorem flat_of_same_withMarks {query : Query} {fresh : Text}
    {hFresh : fresh ∉ allKeys query.value}
    (h : SameJson query.value (query.withMarks hFresh).value) : query.Flat := by
  have hCount := fieldCount_of_same _ _ h
  have hSum : ((query.withMarks hFresh).fields.map fun field => fieldCount field.2).sum =
      (query.fields.map fun field => fieldCount field.2).sum +
        (query.fields.map fun field => objects field.2).sum := by
    rw [withMarks, List.map_map, ← List.sum_map_add]
    refine congrArg List.sum (List.map_congr_left fun field _ => ?_)
    exact fieldCount_marked fresh field.2
  have hLength : (query.withMarks hFresh).fields.length = query.fields.length :=
    List.length_map _
  rw [value, value, fieldCount_object, fieldCount_object, hSum, hLength] at hCount
  have hNone : (query.fields.map fun field => objects field.2).sum = 0 := by omega
  rw [List.sum_eq_zero_iff_forall_eq_nat] at hNone
  exact fun field hField => hNone _ (List.mem_map_of_mem hField)

end Query

theorem keyIsOwn_iff (localeCompare : Text → Text → Ordering) (url : Text) (query : Option Query) :
    KeyIsOwn localeCompare url query ↔ ∀ q, query = some q → q.Flat := by
  constructor
  · rintro h q rfl
    obtain ⟨fresh, hFresh⟩ := exists_notMem_keys (allKeys q.value)
    have hKey : singleFlightKey localeCompare url (some q) =
        singleFlightKey localeCompare url (some (q.withMarks hFresh)) :=
      Query.singleFlightKey_eq_iff.mpr ⟨rfl, congrArg some (q.printed_withMarks hFresh).symm⟩
    obtain ⟨-, hSame⟩ := h _ _ hKey
    cases hSame with
    | some hSame => exact Query.flat_of_same_withMarks hSame
  · intro hFlat url' query' hKey
    obtain ⟨hUrl, hPrinted⟩ := Query.singleFlightKey_eq_iff.mp hKey
    refine ⟨hUrl, ?_⟩
    cases query with
    | none =>
      cases query' with
      | none => exact .none
      | some q' => cases hPrinted
    | some q =>
      cases query' with
      | none => cases hPrinted
      | some q' =>
        exact .some (Query.sameJson_of_printed (hFlat q rfl) (Option.some.inj hPrinted))

def siteKey : Text := "site".toList

/-- `{ filter: { site } }` -/
def filterQuery (site : Text) : Query where
  fields := [("filter".toList, .object [(siteKey, .string site)])]
  wellFormed := by
    refine .object (by simp) (List.forall_mem_singleton.mpr ?_)
    exact .object (by simp) (List.forall_mem_singleton.mpr (.string site))

theorem sameJson_of_singleton {key key' : Text} {v v' : Json}
    (h : SameJson (.object [(key, v)]) (.object [(key', v')])) : SameJson v v' := by
  cases h with
  | scalar h => exact h.elim
  | object hKeys hValues hOrder =>
    obtain rfl := List.perm_singleton.mp hOrder
    cases hValues with
    | cons hSame _ => exact hSame

theorem printed_filterQuery (localeCompare : Text → Text → Ordering) (site : Text) :
    (filterQuery site).printed localeCompare = [("filter".toList, .object [])] := by
  have hKeys : (filterQuery site).sortedKeys localeCompare = ["filter".toList] :=
    List.mergeSort_singleton _
  rw [Query.printed, hKeys]
  rfl

end EsosWebui.Cache
