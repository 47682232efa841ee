import EsosWebui.Js.Text

/-! Objects used as string maps: the order in which their entries are
enumerated, and assignment to a key. -/
namespace Js

def arrayIndex? (key : Text) : Option Nat :=
  let n := Nat.ofDigitChars 10 key 0
  if key = Nat.toDigits 10 n ∧ n < 2 ^ 32 - 1 then some n else none

/-- Array indices are enumerated first, in ascending order; every other key
keeps its place in the order of insertion. -/
def comesBefore (a b : Text) : Bool :=
  match arrayIndex? b with
  | some j => (arrayIndex? a).any (· < j)
  | none => a != b

/-- Assigning a string to this key of an object is ignored. -/
def protoKey : Text := ['_', '_', 'p', 'r', 'o', 't', 'o', '_', '_']

/-- An object used as a map, with its entries in the order of `Object.entries`. -/
@[ext] structure Record (V : Type) where
  entries : List (Text × V)
  ordered : entries.Pairwise fun a b => comesBefore a.1 b.1 = true
  noProto : ∀ e ∈ entries, e.1 ≠ protoKey
  deriving DecidableEq

theorem arrayIndex?_injective {a b : Text} {n : Nat} (ha : arrayIndex? a = some n)
    (hb : arrayIndex? b = some n) : a = b := by
  have hDigits {k : Text} (hk : arrayIndex? k = some n) : k = Nat.toDigits 10 n := by
    simp only [arrayIndex?] at hk
    split at hk
    · rename_i h
      rw [← Option.some.inj hk]
      exact h.1
    · simp at hk
  rw [hDigits ha, hDigits hb]

theorem ne_of_comesBefore {a b : Text} (h : comesBefore a b) : a ≠ b := by
  rintro rfl
  unfold comesBefore at h
  cases ha : arrayIndex? a with
  | none => simp [ha] at h
  | some n => simp [ha] at h

theorem comesBefore_of_not {a b : Text} (hne : a ≠ b) (h : comesBefore a b = false) :
    comesBefore b a := by
  unfold comesBefore at h ⊢
  cases ha : arrayIndex? a with
  | none => simpa using hne.symm
  | some i =>
    cases hb : arrayIndex? b with
    | none => simp [hb, hne] at h
    | some j =>
      have hLe : j ≤ i := by simpa [ha, hb] using h
      have hNe : j ≠ i := by
        rintro rfl
        exact hne (arrayIndex?_injective ha hb)
      simp
      omega

theorem comesBefore_trans {a b c : Text} (hne : a ≠ c) (hab : comesBefore a b)
    (hbc : comesBefore b c) : comesBefore a c := by
  unfold comesBefore at hab hbc ⊢
  cases hc : arrayIndex? c with
  | none => simpa using hne
  | some k =>
    cases hb : arrayIndex? b with
    | none => simp [hc, hb] at hbc
    | some j =>
      cases ha : arrayIndex? a with
      | none => simp [hb, ha] at hab
      | some i =>
        have hij : i < j := by simpa [hb, ha] using hab
        have hjk : j < k := by simpa [hc, hb] using hbc
        simp
        omega

namespace Record

variable {V : Type}

/-- `{}` -/
def empty : Record V := ⟨[], List.Pairwise.nil, by simp⟩

/-- `key in record` -/
def has (r : Record V) (key : Text) : Bool := r.entries.any fun e => e.1 == key

variable {r : Record V} {key : Text}

theorem has_eq_false : r.has key = false ↔ ∀ e ∈ r.entries, e.1 ≠ key := by
  simp [has]

private theorem ordered_replace (r : Record V) (key : Text) (value : V) :
    (r.entries.map fun e => if e.1 = key then (key, value) else e).Pairwise
      fun a b => comesBefore a.1 b.1 = true := by
  rw [List.pairwise_map]
  refine r.ordered.imp fun {a b} hab => ?_
  have hKey (e : Text × V) : (if e.1 = key then (key, value) else e).1 = e.1 := by
    split
    · rename_i h
      exact h.symm
    · rfl
  rw [hKey, hKey]
  exact hab

private theorem ordered_insert (r : Record V) (value : V) (h : r.has key = false) :
    (r.entries.takeWhile (fun e => comesBefore e.1 key) ++
      (key, value) :: r.entries.dropWhile fun e => comesBefore e.1 key).Pairwise
      fun a b => comesBefore a.1 b.1 = true := by
  have hNew := has_eq_false.mp h
  have hAll : (r.entries.takeWhile (fun e => comesBefore e.1 key) ++
      r.entries.dropWhile fun e => comesBefore e.1 key).Pairwise
      fun a b => comesBefore a.1 b.1 = true := by
    rw [List.takeWhile_append_dropWhile]
    exact r.ordered
  obtain ⟨hTake, hDrop, hCross⟩ := List.pairwise_append.mp hAll
  -- The first entry not before the key is after it, and so are those that follow.
  have hAfter : ∀ e ∈ r.entries.dropWhile (fun e => comesBefore e.1 key),
      comesBefore key e.1 = true := by
    intro e he
    have hMem : e ∈ r.entries := (List.dropWhile_suffix _).subset he
    cases hRest : r.entries.dropWhile fun e => comesBefore e.1 key with
    | nil => simp [hRest] at he
    | cons first rest =>
      have hFirst : comesBefore first.1 key = false := by
        have hNot := List.head?_dropWhile_not (fun e : Text × V => comesBefore e.1 key) r.entries
        simpa [hRest] using hNot
      have hFirstMem : first ∈ r.entries :=
        (List.dropWhile_suffix _).subset (by rw [hRest]; simp)
      have hKeyFirst := comesBefore_of_not (hNew first hFirstMem) hFirst
      rw [hRest] at he hDrop
      rcases List.mem_cons.mp he with rfl | he
      · exact hKeyFirst
      · exact comesBefore_trans (hNew e hMem).symm hKeyFirst (List.rel_of_pairwise_cons hDrop he)
  refine List.pairwise_append.mpr ⟨hTake, List.pairwise_cons.mpr ⟨hAfter, hDrop⟩, ?_⟩
  intro a ha b hb
  rcases List.mem_cons.mp hb with rfl | hb
  · exact List.mem_takeWhile_imp (p := fun e : Text × V => comesBefore e.1 key) ha
  · exact hCross a ha b hb

/-- `record[key] = value` -/
def set (r : Record V) (key : Text) (value : V) : Record V :=
  if hProto : key = protoKey then r
  else
    match h : r.has key with
    | true =>
      { entries := r.entries.map fun e => if e.1 = key then (key, value) else e
        ordered := ordered_replace r key value
        noProto := by
          intro e he
          obtain ⟨e', he', rfl⟩ := List.mem_map.mp he
          split
          · exact hProto
          · exact r.noProto e' he' }
    | false =>
      { entries := r.entries.takeWhile (fun e => comesBefore e.1 key) ++
          (key, value) :: r.entries.dropWhile fun e => comesBefore e.1 key
        ordered := ordered_insert r value h
        noProto := by
          intro e he
          rcases List.mem_append.mp he with he | he
          · exact r.noProto e ((List.takeWhile_prefix _).subset he)
          · rcases List.mem_cons.mp he with rfl | he
            · exact hProto
            · exact r.noProto e ((List.dropWhile_suffix _).subset he) }

theorem set_protoKey (r : Record V) (value : V) : r.set protoKey value = r := by
  simp [set]

variable (value : V)

theorem entries_set_of_has (hProto : key ≠ protoKey) (h : r.has key) :
    (r.set key value).entries = r.entries.map fun e => if e.1 = key then (key, value) else e := by
  unfold set
  rw [dif_neg hProto]
  split
  · rfl
  · simp_all

theorem entries_set_of_not_has (hProto : key ≠ protoKey) (h : r.has key = false) :
    (r.set key value).entries = r.entries.takeWhile (fun e => comesBefore e.1 key) ++
      (key, value) :: r.entries.dropWhile fun e => comesBefore e.1 key := by
  unfold set
  rw [dif_neg hProto]
  split
  · simp_all
  · rfl

theorem mem_entries_set {value : V} {e : Text × V} (he : e ∈ (r.set key value).entries) :
    e ∈ r.entries ∨ (e = (key, value) ∧ key ≠ protoKey) := by
  by_cases hProto : key = protoKey
  · rw [hProto, set_protoKey] at he
    exact Or.inl he
  · cases h : r.has key with
    | true =>
      rw [entries_set_of_has value hProto h] at he
      obtain ⟨e', he', rfl⟩ := List.mem_map.mp he
      split
      · exact Or.inr ⟨rfl, hProto⟩
      · exact Or.inl he'
    | false =>
      rw [entries_set_of_not_has value hProto h] at he
      rcases List.mem_append.mp he with he | he
      · exact Or.inl ((List.takeWhile_prefix _).subset he)
      · rcases List.mem_cons.mp he with rfl | he
        · exact Or.inr ⟨rfl, hProto⟩
        · exact Or.inl ((List.dropWhile_suffix _).subset he)

/-- Assigning the entries of a record one after the other, from `{}` on. -/
def ofEntries (entries : List (Text × V)) : Record V :=
  entries.foldl (fun r e => r.set e.1 e.2) empty

private theorem entries_foldl_set (pre post : List (Text × V))
    (hOrdered : (pre ++ post).Pairwise fun a b => comesBefore a.1 b.1 = true)
    (hProto : ∀ e ∈ pre ++ post, e.1 ≠ protoKey) (r : Record V) (hr : r.entries = pre) :
    (post.foldl (fun r e => r.set e.1 e.2) r).entries = pre ++ post := by
  induction post generalizing pre r with
  | nil => simpa using hr
  | cons e post ih =>
    have hBefore : ∀ a ∈ pre, comesBefore a.1 e.1 = true := fun a ha =>
      (List.pairwise_append.mp hOrdered).2.2 a ha e (by simp)
    have hNew : r.has e.1 = false :=
      has_eq_false.mpr fun a ha => ne_of_comesBefore (hBefore a (hr ▸ ha))
    have hSet : (r.set e.1 e.2).entries = pre ++ [e] := by
      rw [entries_set_of_not_has _ (hProto e (by simp)) hNew, hr,
        List.takeWhile_eq_self_iff.mpr hBefore, List.dropWhile_eq_nil_iff.mpr hBefore]
    have hStep := ih (pre ++ [e]) (by simpa using hOrdered) (by simpa using hProto) _ hSet
    simpa using hStep

theorem ofEntries_entries (r : Record V) : ofEntries r.entries = r := by
  apply Record.ext
  exact entries_foldl_set [] r.entries r.ordered r.noProto empty rfl

theorem sum_entries_set_le (r : Record V) (key : Text) (value : V) (weight : Text × V → Nat) :
    ((r.set key value).entries.map weight).sum ≤
      (r.entries.map weight).sum + weight (key, value) := by
  by_cases hProto : key = protoKey
  · rw [hProto, set_protoKey]
    omega
  · cases h : r.has key with
    | true =>
      rw [entries_set_of_has value hProto h]
      have hList (l : List (Text × V)) (hl : l.Pairwise fun a b => comesBefore a.1 b.1 = true) :
          ((l.map fun e => if e.1 = key then (key, value) else e).map weight).sum ≤
            (l.map weight).sum + weight (key, value) := by
        induction l with
        | nil => simp
        | cons e l ih =>
          obtain ⟨hHead, hTail⟩ := List.pairwise_cons.mp hl
          by_cases he : e.1 = key
          · have hSame : (l.map fun e => if e.1 = key then (key, value) else e) = l := by
              conv_rhs => rw [← List.map_id l]
              refine List.map_congr_left fun a ha => if_neg ?_
              rw [← he]
              exact (ne_of_comesBefore (hHead a ha)).symm
            simp [he, hSame]
            omega
          · have := ih hTail
            simp only [List.map_cons, List.sum_cons, if_neg he]
            omega
      exact hList _ r.ordered
    | false =>
      rw [entries_set_of_not_has value hProto h]
      have hSplit : (r.entries.map weight).sum =
          ((r.entries.takeWhile fun e => comesBefore e.1 key).map weight).sum +
            ((r.entries.dropWhile fun e => comesBefore e.1 key).map weight).sum := by
        rw [← List.sum_append, ← List.map_append, List.takeWhile_append_dropWhile]
      simp only [List.map_append, List.map_cons, List.sum_append, List.sum_cons]
      omega

theorem length_entries_set_le (r : Record V) (key : Text) (value : V) :
    (r.set key value).entries.length ≤ r.entries.length + 1 := by
  simpa using sum_entries_set_le r key value fun _ => 1

theorem sum_entries_set_lt_of_has {weight : Text × V → Nat} (hPos : ∀ e, 1 ≤ weight e)
    (h : r.has key) :
    ((r.set key value).entries.map weight).sum <
      (r.entries.map weight).sum + weight (key, value) := by
  by_cases hProto : key = protoKey
  · rw [hProto, set_protoKey]
    have := hPos (protoKey, value)
    omega
  · obtain ⟨e, he, hKey⟩ : ∃ e ∈ r.entries, e.1 = key := by simpa [has] using h
    obtain ⟨pre, post, hSplit⟩ := List.append_of_mem he
    have hOrdered := r.ordered
    rw [hSplit, List.pairwise_append, List.pairwise_cons] at hOrdered
    have hPre : pre.map (fun e => if e.1 = key then (key, value) else e) = pre := by
      conv_rhs => rw [← List.map_id pre]
      refine List.map_congr_left fun a ha => if_neg ?_
      exact hKey ▸ ne_of_comesBefore (hOrdered.2.2 a ha e (by simp))
    have hPost : post.map (fun e => if e.1 = key then (key, value) else e) = post := by
      conv_rhs => rw [← List.map_id post]
      refine List.map_congr_left fun a ha => if_neg ?_
      exact hKey ▸ (ne_of_comesBefore (hOrdered.2.1.1 a ha)).symm
    rw [entries_set_of_has value hProto h, hSplit, List.map_append, List.map_cons, hPre, hPost,
      if_pos hKey]
    have := hPos e
    simp only [List.map_append, List.map_cons, List.sum_append, List.sum_cons]
    omega

theorem has_set_self (hProto : key ≠ protoKey) : (r.set key value).has key := by
  cases h : r.has key with
  | true =>
    obtain ⟨e, he, hKey⟩ : ∃ e ∈ r.entries, e.1 = key := by simpa [has] using h
    rw [has, entries_set_of_has value hProto h, List.any_eq_true]
    exact ⟨(key, value), List.mem_map.mpr ⟨e, he, if_pos hKey⟩, by simp⟩
  | false =>
    rw [has, entries_set_of_not_has value hProto h]
    simp

theorem has_set_of_has {key other : Text} (h : r.has other) :
    (r.set key value).has other := by
  by_cases hProto : key = protoKey
  · rwa [hProto, set_protoKey]
  · by_cases hSame : other = key
    · rw [hSame]
      exact has_set_self value hProto
    · obtain ⟨e, he, hKey⟩ : ∃ e ∈ r.entries, e.1 = other := by simpa [has] using h
      rw [has, List.any_eq_true]
      refine ⟨e, ?_, by simpa using hKey⟩
      cases hHas : r.has key with
      | true =>
        rw [entries_set_of_has value hProto hHas]
        exact List.mem_map.mpr ⟨e, he, if_neg (by rw [hKey]; exact hSame)⟩
      | false =>
        rw [entries_set_of_not_has value hProto hHas]
        rw [← List.takeWhile_append_dropWhile (p := fun e => comesBefore e.1 key)
          (l := r.entries)] at he
        rcases List.mem_append.mp he with he | he
        · exact List.mem_append_left _ he
        · exact List.mem_append_right _ (List.mem_cons_of_mem _ he)

end Record

end Js
