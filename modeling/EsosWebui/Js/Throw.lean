import EsosWebui.Js.Text
import Mathlib.Data.List.Forall2

/-! Code that throws: guards and lookups, and what their success says. -/
namespace Js

variable {ε α β : Type}

/-- `if (refused) throw error` -/
def throwIf (refused : Prop) [Decidable refused] (error : ε) : Except ε Unit :=
  if refused then .error error else .ok ()

/-- `if (!found) throw error`, with what was found. -/
def orThrow (error : ε) : Option α → Except ε α
  | some a => .ok a
  | none => .error error

variable {x : Except ε α} {f : α → Except ε β}

theorem bind_eq_ok {b : β} : x >>= f = .ok b ↔ ∃ a, x = .ok a ∧ f a = .ok b := by
  cases x <;> simp [bind, Except.bind]

theorem pure_eq_ok {a b : α} : (pure a : Except ε α) = .ok b ↔ a = b := by
  simp [pure, Except.pure]

theorem map_eq_ok {f : α → β} {b : β} : x.map f = .ok b ↔ ∃ a, x = .ok a ∧ f a = b := by
  cases x <;> simp [Except.map]

theorem mapError_eq_ok {ε' : Type} {f : ε → ε'} {a : α} : x.mapError f = .ok a ↔ x = .ok a := by
  cases x <;> simp [Except.mapError]

theorem throwIf_eq_ok {refused : Prop} [Decidable refused] {error : ε} {u : Unit} :
    throwIf refused error = .ok u ↔ ¬ refused := by
  unfold throwIf
  split <;> simp_all

theorem orThrow_eq_ok {error : ε} {found : Option α} {a : α} :
    orThrow error found = .ok a ↔ found = some a := by
  cases found <;> simp [orThrow]

theorem eq_ok_of_ite {c : Prop} [Decidable c] {x y : Except ε α} {a : α}
    (h : (if c then x else y) = .ok a) : x = .ok a ∨ y = .ok a := by
  split at h
  · exact Or.inl h
  · exact Or.inr h

theorem exists_of_isOk (h : x.isOk) : ∃ a, x = .ok a := by
  cases x with
  | error e => cases h
  | ok a => exact ⟨a, rfl⟩

/-- What is returned, with what can be seen of it. -/
theorem exists_ok_of_map {γ : Type} {f : α → γ} {c : γ} {P : α → Prop}
    (hValue : x.toOption.map f = some c) (h : ∀ a, x = .ok a → f a = c → P a) :
    ∃ a, x = .ok a ∧ P a := by
  cases x with
  | error e => cases hValue
  | ok a => exact ⟨a, rfl, h a rfl (Option.some.inj hValue)⟩

theorem exists_ok_of_isOk {P : α → Prop} (hOk : x.isOk) (h : ∀ a, x = .ok a → P a) :
    ∃ a, x = .ok a ∧ P a := by
  obtain ⟨a, hx⟩ := exists_of_isOk hOk
  exact ⟨a, hx, h a hx⟩

variable {l : List α} {r : List β}

theorem mapM_eq_ok : l.mapM f = .ok r ↔ List.Forall₂ (fun a b => f a = .ok b) l r := by
  induction l generalizing r with
  | nil =>
    rw [List.mapM_nil, pure_eq_ok, List.forall₂_nil_left_iff]
    exact eq_comm
  | cons a l ih =>
    rw [List.mapM_cons, bind_eq_ok, List.forall₂_cons_left_iff]
    constructor
    · rintro ⟨b, hHead, hRest⟩
      obtain ⟨bs, hTail, hResult⟩ := bind_eq_ok.mp hRest
      exact ⟨b, bs, hHead, ih.mp hTail, (pure_eq_ok.mp hResult).symm⟩
    · rintro ⟨b, bs, hHead, hTail, rfl⟩
      exact ⟨b, hHead, bind_eq_ok.mpr ⟨bs, ih.mpr hTail, pure_eq_ok.mpr rfl⟩⟩

theorem flatMap_of_mapM {γ : Type} {g : β → List γ} {k : α → List γ} (h : l.mapM f = .ok r)
    (hEach : ∀ a b, f a = .ok b → g b = k a) : r.flatMap g = l.flatMap k := by
  have hAll := mapM_eq_ok.mp h
  clear h
  induction hAll with
  | nil => rfl
  | cons hHead _ ih => rw [List.flatMap_cons, List.flatMap_cons, ih, hEach _ _ hHead]

variable {R : α → β → Prop}

theorem forall₂_comp {γ : Type} {S : β → γ → Prop} {m : List β} {r : List γ}
    (h : List.Forall₂ R l m) (h' : List.Forall₂ S m r) :
    List.Forall₂ (fun a c => ∃ b, R a b ∧ S b c) l r := by
  induction h generalizing r with
  | nil =>
    cases h'
    exact .nil
  | cons hHead _ ih =>
    cases h' with
    | cons hHead' hTail' => exact .cons ⟨_, hHead, hHead'⟩ (ih hTail')

theorem exists_of_forall₂_left (h : List.Forall₂ R l r) {a : α} (ha : a ∈ l) : ∃ b ∈ r, R a b := by
  induction h with
  | nil => cases ha
  | cons hHead _ ih =>
    cases ha with
    | head => exact ⟨_, List.mem_cons_self, hHead⟩
    | tail _ ha =>
      obtain ⟨b, hb, hab⟩ := ih ha
      exact ⟨b, List.mem_cons_of_mem _ hb, hab⟩

theorem exists_of_forall₂_right (h : List.Forall₂ R l r) {b : β} (hb : b ∈ r) : ∃ a ∈ l, R a b :=
  exists_of_forall₂_left h.flip hb

theorem map_eq_of_forall₂ {γ : Type} {f : α → γ} {g : β → γ} (h : List.Forall₂ R l r)
    (hEach : ∀ a b, R a b → g b = f a) : r.map g = l.map f := by
  induction h with
  | nil => rfl
  | cons hHead _ ih => rw [List.map_cons, List.map_cons, ih, hEach _ _ hHead]

theorem mapM_ok {g : α → β} (h : ∀ a ∈ l, f a = .ok (g a)) : l.mapM f = .ok (l.map g) := by
  rw [mapM_eq_ok, List.forall₂_map_right_iff, List.forall₂_same]
  exact h

theorem forM_eq_ok {f : α → Except ε Unit} : forM l f = .ok () ↔ ∀ a ∈ l, f a = .ok () := by
  induction l with
  | nil => simp [pure, Except.pure]
  | cons a l ih =>
    rw [List.forM_cons, bind_eq_ok, List.forall_mem_cons]
    constructor
    · rintro ⟨⟨⟩, hHead, hRest⟩
      exact ⟨hHead, ih.mp hRest⟩
    · rintro ⟨hHead, hRest⟩
      exact ⟨(), hHead, ih.mpr hRest⟩

theorem isOk_mapError {ε' : Type} {f : ε → ε'} : (x.mapError f).isOk = x.isOk := by
  cases x <;> rfl

end Js
