import EsosWebui.Js.Strings
import EsosWebui.Js.Labels

/-! Texts read from left to right, where what is found at one place is not read again: what is
written for the matches of a pattern, `text.replace(/.../g, value)`, and for those of a literal,
`text.split(literal).join(value)`. -/
namespace Js

variable {β : Type}

/-- What is written for a text. `find` tells what is found at the start of a text, and how many
characters after the first one belong to it; `skip` characters have been read already. -/
def scanFrom (find : Text → Option (Nat × β)) (keep : Char → β) : Nat → Text → List β
  | _, [] => []
  | skip + 1, _ :: rest => scanFrom find keep skip rest
  | 0, c :: rest =>
    match find (c :: rest) with
    | none => keep c :: scanFrom find keep 0 rest
    | some (n, b) => b :: scanFrom find keep n rest

def scan (find : Text → Option (Nat × β)) (keep : Char → β) (text : Text) : List β :=
  scanFrom find keep 0 text

section

variable {find : Text → Option (Nat × β)} {keep : Char → β}

theorem scanFrom_append (found rest : Text) :
    scanFrom find keep found.length (found ++ rest) = scan find keep rest := by
  induction found with
  | nil => rfl
  | cons c found ih => exact ih

theorem scan_found {found rest : Text} {b : β} (hNe : found ≠ [])
    (h : find (found ++ rest) = some (found.length - 1, b)) :
    scan find keep (found ++ rest) = b :: scan find keep rest := by
  cases found with
  | nil => exact absurd rfl hNe
  | cons c found =>
    rw [List.cons_append] at h ⊢
    show (match find (c :: (found ++ rest)) with
      | none => keep c :: scanFrom find keep 0 (found ++ rest)
      | some (n, b) => b :: scanFrom find keep n (found ++ rest)) = _
    rw [h]
    exact congrArg (b :: ·) (scanFrom_append found rest)

theorem scan_cons {c : Char} {rest : Text} (h : find (c :: rest) = none) :
    scan find keep (c :: rest) = keep c :: scan find keep rest := by
  show (match find (c :: rest) with
    | none => keep c :: scanFrom find keep 0 rest
    | some (n, b) => b :: scanFrom find keep n rest) = _
  rw [h]
  rfl

theorem scan_append {text rest : Text}
    (h : ∀ c s, c :: s <:+ text → find (c :: (s ++ rest)) = none) :
    scan find keep (text ++ rest) = text.map keep ++ scan find keep rest := by
  induction text with
  | nil => rfl
  | cons c text ih =>
    rw [List.cons_append, scan_cons (h c text (List.suffix_refl _)), ih]
    · rfl
    · exact fun d s hs => h d s (hs.trans (List.suffix_cons c text))

/-- A place that nothing is found across separates what is found before and after it. -/
theorem scanFrom_append_cons {d : Char} {rest : Text} {text : Text} {skip : Nat}
    (hSkip : skip ≤ text.length) (hEnd : find (d :: rest) = none)
    (hInside : ∀ s, s ≠ [] → s <:+ text → find (s ++ d :: rest) = find s)
    (hShort : ∀ s n b, s <:+ text → find s = some (n, b) → n < s.length) :
    scanFrom find keep skip (text ++ d :: rest) =
      scanFrom find keep skip text ++ keep d :: scan find keep rest := by
  induction text generalizing skip with
  | nil =>
    obtain rfl : skip = 0 := Nat.le_zero.mp hSkip
    exact scan_cons hEnd
  | cons c text ih =>
    have hInside' : ∀ s, s ≠ [] → s <:+ text → find (s ++ d :: rest) = find s :=
      fun s hs hSuffix => hInside s hs (hSuffix.trans (List.suffix_cons c text))
    have hShort' : ∀ s n b, s <:+ text → find s = some (n, b) → n < s.length :=
      fun s n b hSuffix => hShort s n b (hSuffix.trans (List.suffix_cons c text))
    cases skip with
    | succ skip => exact ih (Nat.le_of_succ_le_succ hSkip) hInside' hShort'
    | zero =>
      have hFind := hInside (c :: text) (List.cons_ne_nil _ _) (List.suffix_refl _)
      rw [List.cons_append] at hFind ⊢
      show (match find (c :: (text ++ d :: rest)) with
        | none => keep c :: scanFrom find keep 0 (text ++ d :: rest)
        | some (n, b) => b :: scanFrom find keep n (text ++ d :: rest)) =
        (match find (c :: text) with
        | none => keep c :: scanFrom find keep 0 text
        | some (n, b) => b :: scanFrom find keep n text) ++ _
      rw [hFind]
      cases hFound : find (c :: text) with
      | none => exact congrArg (keep c :: ·) (ih (Nat.zero_le _) hInside' hShort')
      | some found =>
        obtain ⟨n, b⟩ := found
        have hLe := hShort (c :: text) n b (List.suffix_refl _) hFound
        exact congrArg (b :: ·) (ih (Nat.le_of_lt_succ hLe) hInside' hShort')

end

def occurrences (literal text : Text) : Nat := text.tails.countP literal.isPrefixOf

/-- `text.split(literal).join(value)` -/
def replaceAll (literal value text : Text) : Text :=
  (scan (fun s => if literal.isPrefixOf s then some (literal.length - 1, value) else none)
    (fun c => [c]) text).flatten

variable {literal value : Text}

theorem occurrences_cons (c : Char) (text : Text) : occurrences literal (c :: text) =
    occurrences literal text + if literal.isPrefixOf (c :: text) then 1 else 0 := by
  rw [occurrences, List.tails_cons, List.countP_cons]
  rfl

variable (literal) in
theorem le_occurrences_append (before text : Text) :
    occurrences literal text ≤ occurrences literal (before ++ text) := by
  induction before with
  | nil => exact le_refl _
  | cons c before ih =>
    rw [List.cons_append, occurrences_cons]
    omega

theorem occurrences_literal_append (h : Unbordered literal) (text : Text) :
    occurrences literal (literal ++ text) = occurrences literal text + 1 := by
  have hInside : ∀ before after : Text, before ≠ [] → before ++ after = literal →
      occurrences literal (after ++ text) = occurrences literal text := by
    intro before after hBefore hSplit
    induction after generalizing before with
    | nil => rfl
    | cons c after ih =>
      have hNext : before ++ [c] ++ after = literal := by
        rw [List.append_assoc]
        exact hSplit
      have hDrop : literal.drop before.length = c :: after := by rw [← hSplit, List.drop_left]
      have hShort : before.length < literal.length := by
        rw [← hSplit, List.length_append, List.length_cons]
        omega
      have hNot : ¬ literal.isPrefixOf (c :: (after ++ text)) = true := by
        intro hPrefix
        have hLiteral := List.isPrefixOf_iff_prefix.mp hPrefix
        refine h.noBorder before.length hShort (List.length_pos_iff.mpr hBefore) ?_
        rw [hDrop]
        refine List.prefix_of_prefix_length_le (List.prefix_append (c :: after) text) hLiteral ?_
        rw [← hDrop]
        exact (List.drop_sublist _ _).length_le
      rw [List.cons_append, occurrences_cons, if_neg hNot, Nat.add_zero]
      exact ih (before ++ [c]) (by simp) hNext
  cases literal with
  | nil => exact absurd rfl h.ne_nil
  | cons c rest =>
    rw [List.cons_append, occurrences_cons, hInside [c] rest (List.cons_ne_nil _ _) rfl, if_pos]
    exact List.isPrefixOf_iff_prefix.mpr (List.prefix_append (c :: rest) text)

theorem replaceAll_literal_append (h : literal ≠ []) (text : Text) :
    replaceAll literal value (literal ++ text) = value ++ replaceAll literal value text := by
  unfold replaceAll
  rw [scan_found h (if_pos (List.isPrefixOf_iff_prefix.mpr (List.prefix_append _ _)))]
  rfl

theorem replaceAll_append_of_occurrences {before text : Text}
    (h : occurrences literal (before ++ text) = occurrences literal text) :
    replaceAll literal value (before ++ text) = before ++ replaceAll literal value text := by
  induction before with
  | nil => rfl
  | cons c before ih =>
    have hLe := le_occurrences_append literal before text
    rw [List.cons_append, occurrences_cons] at h
    have hNot : ¬ literal.isPrefixOf (c :: (before ++ text)) = true := by
      intro hPrefix
      rw [if_pos hPrefix] at h
      omega
    rw [if_neg hNot] at h
    have hRest := ih h
    unfold replaceAll at hRest ⊢
    rw [List.cons_append, scan_cons (if_neg hNot), List.flatten_cons, hRest]
    rfl

def fillHoles (value : Text) (parts : List (Option Text)) : Text := parts.flatMap (·.getD value)

theorem count_le_occurrences (h : Unbordered literal) (parts : List (Option Text)) :
    parts.count none ≤ occurrences literal (fillHoles literal parts) := by
  induction parts with
  | nil => exact Nat.zero_le _
  | cons part parts ih =>
    cases part with
    | none =>
      show (none :: parts).count none ≤ occurrences literal (literal ++ fillHoles literal parts)
      rw [occurrences_literal_append h, List.count_cons_self]
      exact Nat.succ_le_succ ih
    | some text =>
      show (some text :: parts).count none ≤
        occurrences literal (text ++ fillHoles literal parts)
      rw [List.count_cons_of_ne (Option.some_ne_none text)]
      exact ih.trans (le_occurrences_append _ _ _)

theorem replaceAll_fillHoles (h : Unbordered literal) {parts : List (Option Text)}
    (hOnly : occurrences literal (fillHoles literal parts) = parts.count none) :
    replaceAll literal value (fillHoles literal parts) = fillHoles value parts := by
  induction parts with
  | nil => rfl
  | cons part parts ih =>
    have hLe := count_le_occurrences h parts
    cases part with
    | none =>
      have hText : fillHoles literal (none :: parts) = literal ++ fillHoles literal parts := rfl
      rw [hText, occurrences_literal_append h, List.count_cons_self] at hOnly
      rw [hText, replaceAll_literal_append h.ne_nil, ih (Nat.succ_injective hOnly)]
      rfl
    | some text =>
      have hText : fillHoles literal (some text :: parts) =
          text ++ fillHoles literal parts := rfl
      rw [hText, List.count_cons_of_ne (Option.some_ne_none text)] at hOnly
      have hMore := le_occurrences_append literal text (fillHoles literal parts)
      have hSame : occurrences literal (fillHoles literal parts) = parts.count none := by omega
      rw [hText, replaceAll_append_of_occurrences (hOnly.trans hSame.symm), ih hSame]
      rfl

variable {α : Type} (opens closes : α → Bool)

/-- The depth after an entry; nothing when it closes a block and none is open. -/
def nest (n : Nat) (x : α) : Option Nat :=
  if closes x then
    match n with
    | 0 => none
    | k + 1 => some k
  else if opens x then some (n + 1)
  else some n

def depthFrom (n : Nat) (l : List α) : Option Nat := l.foldlM (nest opens closes) n

def Balanced (l : List α) : Prop := depthFrom opens closes 0 l = some 0

instance (l : List α) : Decidable (Balanced opens closes l) :=
  inferInstanceAs (Decidable (_ = _))

variable {opens closes} {l l₁ l₂ : List α} {n m k : Nat} {x : α}

theorem depthFrom_cons :
    depthFrom opens closes n (x :: l) =
      (nest opens closes n x).bind fun m => depthFrom opens closes m l := rfl

theorem depthFrom_append :
    depthFrom opens closes n (l₁ ++ l₂) =
      (depthFrom opens closes n l₁).bind fun m => depthFrom opens closes m l₂ :=
  List.foldlM_append

theorem nest_add (h : nest opens closes n x = some m) :
    nest opens closes (n + k) x = some (m + k) := by
  unfold nest at h ⊢
  by_cases hClose : closes x = true
  · rw [if_pos hClose] at h ⊢
    cases n with
    | zero => cases h
    | succ n =>
      cases h
      rw [Nat.add_right_comm]
  · rw [if_neg hClose] at h ⊢
    by_cases hOpen : opens x = true
    · rw [if_pos hOpen] at h ⊢
      cases h
      rw [Nat.add_right_comm]
    · rw [if_neg hOpen] at h ⊢
      cases h
      rfl

theorem depthFrom_add (h : depthFrom opens closes n l = some m) :
    depthFrom opens closes (n + k) l = some (m + k) := by
  induction l generalizing n with
  | nil =>
    cases h
    rfl
  | cons x l ih =>
    obtain ⟨i, hi, h⟩ := Option.bind_eq_some_iff.mp h
    rw [depthFrom_cons, nest_add hi]
    exact ih h

theorem depthFrom_replicate (hClose : closes x) (h : k ≤ n) :
    depthFrom opens closes n (List.replicate k x) = some (n - k) := by
  induction k generalizing n with
  | zero => rfl
  | succ k ih =>
    obtain ⟨n, rfl⟩ : ∃ i, n = i + 1 := ⟨n - 1, by omega⟩
    rw [List.replicate_succ, depthFrom_cons, nest, if_pos hClose]
    show depthFrom opens closes n (List.replicate k x) = some (n + 1 - (k + 1))
    rw [ih (by omega), Nat.add_sub_add_right]

end Js
