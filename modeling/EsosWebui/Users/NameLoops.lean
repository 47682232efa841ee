import EsosWebui.Users.AdminRoutes
import Mathlib.Data.Finset.Card
import Mathlib.Data.Nat.Find
import Mathlib.Order.Interval.Finset.Nat
import Mathlib.Logic.Function.Iterate

/-! How a new account gets its name: the loops of the resolvers and of the provisioning, which try
one name after the other until one is free. -/
namespace EsosWebui.Users

open Js

inductive NameLoop where
  | header
  | oidc
  | ldap
  | provisioning

namespace NameLoop

def first (base : Text) : NameLoop → Text
  | header => sanitizeUsername base
  | oidc | ldap => base
  | provisioning => sliceUnits 64 base

def candidate (base : Text) : NameLoop → Nat → Text
  | header, n => sanitizeUsername (base ++ numberSuffix "_" n)
  | oidc, n => suffixedName base (numberSuffix "_" n)
  | ldap, n | provisioning, n => suffixedName base (numberSuffix "_ldap" n)

/-- The loops for a directory look once before they start. -/
def unlessFree (username : Text) (names : Db Text) : Db Text := do
  let taken ← Async.read fun t => t.getUserByUsername username
  match taken with
  | none => return username
  | some _ => names

def search (loop : NameLoop) (base : Text) (attempts : Nat) : Db Text :=
  let names := searchUsername (loop.candidate base) attempts 0 (loop.first base)
  match loop with
  | header | oidc => names
  | ldap | provisioning => unlessFree (loop.first base) names

theorem newUsername_header (identity : HeaderAuthIdentity) (providers : AuthProviders)
    (fresh : Fresh) : (headerSsoLogin identity providers fresh).newUsername =
      header.search (sanitizeUsername identity.username) := rfl

theorem newUsername_oidc (issuer subject : Text) (claims : Claims) (providers : AuthProviders)
    (fresh : Fresh) : (oidcSsoLogin issuer subject claims providers fresh).newUsername =
      oidc.search (oidcSsoLogin issuer subject claims providers fresh).username := rfl

theorem newUsername_ldap (login : LdapLogin) (fresh : Fresh) :
    login.newUsername fresh = ldap.search login.accountName fresh.attempts := rfl

theorem uniqueUsernameForBase_eq (row : ProvisionLdapUserInput) (fresh : Fresh) :
    row.uniqueUsernameForBase fresh = provisioning.search row.baseUsername fresh.attempts := by
  have hBase : sliceUnits 64 row.baseUsername = row.baseUsername :=
    sliceUnits_of_le (utf16Length_sliceUnits_le _ _)
  rw [search, first, hBase]
  rfl

/-- The name that is tried after a number of names that were taken. -/
def nameAt (loop : NameLoop) (base : Text) (n : Nat) : Text :=
  if n = 0 then loop.first base else loop.candidate base n

end NameLoop

section

variable {candidate : Nat → Text} {names : Nat → Text} {t t' : UserTable} {name : Text} {n : Nat}

theorem run_read_bind {α β : Type} (f : UserTable → α) (next : α → Db β) (t : UserTable) :
    (Async.read f >>= next).run t = (next (f t)).run t := rfl

theorem run_searchUsername_free {attempts : Nat} (h : t.getUserByUsername name = none) :
    (searchUsername candidate (attempts + 1) n name).run t = (t, .ok name) := by
  rw [searchUsername, run_read_bind, h]
  rfl

theorem run_searchUsername_taken {attempts : Nat} (h : t.getUserByUsername name ≠ none) :
    (searchUsername candidate (attempts + 1) n name).run t =
      (searchUsername candidate attempts (increment n) (candidate (increment n))).run t := by
  obtain ⟨user, hUser⟩ := Option.ne_none_iff_exists'.mp h
  rw [searchUsername, run_read_bind, hUser]

theorem exists_run_searchUsername_iff
    (hNames : ∀ n, names (increment n) = candidate (increment n)) :
    (∃ attempts, (searchUsername candidate attempts n (names n)).run t = (t', .ok name)) ↔
      t' = t ∧ ∃ k, name = names (increment^[k] n) ∧ t.getUserByUsername name = none ∧
        ∀ j < k, t.getUserByUsername (names (increment^[j] n)) ≠ none := by
  constructor
  · rintro ⟨attempts, h⟩
    induction attempts generalizing n with
    | zero => cases h
    | succ attempts ih =>
      by_cases hFree : t.getUserByUsername (names n) = none
      · rw [run_searchUsername_free hFree] at h
        obtain ⟨rfl, hName⟩ := Prod.mk.inj h
        obtain rfl := Except.ok.inj hName
        exact ⟨rfl, 0, rfl, hFree, fun j hj => absurd hj (Nat.not_lt_zero j)⟩
      · rw [run_searchUsername_taken hFree, ← hNames] at h
        obtain ⟨hSame, k, hName, hLast, hBefore⟩ := ih h
        refine ⟨hSame, k + 1, hName, hLast, fun j hj => ?_⟩
        cases j with
        | zero => exact hFree
        | succ j => exact hBefore j (Nat.lt_of_succ_lt_succ hj)
  · rintro ⟨rfl, k, hName, hFree, hBefore⟩
    induction k generalizing n with
    | zero =>
      subst hName
      exact ⟨1, run_searchUsername_free hFree⟩
    | succ k ih =>
      obtain ⟨attempts, hRun⟩ := ih hName fun j hj => hBefore (j + 1) (Nat.succ_lt_succ hj)
      have hTaken : t'.getUserByUsername (names n) ≠ none := hBefore 0 (Nat.succ_pos k)
      refine ⟨attempts + 1, ?_⟩
      rw [run_searchUsername_taken hTaken, ← hNames]
      exact hRun

theorem iterate_increment (k : Nat) : increment^[k] 0 = min k (2 ^ 53) := by
  induction k with
  | zero => rfl
  | succ k ih =>
    rw [Function.iterate_succ_apply', ih, increment]
    omega

end

namespace NameLoop

variable {loop : NameLoop} {base name : Text} {t t' : UserTable}

theorem nameAt_increment (loop : NameLoop) (base : Text) (n : Nat) :
    loop.nameAt base (increment n) = loop.candidate base (increment n) := by
  rw [nameAt, if_neg]
  rw [increment]
  omega

theorem exists_run_unlessFree_iff {candidate : Nat → Text} {username : Text} :
    (∃ attempts, (unlessFree username (searchUsername candidate attempts 0 username)).run t =
        (t', .ok name)) ↔
      ∃ attempts, (searchUsername candidate attempts 0 username).run t = (t', .ok name) := by
  simp only [unlessFree, run_read_bind]
  cases hTaken : t.getUserByUsername username with
  | none =>
    constructor
    · rintro ⟨_, h⟩
      exact ⟨1, (run_searchUsername_free hTaken).trans h⟩
    · rintro ⟨attempts, h⟩
      cases attempts with
      | zero => cases h
      | succ attempts => exact ⟨0, (run_searchUsername_free hTaken).symm.trans h⟩
  | some _ => exact Iff.rfl

theorem exists_run_search_iff :
    (∃ attempts, (loop.search base attempts).run t = (t', .ok name)) ↔
      ∃ attempts, (searchUsername (loop.candidate base) attempts 0 (loop.first base)).run t =
        (t', .ok name) := by
  cases loop with
  | header => exact Iff.rfl
  | oidc => exact Iff.rfl
  | ldap => exact exists_run_unlessFree_iff
  | provisioning => exact exists_run_unlessFree_iff

theorem exists_run_search_iff_first :
    (∃ attempts, (loop.search base attempts).run t = (t', .ok name)) ↔
      t' = t ∧ ∃ k, name = loop.nameAt base (min k (2 ^ 53)) ∧ t.getUserByUsername name = none ∧
        ∀ j < k, t.getUserByUsername (loop.nameAt base (min j (2 ^ 53))) ≠ none := by
  have hIff := @exists_run_searchUsername_iff (loop.candidate base) (loop.nameAt base) t t' name 0
    (loop.nameAt_increment base)
  simp only [iterate_increment] at hIff
  exact exists_run_search_iff.trans hIff

end NameLoop

variable {label : String}

theorem length_numberSuffix {n : Nat} (hn : n ≤ 2 ^ 53) :
    (numberSuffix label n).length ≤ label.toList.length + 16 := by
  have hDigits : (Nat.toDigits 10 n).length ≤ 16 :=
    (Nat.length_toDigits_le_iff (by omega) (by omega)).mpr (by omega)
  rw [numberSuffix, List.length_append]
  omega

/-- A name that an account may get. -/
def IsName (name : Text) : Prop := name ≠ [] ∧ utf16Length name ≤ 64

theorem mem_of_mem_squeezeUnderscores {c : Char} {s : Text} (h : c ∈ squeezeUnderscores s) :
    c ∈ s := by
  fun_induction squeezeUnderscores s with
  | case1 rest ih => exact List.mem_cons_of_mem _ (ih h)
  | case2 d rest hNext ih =>
    obtain rfl | hRest := List.mem_cons.mp h
    · exact List.mem_cons_self
    · exact List.mem_cons_of_mem _ (ih hRest)
  | case3 => exact h

theorem mem_of_mem_stripUnderscores {c : Char} {s : Text} (h : c ∈ stripUnderscores s) : c ∈ s := by
  rw [stripUnderscores] at h
  split_ifs at h with hFirst hLast hLast
  · exact List.mem_of_mem_tail (List.mem_of_mem_dropLast h)
  · exact List.mem_of_mem_tail h
  · exact List.mem_of_mem_dropLast h
  · exact h

theorem toNat_lt_of_isUsernameChar {c : Char} (h : isUsernameChar c) :
    c.toNat < 0x10000 := by
  simp only [isUsernameChar, Bool.or_eq_true, beq_iff_eq] at h
  obtain ((hAlphanum | rfl) | rfl) | rfl := h
  · have hGraphic := (isGraphic_of_isAlphanum hAlphanum).2
    omega
  · decide
  · decide
  · decide

/-- The characters that are kept, and underscores for the others. -/
def replaced (base : Text) : Text := base.map fun c => if isUsernameChar c then c else '_'

theorem isUsernameChar_of_mem_replaced {c : Char} {base : Text} (h : c ∈ replaced base) :
    isUsernameChar c := by
  obtain ⟨d, -, rfl⟩ := List.mem_map.mp h
  split_ifs with hd
  · exact hd
  · rfl

/-- A base without the characters that no name has, before it is cut. -/
def stripped (base : Text) : Text := stripUnderscores (squeezeUnderscores (replaced base))

theorem sanitizeUsername_eq (base : Text) : sanitizeUsername base =
    (if ((stripped base).take 64).isEmpty then "user".toList else (stripped base).take 64).map
      Char.toLower := rfl

theorem isName_sanitizeUsername (base : Text) : IsName (sanitizeUsername base) := by
  have hPlain : ∀ c ∈ sanitizeUsername base, c.toNat < 0x10000 := by
    intro c hc
    rw [sanitizeUsername_eq] at hc
    obtain ⟨d, hd, rfl⟩ := List.mem_map.mp hc
    apply toNat_toLower_lt
    split_ifs at hd
    · have hUser : "user".toList.all (fun d => d.toNat < 0x10000) = true := by decide
      simpa using List.all_eq_true.mp hUser d hd
    · exact toNat_lt_of_isUsernameChar (isUsernameChar_of_mem_replaced
        (mem_of_mem_squeezeUnderscores (mem_of_mem_stripUnderscores (List.mem_of_mem_take hd))))
  rw [IsName, utf16Length_eq_length hPlain, sanitizeUsername_eq]
  split_ifs with hEmpty
  · decide
  · refine ⟨fun hNil => hEmpty ?_, ?_⟩
    · rw [List.map_eq_nil_iff.mp hNil]
      rfl
    · rw [List.length_map]
      exact List.length_take_le 64 _

theorem plain_numberSuffix (hLabel : label.toList.all (fun c => c.toNat < 0x10000))
    (n : Nat) : ∀ c ∈ numberSuffix label n, c.toNat < 0x10000 := by
  intro c hc
  obtain hc | hc := List.mem_append.mp hc
  · simpa using List.all_eq_true.mp hLabel c hc
  · have hDigit : c.isDigit = true := Nat.isDigit_of_mem_toDigits (by omega) (by omega) hc
    have hAlphanum : c.isAlphanum = true := by simp [Char.isAlphanum, hDigit]
    have hGraphic := (isGraphic_of_isAlphanum hAlphanum).2
    omega

theorem isName_suffixedName {n : Nat} (base : Text)
    (hLabel : label.toList.all (fun c => c.toNat < 0x10000))
    (hShort : label.toList.length ≤ 5) (hn : n ≤ 2 ^ 53) :
    IsName (suffixedName base (numberSuffix label n)) := by
  have hLength := @length_numberSuffix label n hn
  have hSlice := utf16Length_sliceUnits_le (max 1 (64 - (numberSuffix label n).length)) base
  constructor
  · intro hNil
    rw [suffixedName, List.append_eq_nil_iff, numberSuffix, List.append_eq_nil_iff] at hNil
    exact Nat.toDigits_ne_nil hNil.2.2
  · rw [suffixedName, utf16Length_append, utf16Length_eq_length (plain_numberSuffix hLabel n)]
    omega

namespace NameLoop

variable {loop : NameLoop} {base name : Text} {t : UserTable}

theorem isName_candidate {n : Nat} (hn : n ≤ 2 ^ 53) : IsName (loop.candidate base n) := by
  cases loop with
  | header => exact isName_sanitizeUsername _
  | oidc => exact isName_suffixedName base (by decide) (by decide) hn
  | ldap => exact isName_suffixedName base (by decide) (by decide) hn
  | provisioning => exact isName_suffixedName base (by decide) (by decide) hn

def Allocates (loop : NameLoop) (base : Text) (t : UserTable) : Prop :=
  ∃ attempts name, (loop.search base attempts).run t = (t, .ok name) ∧ IsName name ∧
    t.getUserByUsername name = none

/-- One of the names that a loop can try is free. -/
def SomeFree (loop : NameLoop) (base : Text) (t : UserTable) : Prop :=
  ∃ n ≤ 2 ^ 53, t.getUserByUsername (loop.nameAt base n) = none

theorem allocates_iff_someFree (loop : NameLoop) (base : Text) (t : UserTable) :
    loop.Allocates base t ↔ loop.SomeFree base t ∧
      (t.getUserByUsername (loop.first base) = none → IsName (loop.first base)) := by
  constructor
  · rintro ⟨attempts, name, hRun, hName, hFree⟩
    obtain ⟨-, k, rfl, -, hBefore⟩ := exists_run_search_iff_first.mp ⟨attempts, hRun⟩
    refine ⟨⟨min k (2 ^ 53), min_le_right _ _, hFree⟩, fun hFirst => ?_⟩
    -- a first name that is free is the one that is found
    cases k with
    | zero => exact hName
    | succ k => exact absurd hFirst (hBefore 0 (Nat.succ_pos k))
  · rintro ⟨hSome, hFirst⟩
    have hLeast := Nat.find_spec hSome
    obtain ⟨hLe, hFree⟩ := hLeast
    have hBefore (j : Nat) (hj : j < Nat.find hSome) :
        t.getUserByUsername (loop.nameAt base (min j (2 ^ 53))) ≠ none := by
      rw [min_eq_left (by omega)]
      exact fun hNone => Nat.find_min hSome hj ⟨by omega, hNone⟩
    obtain ⟨attempts, hRun⟩ :=
      (@exists_run_search_iff_first loop base (loop.nameAt base (Nat.find hSome)) t t).mpr
        ⟨rfl, Nat.find hSome, by rw [min_eq_left hLe], hFree, hBefore⟩
    refine ⟨attempts, _, hRun, ?_, hFree⟩
    by_cases hZero : Nat.find hSome = 0
    · rw [nameAt, if_pos hZero]
      rw [nameAt, if_pos hZero] at hFree
      exact hFirst hFree
    · rw [nameAt, if_neg hZero]
      exact isName_candidate hLe

end NameLoop

theorem digits_eq_of_append_eq {before before' digits digits' : Text} {c c' : Char}
    (hc : c.isDigit = false) (hc' : c'.isDigit = false) (h : ∀ d ∈ digits, d.isDigit = true)
    (h' : ∀ d ∈ digits', d.isDigit = true)
    (hEq : before ++ c :: digits = before' ++ c' :: digits') : digits = digits' := by
  have hRead {b : Text} {x : Char} {ds : Text} (hx : x.isDigit = false)
      (hds : ∀ d ∈ ds, d.isDigit = true) : (b ++ x :: ds).reverse.takeWhile Char.isDigit =
        ds.reverse := by
    rw [List.reverse_append, List.reverse_cons, List.append_assoc,
      List.takeWhile_append_of_pos fun d hd => hds d (List.mem_reverse.mp hd),
      List.singleton_append, List.takeWhile_cons_of_neg (by simp [hx]), List.append_nil]
  rw [← List.reverse_inj, ← hRead (b := before) hc h, hEq, hRead hc' h']

theorem suffixedName_injective {base start : Text} {c : Char} (hLabel : label.toList = start ++ [c])
    (hc : c.isDigit = false) {n m : Nat}
    (h : suffixedName base (numberSuffix label n) = suffixedName base (numberSuffix label m)) :
    n = m := by
  have hDigits {k : Nat} : ∀ d ∈ Nat.toDigits 10 k, d.isDigit = true := fun _ hd =>
    Nat.isDigit_of_mem_toDigits (by omega) (by omega) hd
  simp only [suffixedName, numberSuffix, hLabel, List.append_assoc, List.singleton_append] at h
  rw [← List.append_assoc, ← List.append_assoc (sliceUnits _ _)] at h
  have hSame := digits_eq_of_append_eq hc hc hDigits hDigits h
  rw [← Nat.ofDigitChars_ten_toDigits (n := n), hSame, Nat.ofDigitChars_ten_toDigits]

theorem mem_usernames_of_taken {t : UserTable} {name : Text}
    (h : t.getUserByUsername name ≠ none) : name ∈ t.rows.map (·.username) := by
  rw [UserTable.getUserByUsername, ne_eq, List.find?_eq_none] at h
  push Not at h
  obtain ⟨user, hUser, hName⟩ := h
  exact List.mem_map.mpr ⟨user, hUser, by simpa using hName⟩

namespace NameLoop

variable {loop : NameLoop} {base : Text} {t : UserTable}

theorem candidate_injective (h : loop ≠ .header) : Function.Injective (loop.candidate base) := by
  intro n m hEq
  cases loop with
  | header => exact absurd rfl h
  | oidc => exact @suffixedName_injective "_" base [] '_' (by decide) (by decide) n m hEq
  | ldap =>
    exact @suffixedName_injective "_ldap" base "_lda".toList 'p' (by decide) (by decide) n m hEq
  | provisioning =>
    exact @suffixedName_injective "_ldap" base "_lda".toList 'p' (by decide) (by decide) n m hEq

/-- A loop whose names end with its numbers leaves every table that is not too large. -/
theorem exists_free_of_ne_header (h : loop ≠ .header) (hRows : t.rows.length < 2 ^ 53) :
    loop.SomeFree base t := by
  by_contra hAll
  rw [SomeFree] at hAll
  push Not at hAll
  have hMem : ∀ n ∈ Finset.Icc 1 (2 ^ 53),
      loop.candidate base n ∈ (t.rows.map (·.username)).toFinset := by
    intro n hn
    obtain ⟨hPos, hLe⟩ := Finset.mem_Icc.mp hn
    have hTaken := hAll n hLe
    rw [nameAt, if_neg (by omega)] at hTaken
    exact List.mem_toFinset.mpr (mem_usernames_of_taken hTaken)
  have hCard := Finset.card_le_card_of_injOn (loop.candidate base) hMem
    (candidate_injective h).injOn
  have hNames := List.toFinset_card_le (t.rows.map (·.username))
  rw [Nat.card_Icc] at hCard
  rw [List.length_map] at hNames
  omega

end NameLoop

theorem head?_squeezeUnderscores (s : Text) : (squeezeUnderscores s).head? = s.head? := by
  fun_induction squeezeUnderscores s with
  | case1 rest ih => exact ih
  | case2 c rest hNext ih => rfl
  | case3 => rfl

theorem squeezeUnderscores_cons {c : Char} {s : Text} (h : ¬ (c = '_' ∧ s.head? = some '_')) :
    squeezeUnderscores (c :: s) = c :: squeezeUnderscores s := by
  rw [squeezeUnderscores]
  rintro rest rfl rfl
  exact h ⟨rfl, rfl⟩

theorem getLast?_squeezeUnderscores (s : Text) : (squeezeUnderscores s).getLast? = s.getLast? := by
  fun_induction squeezeUnderscores s with
  | case1 rest ih => rw [ih, List.getLast?_cons_cons]
  | case2 c rest hNext ih => rw [List.getLast?_cons, List.getLast?_cons, ih]
  | case3 => rfl

theorem isPrefix_squeezeUnderscores (s s' : Text) :
    squeezeUnderscores s <+: squeezeUnderscores (s ++ s') := by
  fun_induction squeezeUnderscores s with
  | case1 rest ih => exact ih
  | case2 c rest hNext ih =>
    by_cases hMerge : c = '_' ∧ (rest ++ s').head? = some '_'
    · -- the underscore at the end of the first text is one with those that follow
      obtain ⟨rfl, hHead⟩ := hMerge
      cases rest with
      | nil =>
        obtain ⟨tail, hTail⟩ := List.head?_eq_some_iff.mp
          (head?_squeezeUnderscores ('_' :: ([] ++ s')))
        rw [List.cons_append, hTail]
        exact ⟨tail, rfl⟩
      | cons d rest =>
        obtain rfl := Option.some.inj hHead
        exact absurd rfl (hNext rest rfl)
    · rw [List.cons_append, squeezeUnderscores_cons hMerge]
      exact (List.prefix_cons_inj c).mpr ih
  | case3 => exact List.nil_prefix

def dropUnderscore (s : Text) : Text := if s.head? = some '_' then s.tail else s

theorem stripUnderscores_eq (s : Text) : stripUnderscores s =
    if (dropUnderscore s).getLast? = some '_' then (dropUnderscore s).dropLast
    else dropUnderscore s := rfl

theorem isPrefix_stripUnderscores (s : Text) : stripUnderscores s <+: dropUnderscore s := by
  rw [stripUnderscores_eq]
  split_ifs
  · exact List.dropLast_prefix _
  · exact List.prefix_refl _

theorem isPrefix_dropUnderscore {s s' : Text} (hNe : s ≠ []) (h : s <+: s') :
    dropUnderscore s <+: dropUnderscore s' := by
  obtain ⟨rest, rfl⟩ := h
  obtain ⟨c, s, rfl⟩ := List.exists_cons_of_ne_nil hNe
  rw [dropUnderscore, dropUnderscore, List.cons_append, List.head?_cons, List.head?_cons,
    List.tail_cons, List.tail_cons]
  split_ifs
  · exact List.prefix_append s rest
  · exact List.prefix_append (c :: s) rest

theorem stripUnderscores_of_getLast? {s : Text} (h : s.getLast? ≠ some '_') :
    stripUnderscores s = dropUnderscore s := by
  rw [stripUnderscores_eq, if_neg]
  rw [dropUnderscore]
  split_ifs
  · rw [List.getLast?_tail]
    split_ifs
    · exact nofun
    · exact h
  · exact h

/-- What follows a long base is cut off, unless it ends with an underscore. -/
theorem take_stripped_append {base suffix : Text} (hSuffix : replaced suffix = suffix)
    (hLast : ∃ c ∈ suffix.getLast?, c ≠ '_') (hLong : 64 ≤ (stripped base).length) :
    (stripped (base ++ suffix)).take 64 = (stripped base).take 64 := by
  have hReplaced : replaced (base ++ suffix) = replaced base ++ suffix := by
    rw [replaced, List.map_append, ← replaced, ← replaced, hSuffix]
  have hEnd : (squeezeUnderscores (replaced base ++ suffix)).getLast? ≠ some '_' := by
    obtain ⟨c, hc, hNe⟩ := hLast
    rw [getLast?_squeezeUnderscores, List.getLast?_append, Option.mem_def.mp hc, Option.some_or]
    exact fun hEq => hNe (Option.some.inj hEq)
  have hNe : squeezeUnderscores (replaced base) ≠ [] := by
    intro hNil
    rw [stripped, hNil] at hLong
    exact absurd hLong (by decide)
  have hPrefix : stripped base <+: stripped (base ++ suffix) := by
    rw [stripped, stripped, hReplaced, stripUnderscores_of_getLast? hEnd]
    exact (isPrefix_stripUnderscores _).trans
      (isPrefix_dropUnderscore hNe (isPrefix_squeezeUnderscores _ _))
  obtain ⟨rest, hRest⟩ := hPrefix
  rw [← hRest, List.take_append_of_le_length hLong]

theorem replaced_numberSuffix (n : Nat) : replaced (numberSuffix "_" n) = numberSuffix "_" n := by
  have hChars : ∀ c ∈ numberSuffix "_" n, isUsernameChar c = true := by
    intro c hc
    obtain hc | hc := List.mem_append.mp hc
    · obtain rfl := List.mem_singleton.mp hc
      rfl
    · have hDigit : c.isDigit = true := Nat.isDigit_of_mem_toDigits (by omega) (by omega) hc
      simp [isUsernameChar, Char.isAlphanum, hDigit]
  conv_rhs => rw [← List.map_id (numberSuffix "_" n)]
  exact List.map_congr_left fun c hc => if_pos (hChars c hc)

theorem getLast?_numberSuffix (n : Nat) : ∃ c ∈ (numberSuffix "_" n).getLast?, c ≠ '_' := by
  obtain ⟨digits, c, hDigits⟩ := List.eq_nil_or_concat (Nat.toDigits 10 n) |>.resolve_left
    Nat.toDigits_ne_nil
  refine ⟨c, ?_, ?_⟩
  · rw [numberSuffix, hDigits, List.concat_eq_append, ← List.append_assoc, List.getLast?_concat]
    rfl
  · rintro rfl
    exact @Nat.underscore_not_in_toDigits n (by simp [hDigits])

theorem nameAt_header_of_long {base : Text} (hLong : 64 ≤ (stripped base).length) (n : Nat) :
    NameLoop.header.nameAt base n = sanitizeUsername base := by
  rw [NameLoop.nameAt]
  split_ifs
  · rfl
  · rw [NameLoop.candidate, sanitizeUsername_eq, sanitizeUsername_eq,
      take_stripped_append (replaced_numberSuffix n) (getLast?_numberSuffix n) hLong]

theorem someFree_header_of_long {base : Text} {t : UserTable}
    (hLong : 64 ≤ (stripped base).length) : NameLoop.header.SomeFree base t ↔
      t.getUserByUsername (sanitizeUsername base) = none := by
  rw [NameLoop.SomeFree]
  simp only [nameAt_header_of_long hLong]
  exact ⟨fun ⟨_, _, h⟩ => h, fun h => ⟨0, Nat.zero_le _, h⟩⟩

/-- The base itself is a name that an account may get, where the loop tries it as it is. -/
def NameLoop.KeepsBase (base : Text) : NameLoop → Prop
  | .header => True
  | .oidc | .ldap => IsName base
  | .provisioning => base ≠ []

theorem NameLoop.isName_first_iff (loop : NameLoop) (base : Text) :
    IsName (loop.first base) ↔ loop.KeepsBase base := by
  cases loop with
  | header => exact iff_of_true (isName_sanitizeUsername base) trivial
  | oidc => exact Iff.rfl
  | ldap => exact Iff.rfl
  | provisioning =>
    constructor
    · rintro ⟨hNe, -⟩ rfl
      exact hNe rfl
    · exact fun hNe =>
        ⟨sliceUnits_ne_nil (by decide) hNe, utf16Length_sliceUnits_le 64 base⟩

/-- A loop allocates a name exactly when one of those it can try is free, and its first one is a
name or taken. Names with whole numbers run out in no table of a real size; those that are cut
again are all one when the base is long. -/
theorem nameLoop_allocates_iff (loop : NameLoop) (base : Text) (t : UserTable) :
    (loop.Allocates base t ↔ loop.SomeFree base t ∧
        (t.getUserByUsername (loop.first base) = none → loop.KeepsBase base)) ∧
      (loop ≠ .header → t.rows.length < 2 ^ 53 → loop.SomeFree base t) ∧
      (loop = .header → 64 ≤ (stripped base).length →
        (loop.SomeFree base t ↔ t.getUserByUsername (sanitizeUsername base) = none)) := by
  refine ⟨?_, NameLoop.exists_free_of_ne_header, ?_⟩
  · rw [NameLoop.allocates_iff_someFree, loop.isName_first_iff]
  · rintro rfl hLong
    exact someFree_header_of_long hLong

def longBase : Text := List.replicate 64 'a'

def longTable : UserTable where
  rows := [{ id := ['1'], username := longBase, role := .viewer, active := true }]
  idUnique := List.nodup_singleton _

/-- A taken name of 64 characters is tried for ever, and an empty or a long name is given away. -/
theorem names_not_allocated :
    ¬ NameLoop.header.Allocates longBase longTable ∧
      ¬ NameLoop.oidc.Allocates [] longTable ∧
      ¬ NameLoop.ldap.Allocates (longBase ++ ['b']) longTable ∧
      ¬ NameLoop.provisioning.Allocates [] longTable := by
  refine ⟨?_, ?_, ?_, ?_⟩
  · rw [NameLoop.allocates_iff_someFree, someFree_header_of_long (by decide)]
    exact fun h => absurd h.1 (by decide)
  · rw [NameLoop.allocates_iff_someFree]
    exact fun h => (h.2 (by decide)).1 rfl
  · rw [NameLoop.allocates_iff_someFree]
    exact fun h => absurd (h.2 (by decide)).2 (by decide)
  · rw [NameLoop.allocates_iff_someFree]
    exact fun h => (h.2 (by decide)).1 rfl

end EsosWebui.Users
