import Mathlib.Data.Nat.Digits.Defs
import EsosWebui.Js.Json
import EsosWebui.Js.Number

/-! Addresses of the internet as numbers, and every way to write them: four decimal octets, or
eight groups of hexadecimal digits, of which one run of zero groups may be left out and of which
four octets may stand for the last two. -/
namespace Net

open Js (Text)
open Js.Json (hexValue)

/-- The addresses of a width that share their first `length` bits with `base`. -/
def InPrefix (width base length address : Nat) : Prop :=
  address / 2 ^ (width - length) = base / 2 ^ (width - length)

instance (width base length address : Nat) : Decidable (InPrefix width base length address) :=
  inferInstanceAs (Decidable (_ = _))

structure IPv4 where
  a : Fin 256
  b : Fin 256
  c : Fin 256
  d : Fin 256

namespace IPv4

def octets (ip : IPv4) : List Nat := [ip.a, ip.b, ip.c, ip.d]

def value (ip : IPv4) : Nat := ((ip.a * 256 + ip.b) * 256 + ip.c) * 256 + ip.d

def text (ip : IPv4) : Text := ['.'].intercalate (ip.octets.map (Nat.toDigits 10))

def groups (ip : IPv4) : List Nat := [ip.a * 256 + ip.b, ip.c * 256 + ip.d]

variable {ip : IPv4} {c : Char}

theorem value_lt : ip.value < 2 ^ 32 := by
  rw [value]
  omega

theorem lt_of_mem_groups {g : Nat} (h : g ∈ ip.groups) : g < 2 ^ 16 := by
  simp only [groups, List.mem_cons, List.not_mem_nil, or_false] at h
  omega

theorem isDigit_of_mem_toDigits {n : Nat} (h : c ∈ Nat.toDigits 10 n) : c.isDigit :=
  Nat.isDigit_of_mem_toDigits (by decide) (by decide) h

theorem mem_text (h : c ∈ ip.text) : c = '.' ∨ c.isDigit = true := by
  obtain rfl | ⟨part, hPart, hc⟩ := Js.mem_intercalate h
  · exact .inl rfl
  · obtain ⟨n, -, rfl⟩ := List.mem_map.mp hPart
    exact .inr (isDigit_of_mem_toDigits hc)

theorem splitOn_text : ip.text.splitOn '.' = ip.octets.map (Nat.toDigits 10) := by
  refine List.splitOn_intercalate '.' (fun part hPart hDot => ?_) (by simp [octets])
  obtain ⟨n, -, rfl⟩ := List.mem_map.mp hPart
  exact absurd (isDigit_of_mem_toDigits hDot) (by decide)

theorem text_eq : ip.text = Nat.toDigits 10 ip.a ++
    '.' :: ['.'].intercalate ([ip.b, ip.c, ip.d].map fun n => Nat.toDigits 10 n) :=
  Js.intercalate_cons_cons '.' _ _ _

theorem dot_mem_text : '.' ∈ ip.text := by
  rw [text_eq]
  simp

end IPv4

/-- One to four hexadecimal digits. -/
structure Group where
  digits : Text
  ne_nil : digits ≠ []
  length_le : digits.length ≤ 4
  hex : ∀ c ∈ digits, (hexValue c).isSome = true

def hexNumber (digits : Text) : Nat := digits.foldl (fun n c => n * 16 + (hexValue c).getD 0) 0

theorem hexValue_getD_lt (c : Char) : (hexValue c).getD 0 < 16 := by
  rw [hexValue]
  split_ifs with hDigit hLower hUpper
  · have hLe : c.toNat ≤ 57 := by
      simp only [Char.isDigit, Bool.and_eq_true, decide_eq_true_eq] at hDigit
      exact hDigit.2
    simp only [Option.getD_some, Char.reduceToNat]
    omega
  · have hLe : c.toNat ≤ 102 := hLower.2
    simp only [Option.getD_some, Char.reduceToNat]
    omega
  · have hLe : c.toNat ≤ 70 := hUpper.2
    simp only [Option.getD_some, Char.reduceToNat]
    omega
  · exact Nat.succ_pos _

theorem hexNumber_concat (digits : Text) (c : Char) :
    hexNumber (digits ++ [c]) = hexNumber digits * 16 + (hexValue c).getD 0 := by
  rw [hexNumber, List.foldl_append]
  rfl

theorem hexNumber_lt (digits : Text) : hexNumber digits < 16 ^ digits.length := by
  induction digits using List.reverseRecOn with
  | nil => exact Nat.one_pos
  | append_singleton digits c ih =>
    rw [hexNumber_concat, List.length_append, List.length_singleton, Nat.pow_succ]
    have hDigit := hexValue_getD_lt c
    omega

namespace Group

def value (g : Group) : Nat := hexNumber g.digits

theorem value_lt (g : Group) : g.value < 2 ^ 16 :=
  calc g.value < 16 ^ g.digits.length := hexNumber_lt g.digits
    _ ≤ 16 ^ 4 := Nat.pow_le_pow_right (by decide) g.length_le

theorem not_mem_digits {c : Char} (hc : hexValue c = none) (g : Group) : c ∉ g.digits := by
  intro hMem
  have hSome := g.hex c hMem
  rw [hc] at hSome
  exact nomatch hSome

end Group

/-- What is written of an address with eight groups: the groups up to the run that is left out,
those behind it if there is one, and the octets that stand for the last two groups. A run that is
left out has one group at least. -/
structure IPv6 where
  front : List Group
  back : Option (List Group)
  last : Option IPv4
  fits : back.elim (front.length + 2 * last.toList.length = 8)
    fun back => front.length + back.length + 2 * last.toList.length ≤ 7

namespace IPv6

variable {s t : IPv6} {g : Group} {c : Char}

def lastText (s : IPv6) : List Text := s.last.toList.map IPv4.text

def text (s : IPv6) : Text :=
  match s.back with
  | none => [':'].intercalate (s.front.map Group.digits ++ s.lastText)
  | some back => [':'].intercalate (s.front.map Group.digits) ++
      ':' :: ':' :: [':'].intercalate (back.map Group.digits ++ s.lastText)

def frontGroups (s : IPv6) : List Nat := s.front.map Group.value

/-- The groups behind the run that is left out. -/
def backGroups (s : IPv6) : List Nat :=
  (s.back.getD []).map Group.value ++ s.last.toList.flatMap IPv4.groups

def groups (s : IPv6) : List Nat :=
  s.frontGroups ++
    List.replicate (8 - (s.frontGroups.length + s.backGroups.length)) 0 ++ s.backGroups

def value (s : IPv6) : Nat := Nat.ofDigits (2 ^ 16) s.groups.reverse

theorem exists_text_eq {front : List Group} (h : s.front = g :: front) :
    ∃ rest, s.text = g.digits ++ ':' :: rest := by
  rw [text]
  cases hBack : s.back with
  | none =>
    have hFits := s.fits
    rw [hBack, Option.elim_none, h] at hFits
    obtain ⟨next, rest, hMore⟩ : ∃ next rest,
        front.map Group.digits ++ s.lastText = next :: rest := by
      refine List.exists_cons_of_ne_nil fun hNil => ?_
      have hLength := congrArg List.length hNil
      simp only [lastText, List.length_append, List.length_map, List.length_nil] at hLength
      simp only [List.length_cons] at hFits
      omega
    simp only [h, List.map_cons, List.cons_append, hMore]
    exact ⟨_, Js.intercalate_cons_cons ':' g.digits next rest⟩
  | some back =>
    simp only [h, List.map_cons]
    cases hFront : front.map Group.digits with
    | nil => exact ⟨_, congrArg (· ++ _) List.intercalate_singleton⟩
    | cons next rest =>
      rw [Js.intercalate_cons_cons, List.append_assoc]
      exact ⟨_, rfl⟩

theorem text_eq_of_front_nil (h : s.front = []) : ∃ back, s.back = some back ∧
    s.text = ':' :: ':' :: [':'].intercalate (back.map Group.digits ++ s.lastText) := by
  have hFits := s.fits
  rw [text]
  cases hBack : s.back with
  | none =>
    rw [hBack, Option.elim_none, h] at hFits
    cases hLast : s.last <;> simp [hLast] at hFits
  | some back =>
    refine ⟨back, rfl, ?_⟩
    simp only [h]
    rfl

theorem colon_mem_text (s : IPv6) : ':' ∈ s.text := by
  cases hFront : s.front with
  | nil =>
    obtain ⟨back, -, hText⟩ := text_eq_of_front_nil hFront
    rw [hText]
    exact List.mem_cons_self
  | cons g front =>
    obtain ⟨rest, hText⟩ := exists_text_eq hFront
    rw [hText]
    simp

theorem mem_text (h : c ∈ s.text) : c = ':' ∨ c = '.' ∨ (hexValue c).isSome = true := by
  have hSide : ∀ groups : List Group,
      c ∈ [':'].intercalate (groups.map Group.digits ++ s.lastText) →
        c = ':' ∨ c = '.' ∨ (hexValue c).isSome = true := by
    intro groups hMem
    obtain rfl | ⟨piece, hPiece, hc⟩ := Js.mem_intercalate hMem
    · exact .inl rfl
    · rcases List.mem_append.mp hPiece with hGroup | hLast
      · obtain ⟨g, -, rfl⟩ := List.mem_map.mp hGroup
        exact .inr (.inr (g.hex c hc))
      · obtain ⟨ip, -, rfl⟩ := List.mem_map.mp hLast
        refine .inr ((IPv4.mem_text hc).imp_right fun hDigit => ?_)
        rw [hexValue, if_pos hDigit]
        rfl
  rw [text] at h
  cases hBack : s.back with
  | none =>
    rw [hBack] at h
    exact hSide _ h
  | some back =>
    simp only [hBack] at h
    rcases List.mem_append.mp h with hFront | hBehind
    · obtain rfl | ⟨piece, hPiece, hc⟩ := Js.mem_intercalate hFront
      · exact .inl rfl
      · obtain ⟨g, -, rfl⟩ := List.mem_map.mp hPiece
        exact .inr (.inr (g.hex c hc))
    · simp only [List.mem_cons] at hBehind
      rcases hBehind with rfl | rfl | hMore
      · exact .inl rfl
      · exact .inl rfl
      · exact hSide _ hMore

theorem length_backGroups (s : IPv6) :
    s.backGroups.length = (s.back.getD []).length + 2 * s.last.toList.length := by
  have hLast : (s.last.toList.flatMap IPv4.groups).length = 2 * s.last.toList.length := by
    cases s.last with
    | none => rfl
    | some ip => rfl
  rw [backGroups, List.length_append, List.length_map, hLast]

theorem length_le (s : IPv6) : s.frontGroups.length + s.backGroups.length ≤ 8 := by
  have hFits := s.fits
  rw [length_backGroups, frontGroups, List.length_map]
  cases hBack : s.back with
  | none =>
    rw [hBack] at hFits
    simp only [Option.elim_none] at hFits
    simp [hFits]
  | some back =>
    rw [hBack] at hFits
    simp only [Option.elim_some] at hFits
    simp only [Option.getD_some]
    omega

theorem length_groups (s : IPv6) : s.groups.length = 8 := by
  have hLe := s.length_le
  simp only [groups, List.length_append, List.length_replicate]
  omega

theorem lt_of_mem_groups {n : Nat} (h : n ∈ s.groups) : n < 2 ^ 16 := by
  simp only [groups, frontGroups, backGroups, List.mem_append, List.mem_map, List.mem_flatMap,
    List.mem_replicate] at h
  rcases h with (⟨g, -, rfl⟩ | ⟨-, rfl⟩) | ⟨g, -, rfl⟩ | ⟨ip, -, hn⟩
  · exact g.value_lt
  · decide
  · exact g.value_lt
  · exact IPv4.lt_of_mem_groups hn

theorem value_div {n : Nat} {rest : List Nat} (h : s.groups = n :: rest) :
    s.value / 2 ^ 112 = n := by
  have hLength : rest.length = 7 := by
    have hEight := s.length_groups
    rw [h, List.length_cons] at hEight
    omega
  have hRest : Nat.ofDigits (2 ^ 16) rest.reverse < 2 ^ 112 := by
    have hLt := @Nat.ofDigits_lt_base_pow_length (2 ^ 16) rest.reverse (by decide) fun m hm =>
      @lt_of_mem_groups s m (h ▸ List.mem_cons_of_mem n (List.mem_reverse.mp hm))
    rwa [List.length_reverse, hLength, ← Nat.pow_mul] at hLt
  rw [value, h, Nat.ofDigits_reverse_cons, hLength, ← Nat.pow_mul,
    Nat.add_mul_div_left _ _ (by decide), Nat.div_eq_of_lt hRest, Nat.zero_add]

/-- What a piece between colons stands for. -/
def pieceGroups (piece : Text) : List Nat :=
  match (piece.splitOn '.').map fun octet => Nat.ofDigitChars 10 octet 0 with
  | [a, b, c, d] => [a * 256 + b, c * 256 + d]
  | _ => [hexNumber piece]

def readGroups (text : Text) : List Nat :=
  let pieces := text.splitOn ':'
  let front := (pieces.takeWhile (· ≠ [])).flatMap pieceGroups
  let back := ((pieces.dropWhile (· ≠ [])).filter (· ≠ [])).flatMap pieceGroups
  front ++ List.replicate (8 - (front.length + back.length)) 0 ++ back

theorem pieceGroups_digits (g : Group) : pieceGroups g.digits = [g.value] := by
  rw [pieceGroups, List.splitOn_eq_singleton (g.not_mem_digits (by decide))]
  rfl

theorem pieceGroups_text (ip : IPv4) : pieceGroups ip.text = ip.groups := by
  simp only [pieceGroups, IPv4.splitOn_text, IPv4.octets, List.map_cons, List.map_nil,
    Nat.ofDigitChars_ten_toDigits]
  rfl

/-- The pieces between colons that are not empty. -/
def pieces (groups : List Group) (last : Option IPv4) : List Text :=
  groups.map Group.digits ++ last.toList.map IPv4.text

variable (groups : List Group) (last : Option IPv4)

theorem flatMap_pieceGroups :
    (pieces groups last).flatMap pieceGroups =
      groups.map Group.value ++ last.toList.flatMap IPv4.groups := by
  have hDigits : (groups.map Group.digits).flatMap pieceGroups = groups.map Group.value := by
    induction groups with
    | nil => rfl
    | cons g groups ih =>
      rw [List.map_cons, List.flatMap_cons, ih, pieceGroups_digits]
      rfl
  have hLast : (last.toList.map IPv4.text).flatMap pieceGroups =
      last.toList.flatMap IPv4.groups := by
    cases last with
    | none => rfl
    | some ip => simp [pieceGroups_text]
  rw [pieces, List.flatMap_append, hDigits, hLast]

theorem pieces_spec {groups : List Group} {last : Option IPv4} {piece : Text}
    (h : piece ∈ pieces groups last) : piece ≠ [] ∧ ':' ∉ piece := by
  rcases List.mem_append.mp h with hGroup | hLast
  · obtain ⟨g, -, rfl⟩ := List.mem_map.mp hGroup
    exact ⟨g.ne_nil, g.not_mem_digits (by decide)⟩
  · obtain ⟨ip, -, rfl⟩ := List.mem_map.mp hLast
    refine ⟨List.ne_nil_of_mem ip.dot_mem_text, fun hMem => ?_⟩
    rcases IPv4.mem_text hMem with hDot | hDigit
    · exact absurd hDot (by decide)
    · exact absurd hDigit (by decide)

def side (groups : List Group) (last : Option IPv4) : List Text :=
  if pieces groups last = [] then [[]] else pieces groups last

theorem splitOn_intercalate_pieces :
    ([':'].intercalate (pieces groups last)).splitOn ':' = side groups last := by
  rw [side]
  split_ifs with hNil
  · rw [hNil]
    rfl
  · exact List.splitOn_intercalate ':' (fun piece hPiece => (pieces_spec hPiece).2) hNil

theorem all_pieces : ∀ piece ∈ pieces groups last, decide (piece ≠ []) = true := fun _ hPiece =>
  decide_eq_true (pieces_spec hPiece).1

theorem takeWhile_side (rest : List Text) :
    (side groups last ++ [] :: rest).takeWhile (· ≠ []) = pieces groups last := by
  rw [side]
  split_ifs with hNil
  · rw [hNil]
    rfl
  · rw [List.takeWhile_append_of_pos (all_pieces groups last)]
    simp

theorem filter_dropWhile_side (rest : List Text) :
    ((side groups last ++ [] :: rest).dropWhile (· ≠ [])).filter (· ≠ []) =
      rest.filter (· ≠ []) := by
  rw [side]
  split_ifs with hNil
  · rfl
  · rw [List.dropWhile_append_of_pos (all_pieces groups last)]
    simp

theorem filter_side : (side groups last).filter (· ≠ []) = pieces groups last := by
  rw [side]
  split_ifs with hNil
  · rw [hNil]
    rfl
  · exact List.filter_eq_self.mpr (all_pieces groups last)

theorem pieces_ne_nil (h : s.back = none) : pieces s.front s.last ≠ [] := by
  have hFits := s.fits
  rw [h, Option.elim_none] at hFits
  intro hNil
  have hLength := congrArg List.length hNil
  simp only [pieces, List.length_append, List.length_map, List.length_nil] at hLength
  omega

theorem splitOn_text (s : IPv6) : s.text.splitOn ':' =
    s.back.elim (pieces s.front s.last) fun back =>
      side s.front none ++ [] :: side back s.last := by
  cases hBack : s.back with
  | none =>
    have hText : s.text = [':'].intercalate (pieces s.front s.last) := by
      rw [text, hBack]
      rfl
    rw [hText, splitOn_intercalate_pieces, side, if_neg (pieces_ne_nil hBack), Option.elim_none]
  | some back =>
    have hFront : [':'].intercalate (s.front.map Group.digits) =
        [':'].intercalate (pieces s.front none) := by
      rw [pieces, Option.toList_none, List.map_nil, List.append_nil]
    rw [text, hBack]
    simp only [hFront]
    rw [List.splitOn_append_cons_self, splitOn_intercalate_pieces, lastText, ← pieces,
      Option.elim_some]
    refine congrArg (side s.front none ++ ·) ?_
    exact (List.splitOn_append_cons_self [] _).trans
      (congrArg ([] :: ·) (splitOn_intercalate_pieces back s.last))

/-- An address is read back from every way to write it. -/
theorem readGroups_text (s : IPv6) : readGroups s.text = s.groups := by
  rw [readGroups, splitOn_text]
  cases hBack : s.back with
  | none =>
    have hFits := s.fits
    rw [hBack, Option.elim_none] at hFits
    have hTake : (pieces s.front s.last).takeWhile (· ≠ []) = pieces s.front s.last :=
      List.takeWhile_eq_self_iff.mpr (all_pieces s.front s.last)
    have hDrop : (pieces s.front s.last).dropWhile (· ≠ []) = [] :=
      List.dropWhile_eq_nil_iff.mpr (all_pieces s.front s.last)
    have hLast := s.length_backGroups
    simp only [backGroups, hBack, Option.getD_none, List.map_nil, List.nil_append,
      List.length_nil, Nat.zero_add] at hLast
    have hLength : (s.front.map Group.value ++ s.last.toList.flatMap IPv4.groups).length = 8 := by
      rw [List.length_append, List.length_map, hLast, hFits]
    simp only [Option.elim_none, hTake, hDrop, flatMap_pieceGroups, List.filter_nil,
      List.flatMap_nil, hLength, groups, frontGroups, backGroups, hBack, Option.getD_none,
      List.map_nil, List.nil_append]
    rw [← List.length_append, hLength]
    simp
  | some back =>
    simp only [Option.elim_some, takeWhile_side, filter_dropWhile_side, filter_side,
      flatMap_pieceGroups, groups, frontGroups, backGroups, hBack, Option.getD_some,
      Option.toList_none, List.flatMap_nil, List.append_nil]

end IPv6

end Net
