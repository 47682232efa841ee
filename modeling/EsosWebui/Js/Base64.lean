import EsosWebui.Js.Text

/-! Base64: the coding of bytes as text, and the tool that decodes it. -/
namespace Js

abbrev Bytes := List UInt8

def utf8 (text : Text) : Bytes := text.flatMap String.utf8EncodeChar

theorem utf8_injective {a b : Text} (h : utf8 a = utf8 b) : a = b := by
  have hBytes : (String.ofList a).toByteArray = (String.ofList b).toByteArray := by
    rw [String.toByteArray_ofList, String.toByteArray_ofList]
    exact congrArg List.toByteArray h
  rw [← String.toList_ofList (l := a), String.toByteArray_inj.mp hBytes, String.toList_ofList]

namespace Base64

def alphabet : Text := "ABCDEFGHIJKLMNOPQRSTUVWXYZabcdefghijklmnopqrstuvwxyz0123456789+/".toList

def toChar (digit : Nat) : Char := alphabet.getD digit '='

def ofChar (c : Char) : Option Nat := alphabet.idxOf? c

def byte (n : Nat) : UInt8 := UInt8.ofNat n

/-- `Buffer.from(bytes).toString('base64')` -/
def encode : Bytes → Text
  | [] => []
  | [a] => [toChar (a.toNat / 4), toChar (a.toNat % 4 * 16), '=', '=']
  | [a, b] =>
    [toChar (a.toNat / 4), toChar (a.toNat % 4 * 16 + b.toNat / 16),
      toChar (b.toNat % 16 * 4), '=']
  | a :: b :: c :: rest =>
    toChar (a.toNat / 4) :: toChar (a.toNat % 4 * 16 + b.toNat / 16) ::
      toChar (b.toNat % 16 * 4 + c.toNat / 64) :: toChar (c.toNat % 64) :: encode rest

def decodeGroups : Text → Bytes
  | w :: x :: y :: z :: rest =>
    match ofChar w, ofChar x, ofChar y, ofChar z with
    | some w, some x, some y, some z =>
      byte (w * 4 + x / 16) :: byte (x % 16 * 16 + y / 4) :: byte (y % 4 * 64 + z) ::
        decodeGroups rest
    | some w, some x, some y, none =>
      if z = '=' then [byte (w * 4 + x / 16), byte (x % 16 * 16 + y / 4)] else []
    | some w, some x, none, none =>
      if y = '=' ∧ z = '=' then [byte (w * 4 + x / 16)] else []
    | _, _, _, _ => []
  | _ => []

/-- What `base64 -d` prints, which skips line ends. -/
def decode (text : Text) : Bytes := decodeGroups (text.filter (· ≠ '\n'))

theorem ofChar_toChar {digit : Nat} (h : digit < 64) : ofChar (toChar digit) = some digit := by
  have hAll : ∀ digit ∈ List.range 64, ofChar (toChar digit) = some digit := by decide
  exact hAll digit (List.mem_range.mpr h)

theorem ofChar_padding : ofChar '=' = none := by decide

theorem toChar_mem (digit : Nat) : toChar digit ∈ '=' :: alphabet := by
  rw [toChar, List.getD_eq_getElem?_getD]
  cases hAt : alphabet[digit]? with
  | none => exact List.mem_cons_self
  | some c => exact List.mem_cons_of_mem _ (List.mem_of_getElem? hAt)

theorem byte_eq {n : Nat} {a : UInt8} (h : n = a.toNat) : byte n = a := by
  rw [byte, h, UInt8.ofNat_toNat]

theorem mem_of_mem_encode {bytes : Bytes} {c : Char} (h : c ∈ encode bytes) :
    c ∈ '=' :: alphabet := by
  induction bytes using encode.induct with
  | case1 => cases h
  | case2 a =>
    simp only [encode, List.mem_cons, List.not_mem_nil, or_false] at h
    rcases h with rfl | rfl | rfl | rfl
    all_goals first | exact toChar_mem _ | exact List.mem_cons_self
  | case3 a b =>
    simp only [encode, List.mem_cons, List.not_mem_nil, or_false] at h
    rcases h with rfl | rfl | rfl | rfl
    all_goals first | exact toChar_mem _ | exact List.mem_cons_self
  | case4 a b c rest ih =>
    rw [encode] at h
    simp only [List.mem_cons] at h
    rcases h with rfl | rfl | rfl | rfl | h
    · exact toChar_mem _
    · exact toChar_mem _
    · exact toChar_mem _
    · exact toChar_mem _
    · exact ih h

theorem newline_not_mem_encode (bytes : Bytes) : '\n' ∉ encode bytes := fun h =>
  absurd (mem_of_mem_encode h) (by decide)

theorem decodeGroups_encode (bytes : Bytes) : decodeGroups (encode bytes) = bytes := by
  have hByte (a : UInt8) : a.toNat < 256 := a.toNat_lt
  induction bytes using encode.induct with
  | case1 => rfl
  | case2 a =>
    have hA := hByte a
    have h1 := ofChar_toChar (show a.toNat / 4 < 64 by omega)
    have h2 := ofChar_toChar (show a.toNat % 4 * 16 < 64 by omega)
    simp only [encode, decodeGroups, h1, h2, ofChar_padding, and_self, if_true]
    rw [@byte_eq _ a (by omega)]
  | case3 a b =>
    have hA := hByte a
    have hB := hByte b
    have h1 := ofChar_toChar (show a.toNat / 4 < 64 by omega)
    have h2 := ofChar_toChar (show a.toNat % 4 * 16 + b.toNat / 16 < 64 by omega)
    have h3 := ofChar_toChar (show b.toNat % 16 * 4 < 64 by omega)
    simp only [encode, decodeGroups, h1, h2, h3, ofChar_padding, if_true]
    rw [@byte_eq _ a (by omega), @byte_eq _ b (by omega)]
  | case4 a b c rest ih =>
    have hA := hByte a
    have hB := hByte b
    have hC := hByte c
    have h1 := ofChar_toChar (show a.toNat / 4 < 64 by omega)
    have h2 := ofChar_toChar (show a.toNat % 4 * 16 + b.toNat / 16 < 64 by omega)
    have h3 := ofChar_toChar (show b.toNat % 16 * 4 + c.toNat / 64 < 64 by omega)
    have h4 := ofChar_toChar (show c.toNat % 64 < 64 by omega)
    simp only [encode, decodeGroups, h1, h2, h3, h4, ih]
    rw [@byte_eq _ a (by omega), @byte_eq _ b (by omega), @byte_eq _ c (by omega)]

theorem decode_encode_line (bytes : Bytes) : decode (encode bytes ++ ['\n']) = bytes := by
  have hKept : (encode bytes ++ ['\n']).filter (· ≠ '\n') = encode bytes := by
    rw [List.filter_append, List.filter_eq_self.mpr]
    · simp
    · intro c hc
      have hNe : c ≠ '\n' := fun h => newline_not_mem_encode bytes (h ▸ hc)
      simpa using hNe
  rw [decode, hKept, decodeGroups_encode]

end Base64

end Js
