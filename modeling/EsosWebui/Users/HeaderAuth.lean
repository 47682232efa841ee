import EsosWebui.Esos.GitHubReleases
import EsosWebui.Js.Strings
import EsosWebui.Net.Addresses

/-! Identity that a reverse proxy puts into headers: when it is believed, and, where no token is
shared with the proxy, from which peers. -/
namespace EsosWebui.Users

open Js Net
open Esos (partValue)

/-- `/^(?:25[0-5]|2[0-4]\d|1\d\d|[1-9]\d|\d)$/` -/
def isOctet (part : Text) : Bool :=
  isDigits part && (part.length = 1 || part.head? ≠ some '0') &&
    decide (Nat.ofDigitChars 10 part 0 ≤ 255)

/-- `isIP(text) === 4` -/
def isIPv4 (text : Text) : Bool :=
  let parts := text.splitOn '.'
  parts.length = 4 && parts.all isOctet

/-- `Number(p)`, if it is an integer from 0 to 255. -/
def octetOf (p : Text) : Option Nat :=
  match partValue p with
  | some (.int octet) => if octet < 0 ∨ 255 < octet then none else some octet.toNat
  | _ => none

/-- The number is kept modulo `2 ^ 32`, as `<<` and `>>>` do. -/
def ipv4ToInt (ip : Text) : Option Nat :=
  let parts := ip.splitOn '.'
  if parts.length ≠ 4 then none
  else parts.foldlM (fun n p => (octetOf p).map fun octet => (n * 256 + octet) % 2 ^ 32) 0

/-- `/^::ffff:(\d+\.\d+\.\d+\.\d+)$/i` -/
def mappedIPv4 (raw : Text) : Option Text :=
  let v4 := raw.drop 7
  let parts := v4.splitOn '.'
  if (raw.take 7).map Char.toLower = "::ffff:".toList ∧ parts.length = 4 ∧ parts.all isDigits then
    some v4
  else none

/-- `replace(/^\[|\]$/g, '')` -/
def stripBrackets (text : Text) : Text :=
  let text := if text.head? = some '[' then text.tail else text
  if text.getLast? = some ']' then text.dropLast else text

/-- The ranges that are decided by number. -/
def isPrivateIPv4 (v4 : Text) : Bool :=
  if !isIPv4 v4 then false
  else if v4 = "127.0.0.1".toList || startsWith v4 "127.".toList then true
  else
    (ipv4ToInt v4).any fun n =>
      let b0 := n / 2 ^ 24 % 256
      let b1 := n / 2 ^ 16 % 256
      b0 == 10 || (b0 == 172 && decide (16 ≤ b1) && decide (b1 ≤ 31)) ||
        (b0 == 192 && b1 == 168) || (b0 == 169 && b1 == 254)

def loopbackTexts : List Text := ["::1".toList, "0:0:0:0:0:0:0:1".toList]

def linkLocalStarts : List Text := ["fe80:".toList, "FE80:".toList]

def uniqueLocalStarts : List Text := [['f', 'c'], ['f', 'd'], ['F', 'C'], ['F', 'D']]

def isPrivateOrLoopbackIp (ip : Option Text) : Bool :=
  let raw := stripBrackets (trim (ip.getD []))
  if raw = [] then false
  else if raw ∈ loopbackTexts then true
  else if linkLocalStarts.any (startsWith raw) then true
  else if uniqueLocalStarts.any (startsWith raw) && decide (':' ∈ raw) then true
  else
    ((mappedIPv4 raw).or (if ':' ∈ raw then none else some raw)).any isPrivateIPv4

structure HeaderEvent where
  getRequestHeader : Text → Option Text
  /-- the peer of the connection -/
  getRequestIP : Option Text

structure HeaderConfig where
  enabled : Bool
  userHeader : Text
  tokenHeader : Text
  requireInternalToken : Bool

def headerUserFallbacks : List Text :=
  ["X-Remote-User".toList, "Remote-User".toList, "X-Forwarded-User".toList]

def header (event : HeaderEvent) (name : Text) : Option Text :=
  if trim name = [] then none
  else ((event.getRequestHeader (trim name)).map trim).filter (· ≠ [])

def firstHeader (event : HeaderEvent) (primary : Text) (fallbacks : List Text) : Option Text :=
  (header event primary).or
    ((fallbacks.filter fun name =>
      name.map Char.toLower ≠ (trim primary).map Char.toLower).findSome? (header event))

def envFlagTrue (env : Text → Option Text) (name : Text) : Bool :=
  (env name).any fun v => (trim v).map Char.toLower ∈
    ["1".toList, "true".toList, "yes".toList, "on".toList]

def envFlagFalse (env : Text → Option Text) (name : Text) : Bool :=
  (env name).any fun v => (trim v).map Char.toLower ∈
    ["0".toList, "false".toList, "no".toList, "off".toList]

def resolveHeaderAuthEnabled (env : Text → Option Text) (dbEnabled : Bool) : Bool :=
  if envFlagTrue env "AUTH_HEADER_ENABLED".toList then true
  else if envFlagFalse env "AUTH_HEADER_ENABLED".toList then false
  else dbEnabled

def resolveHeaderTrustWithoutToken (env : Text → Option Text) (dbRequireToken : Bool) : Bool :=
  if envFlagTrue env "AUTH_HEADER_TRUST_WITHOUT_TOKEN".toList then true
  else if envFlagFalse env "AUTH_HEADER_TRUST_WITHOUT_TOKEN".toList then false
  else !dbRequireToken

def isTrustedHeaderProxyPeer (event : HeaderEvent) : Bool :=
  isPrivateOrLoopbackIp event.getRequestIP

/-- The token that is configured, in the environment or in the database; it is empty if none is. -/
def expectedToken (env : Text → Option Text) (internalToken : Option Text) : Text :=
  (((env "AUTH_HEADER_INTERNAL_TOKEN".toList).map trim).filter (· ≠ [])).getD
    (trim (internalToken.getD []))

/-- Tokens are compared by `digest`. -/
def verifyHeaderAuthTrust {δ : Type} [DecidableEq δ] (digest : Text → δ) (env : Text → Option Text)
    (event : HeaderEvent) (cfg : HeaderConfig) (internalToken : Option Text) : Bool :=
  let expected := expectedToken env internalToken
  if expected ≠ [] then
    (header event cfg.tokenHeader).any fun presented => digest presented = digest expected
  else if !resolveHeaderTrustWithoutToken env cfg.requireInternalToken then false
  else if !resolveHeaderAuthEnabled env cfg.enabled then false
  else if !isTrustedHeaderProxyPeer event then false
  else (firstHeader event cfg.userHeader headerUserFallbacks).isSome

/-- 127.0.0.0/8, 10.0.0.0/8, 172.16.0.0/12, 192.168.0.0/16 and 169.254.0.0/16 -/
def IsPrivate4 (address : Nat) : Prop :=
  InPrefix 32 (127 * 2 ^ 24) 8 address ∨ InPrefix 32 (10 * 2 ^ 24) 8 address ∨
    InPrefix 32 (172 * 2 ^ 24 + 16 * 2 ^ 16) 12 address ∨
    InPrefix 32 (192 * 2 ^ 24 + 168 * 2 ^ 16) 16 address ∨
    InPrefix 32 (169 * 2 ^ 24 + 254 * 2 ^ 16) 16 address

/-- fe80::/10 -/
def IsLinkLocal (address : Nat) : Prop := InPrefix 128 (0xfe80 * 2 ^ 112) 10 address

/-- fc00::/7 -/
def IsUniqueLocal (address : Nat) : Prop := InPrefix 128 (0xfc00 * 2 ^ 112) 7 address

/-- An address of ::ffff:0:0/96 stands for the one in its last 32 bits. -/
def IsMappedPrivate (address : Nat) : Prop :=
  InPrefix 128 (0xffff * 2 ^ 32) 96 address ∧ IsPrivate4 (address % 2 ^ 32)

/-- ::1, fe80::/10, fc00::/7, or mapped to a private address -/
def IsPrivate6 (address : Nat) : Prop :=
  address = 1 ∨ IsLinkLocal address ∨ IsUniqueLocal address ∨ IsMappedPrivate address

/-- An address as it is written. -/
inductive Spelling where
  | ipv4 (ip : IPv4)
  | ipv6 (ip : IPv6)

def Spelling.text : Spelling → Text
  | ipv4 ip => ip.text
  | ipv6 ip => ip.text

def Spelling.IsPrivate : Spelling → Prop
  | ipv4 ip => IsPrivate4 ip.value
  | ipv6 ip => IsPrivate6 ip.value

section

variable {part : Text} {ip : IPv4}

theorem partValue_of_isDigits (h : isDigits part) :
    partValue part = some (Number.parseInt part) := by
  have hWord := isWord_of_isDigits h
  have hAll : ∀ c ∈ part, c.isDigit = true := by
    rw [isDigits, Bool.and_eq_true, List.all_eq_true] at h
    exact h.2
  have hHead : part.head? ≠ some '+' := fun hPlus =>
    absurd (hAll '+' (List.mem_of_mem_head? hPlus)) (by decide)
  have hNotInfinity : part ≠ "Infinity".toList := by
    rintro rfl
    exact absurd (hAll 'I' (by decide)) (by decide)
  have hTake : part.takeWhile Char.isDigit = part := List.takeWhile_eq_self_iff.mpr hAll
  have hDrop : part.dropWhile Char.isDigit = [] := List.dropWhile_eq_nil_iff.mpr hAll
  have hNe : part.isEmpty = false := by simpa using hWord.ne_nil
  rw [partValue, hWord.trim_eq]
  simp only [hNe, if_neg hHead, hNotInfinity, hTake, hDrop, Bool.false_eq_true, if_false]

theorem octet_spec : ∀ n : Fin 256, isOctet (Nat.toDigits 10 n) = true := by
  decide +kernel

theorem isDigits_toDigits (n : Nat) : isDigits (Nat.toDigits 10 n) :=
  Number.isDigits_toDigits n

theorem octetOf_toDigits (n : Fin 256) : octetOf (Nat.toDigits 10 n) = some (n : Nat) := by
  have hLt : (n : Nat) < 2 ^ doubleBits := n.isLt.trans (by decide)
  rw [octetOf, partValue_of_isDigits (isDigits_toDigits n), Number.parseInt,
    Nat.ofDigitChars_ten_toDigits, Number.ofNat_of_lt hLt]
  have hFits : ¬ ((n : Int) < 0 ∨ 255 < (n : Int)) := by omega
  simp only [if_neg hFits, Int.toNat_natCast]

theorem isIPv4_text (ip : IPv4) : isIPv4 ip.text := by
  simp [isIPv4, IPv4.splitOn_text, IPv4.octets, octet_spec]

theorem ipv4ToInt_text (ip : IPv4) : ipv4ToInt ip.text = some ip.value := by
  simp only [ipv4ToInt, IPv4.splitOn_text, IPv4.octets, List.map_cons, List.map_nil,
    List.length_cons, List.length_nil, ne_eq, not_true_eq_false, if_false, List.foldlM_cons,
    List.foldlM_nil, octetOf_toDigits, Option.map_some, Option.bind_eq_bind, Option.bind_some,
    Option.pure_def, Option.some.injEq, IPv4.value]
  omega

theorem startsWith_loopback_iff : startsWith ip.text "127.".toList = true ↔ (ip.a : Nat) = 127 := by
  have hStart : "127.".toList = Nat.toDigits 10 127 ++ ['.'] := rfl
  have hNoDot : ∀ n : Nat, '.' ∉ Nat.toDigits 10 n := fun n hDot =>
    absurd (IPv4.isDigit_of_mem_toDigits hDot) (by decide)
  rw [startsWith_iff, hStart, IPv4.text_eq]
  constructor
  · rintro ⟨rest, hRest⟩
    rw [List.append_assoc] at hRest
    have hFirst := (eq_of_append_cons_eq (hNoDot 127) (hNoDot ip.a) hRest).1
    have hValue := congrArg (Nat.ofDigitChars 10 · 0) hFirst
    simp only [Nat.ofDigitChars_ten_toDigits] at hValue
    exact hValue.symm
  · intro ha
    rw [ha]
    exact (List.prefix_append_right_inj _).mpr ⟨_, rfl⟩

theorem isPrivateIPv4_text (ip : IPv4) : isPrivateIPv4 ip.text = true ↔ IsPrivate4 ip.value := by
  have hLoopback : (ip.text = "127.0.0.1".toList ∨ (ip.a : Nat) = 127) ↔ (ip.a : Nat) = 127 := by
    refine or_iff_right_of_imp fun hText => ?_
    rw [← startsWith_loopback_iff, hText]
    decide
  have hFirst : ip.value / 2 ^ 24 % 256 = ip.a := by
    rw [IPv4.value]
    omega
  have hSecond : ip.value / 2 ^ 16 % 256 = ip.b := by
    rw [IPv4.value]
    omega
  simp only [isPrivateIPv4, isIPv4_text, ipv4ToInt_text, Bool.not_true, Bool.false_eq_true,
    if_false, Bool.or_eq_true, decide_eq_true_eq, startsWith_loopback_iff,
    Option.any_some, hFirst, hSecond, hLoopback]
  simp only [IsPrivate4, InPrefix, IPv4.value]
  split_ifs with ha
  · refine iff_of_true rfl (.inl ?_)
    omega
  · simp only [Bool.or_eq_true, Bool.and_eq_true, beq_iff_eq, decide_eq_true_eq]
    omega

end

section

variable {ip : IPv6} {v4 : IPv4} {g : Group} {t : Text}

theorem stripBrackets_trim (h : ∀ c ∈ t, isSpace c = false ∧ c ≠ '[' ∧ c ≠ ']') :
    stripBrackets (trim t) = t := by
  have hTrim : trim t = t := trim_eq_self (fun c hc => (h c (List.mem_of_mem_head? hc)).1)
    fun c hc => (h c (List.mem_of_mem_getLast? hc)).1
  have hHead : t.head? ≠ some '[' := fun hc => (h _ (List.mem_of_mem_head? hc)).2.1 rfl
  have hLast : t.getLast? ≠ some ']' := fun hc => (h _ (List.mem_of_mem_getLast? hc)).2.2 rfl
  simp only [stripBrackets, hTrim, if_neg hHead, if_neg hLast]

theorem mem_of_hexValue {c : Char} (h : (Json.hexValue c).isSome) :
    isSpace c = false ∧ c ≠ '[' ∧ c ≠ ']' := by
  refine ⟨?_, ?_, ?_⟩
  · apply IsGraphic.isSpace
    rw [Json.hexValue] at h
    split_ifs at h with hDigit hLower hUpper
    · exact isGraphic_of_isAlphanum (by simp [Char.isAlphanum, hDigit])
    · exact ⟨le_trans (by decide) hLower.1, le_trans hLower.2 (by decide)⟩
    · exact ⟨le_trans (by decide) hUpper.1, le_trans hUpper.2 (by decide)⟩
    · cases h
  · rintro rfl
    exact absurd h (by decide)
  · rintro rfl
    exact absurd h (by decide)

theorem raw_ipv6 (ip : IPv6) : stripBrackets (trim ip.text) = ip.text := by
  apply stripBrackets_trim
  intro c hc
  rcases IPv6.mem_text hc with rfl | rfl | hHex
  · decide
  · decide
  · exact mem_of_hexValue hHex

theorem raw_ipv4 (ip : IPv4) : stripBrackets (trim ip.text) = ip.text := by
  apply stripBrackets_trim
  intro c hc
  rcases IPv4.mem_text hc with rfl | hDigit
  · decide
  · apply mem_of_hexValue
    rw [Json.hexValue, if_pos hDigit]
    rfl

def firstGroup (ip : IPv6) : Option Text := ip.front.head?.map Group.digits

def StartsLinkLocal (ip : IPv6) : Prop :=
  ∃ digits ∈ firstGroup ip, digits = "fe80".toList ∨ digits = "FE80".toList

def StartsUniqueLocal (ip : IPv6) : Prop :=
  ∃ digits ∈ firstGroup ip, uniqueLocalStarts.any (startsWith digits) = true

/-- Behind zeros that are left out comes one group, and then octets. -/
def WritesOctets (ip : IPv6) (g : Group) (v4 : IPv4) : Prop :=
  ip.front = [] ∧ ip.back = some [g] ∧ ip.last = some v4

theorem prefix_text_iff {start : Text} (hColon : ':' ∉ start) (hNe : start ≠ []) :
    start <+: ip.text ↔ ∃ digits ∈ firstGroup ip, start <+: digits := by
  obtain ⟨c, start, rfl⟩ := List.exists_cons_of_ne_nil hNe
  cases hFront : ip.front with
  | nil =>
    obtain ⟨back, -, hText⟩ := IPv6.text_eq_of_front_nil hFront
    simp only [firstGroup, hFront, hText, List.head?_nil, Option.map_none, Option.mem_def,
      List.cons_prefix_cons]
    refine iff_of_false (fun h => hColon ?_) (by simp)
    rw [h.1]
    exact List.mem_cons_self
  | cons g front =>
    obtain ⟨rest, hText⟩ := IPv6.exists_text_eq hFront
    simp only [firstGroup, hFront, List.head?_cons, Option.map_some, Option.mem_def,
      Option.some.injEq, exists_eq_left']
    rw [hText]
    exact ⟨prefix_of_prefix_append_cons hColon, fun h => h.trans (List.prefix_append _ _)⟩

theorem prefix_colon_text_iff {start : Text} (hColon : ':' ∉ start) (hNe : start ≠ []) :
    start ++ [':'] <+: ip.text ↔ firstGroup ip = some start := by
  obtain ⟨c, start, rfl⟩ := List.exists_cons_of_ne_nil hNe
  cases hFront : ip.front with
  | nil =>
    obtain ⟨back, -, hText⟩ := IPv6.text_eq_of_front_nil hFront
    rw [firstGroup, hFront, hText, List.cons_append, List.cons_prefix_cons]
    refine iff_of_false (fun h => hColon ?_) nofun
    rw [h.1]
    exact List.mem_cons_self
  | cons g front =>
    obtain ⟨rest, hText⟩ := IPv6.exists_text_eq hFront
    rw [firstGroup, hFront, hText, List.head?_cons, Option.map_some, Option.some.injEq]
    constructor
    · rintro ⟨more, hMore⟩
      rw [List.append_assoc] at hMore
      exact (eq_of_append_cons_eq hColon (g.not_mem_digits (by decide))
        hMore).1.symm
    · rintro hDigits
      rw [hDigits]
      exact (List.prefix_append_right_inj _).mpr ⟨rest, rfl⟩

theorem linkLocalStarts_iff :
    linkLocalStarts.any (startsWith ip.text) = true ↔ StartsLinkLocal ip := by
  have hLower : "fe80:".toList = "fe80".toList ++ [':'] := rfl
  have hUpper : "FE80:".toList = "FE80".toList ++ [':'] := rfl
  rw [linkLocalStarts, List.any_cons, List.any_cons, List.any_nil, Bool.or_false,
    Bool.or_eq_true, startsWith_iff, startsWith_iff, hLower, hUpper,
    prefix_colon_text_iff (by decide) (by decide), prefix_colon_text_iff (by decide) (by decide),
    StartsLinkLocal]
  simp only [Option.mem_def, and_or_left, exists_or, exists_eq_right]

theorem uniqueLocalStarts_iff :
    (uniqueLocalStarts.any (startsWith ip.text) && decide (':' ∈ ip.text)) = true ↔
      StartsUniqueLocal ip := by
  have hStarts : ∀ start ∈ uniqueLocalStarts, ':' ∉ start ∧ start ≠ [] := by decide
  rw [decide_eq_true ip.colon_mem_text, Bool.and_true, StartsUniqueLocal]
  simp only [List.any_eq_true, startsWith_iff]
  constructor
  · rintro ⟨start, hStart, hPrefix⟩
    obtain ⟨hColon, hNe⟩ := hStarts start hStart
    obtain ⟨digits, hDigits, hThere⟩ := (prefix_text_iff hColon hNe).mp hPrefix
    exact ⟨digits, hDigits, start, hStart, hThere⟩
  · rintro ⟨digits, hDigits, start, hStart, hThere⟩
    obtain ⟨hColon, hNe⟩ := hStarts start hStart
    exact ⟨start, hStart, (prefix_text_iff hColon hNe).mpr ⟨digits, hDigits, hThere⟩⟩

theorem mappedIPv4_eq_some {raw : Text} (h : mappedIPv4 raw = some t) :
    ∃ digits : Text, digits.map Char.toLower = "ffff".toList ∧
      raw.splitOn ':' = [[], [], digits, t] ∧ '.' ∈ t := by
  have hStartText : "::ffff:".toList = ':' :: ':' :: ("ffff".toList ++ [':']) := rfl
  rw [mappedIPv4, hStartText] at h
  split_ifs at h with hMapped
  obtain ⟨hStart, hParts, hDigits⟩ := hMapped
  obtain rfl := Option.some.inj h
  have hSplit := List.take_append_drop 7 raw
  generalize raw.drop 7 = v4 at *
  obtain ⟨c₁, start, hTake, hFirst, hStart⟩ := List.map_eq_cons_iff.mp hStart
  obtain ⟨c₂, start, rfl, hSecond, hStart⟩ := List.map_eq_cons_iff.mp hStart
  obtain ⟨digits, last, rfl, hLetters, hLast⟩ := List.map_eq_append_iff.mp hStart
  obtain ⟨c₃, rest, rfl, hThird, hRest⟩ := List.map_eq_cons_iff.mp hLast
  obtain rfl := List.map_eq_nil_iff.mp hRest
  obtain rfl := eq_of_toLower_eq hFirst (by decide)
  obtain rfl := eq_of_toLower_eq hSecond (by decide)
  obtain rfl := eq_of_toLower_eq hThird (by decide)
  have hColon : ':' ∉ digits := fun hMem => by
    have hLower : Char.toLower ':' ∈ "ffff".toList := hLetters ▸ List.mem_map_of_mem hMem
    exact absurd hLower (by decide)
  have hDot : '.' ∈ v4 := by
    by_contra hNone
    rw [List.splitOn_eq_singleton hNone] at hParts
    exact absurd hParts (by simp)
  have hNoColon : ':' ∉ v4 := fun hMem => by
    rcases mem_splitOn_or '.' hMem with hEq | ⟨part, hPart, hc⟩
    · exact absurd hEq (by decide)
    · have hPartDigits := List.all_eq_true.mp hDigits part hPart
      rw [isDigits, Bool.and_eq_true, List.all_eq_true] at hPartDigits
      exact absurd (hPartDigits.2 ':' hc) (by decide)
  refine ⟨digits, hLetters, ?_, hDot⟩
  have hRaw : raw = [] ++ ':' :: ([] ++ ':' :: (digits ++ ':' :: v4)) := by
    rw [← hSplit, hTake]
    simp
  rw [hRaw, List.splitOn_append_cons_self, List.splitOn_append_cons_self,
    List.splitOn_append_cons_self_of_not_mem hColon, List.splitOn_eq_singleton hNoColon,
    List.splitOn_nil]
  rfl

theorem hexValue_eq_fifteen_iff {c : Char} : (Json.hexValue c).getD 0 = 15 ↔ c.toLower = 'f' := by
  constructor
  · intro h
    rw [Json.hexValue] at h
    split_ifs at h with hDigit hLower hUpper
    · have hLe : c.toNat ≤ 57 := by
        simp only [Char.isDigit, Bool.and_eq_true, decide_eq_true_eq] at hDigit
        exact hDigit.2
      simp only [Option.getD_some, Char.reduceToNat] at h
      omega
    · have hLe : 97 ≤ c.toNat := hLower.1
      simp only [Option.getD_some, Char.reduceToNat] at h
      obtain rfl : c = 'f' := Char.toNat_inj.mp (by simp only [Char.reduceToNat]; omega)
      rfl
    · have hLe : 65 ≤ c.toNat := hUpper.1
      simp only [Option.getD_some, Char.reduceToNat] at h
      obtain rfl : c = 'F' := Char.toNat_inj.mp (by simp only [Char.reduceToNat]; omega)
      rfl
    · exact absurd h (by decide)
  · intro h
    by_cases hUpper : c.isUpper = true
    · have hc : c.val ≥ 'A'.val ∧ c.val ≤ 'Z'.val := of_decide_eq_true hUpper
      unfold Char.toLower at h
      rw [dif_pos hc] at h
      have hVal := congrArg Char.val h
      have hEq : c.val + 32 = 102 := hVal
      have hNat := congrArg UInt32.toNat hEq
      have hHigh : c.val.toNat ≤ 90 := hc.2
      have hSmall : (32 : UInt32).toNat = 32 := rfl
      have hSum : (102 : UInt32).toNat = 102 := rfl
      rw [UInt32.toNat_add, hSmall, hSum] at hNat
      obtain rfl : c = 'F' := Char.toNat_inj.mp (show c.val.toNat = 70 by omega)
      rfl
    · rw [toLower_of_not_isUpper hUpper] at h
      rw [h]
      rfl

theorem exists_four_digits (h : g.digits.length = 4) :
    ∃ a b c d, g.digits = [a, b, c, d] := by
  rcases hDigits : g.digits with _ | ⟨a, _ | ⟨b, _ | ⟨c, _ | ⟨d, _ | ⟨e, rest⟩⟩⟩⟩⟩
  case cons.cons.cons.cons.nil => exact ⟨a, b, c, d, rfl⟩
  all_goals
    rw [hDigits] at h
    simp at h

theorem hexNumber_four (a b c d : Char) : hexNumber [a, b, c, d] =
    (((Json.hexValue a).getD 0 * 16 + (Json.hexValue b).getD 0) * 16 +
      (Json.hexValue c).getD 0) * 16 + (Json.hexValue d).getD 0 := by
  simp [hexNumber]

/-- The highest group is written with four letters. -/
theorem value_eq_highest_iff : g.value = 0xffff ↔ g.digits.map Char.toLower = "ffff".toList := by
  have hLetters : "ffff".toList = ['f', 'f', 'f', 'f'] := rfl
  by_cases hFour : g.digits.length = 4
  · obtain ⟨a, b, c, d, hDigits⟩ := exists_four_digits hFour
    have ha := hexValue_getD_lt a
    have hb := hexValue_getD_lt b
    have hc := hexValue_getD_lt c
    have hd := hexValue_getD_lt d
    rw [Group.value, hDigits, hexNumber_four, hLetters]
    simp only [List.map_cons, List.map_nil, List.cons.injEq, and_true, ← hexValue_eq_fifteen_iff]
    omega
  · refine iff_of_false (fun hValue => ?_) fun hMap => hFour ?_
    · have hLt := hexNumber_lt g.digits
      have hLe := g.length_le
      have hPow : 16 ^ g.digits.length ≤ 16 ^ 3 := Nat.pow_le_pow_right (by decide) (by omega)
      rw [Group.value] at hValue
      omega
    · have hLength := congrArg List.length hMap
      rwa [List.length_map, hLetters] at hLength

theorem pieces_eq_pair {back : List Group} {last : Option IPv4} {digits : Text} (hDot : '.' ∈ t)
    (h : IPv6.pieces back last = [digits, t]) :
    ∃ g v4, back = [g] ∧ last = some v4 ∧ g.digits = digits ∧ t = v4.text := by
  cases last with
  | none =>
    rw [IPv6.pieces, Option.toList_none, List.map_nil, List.append_nil] at h
    have hMem : t ∈ back.map Group.digits := h ▸ List.mem_cons_of_mem _ List.mem_cons_self
    obtain ⟨g, -, rfl⟩ := List.mem_map.mp hMem
    exact absurd hDot (g.not_mem_digits (by decide))
  | some v4 =>
    have hSplit : back.map Group.digits ++ [v4.text] = [digits] ++ [t] := h
    obtain ⟨hGroups, hText⟩ := List.append_inj' hSplit rfl
    obtain ⟨g, rest, rfl, hDigits, hRest⟩ := List.map_eq_cons_iff.mp hGroups
    obtain rfl := List.map_eq_nil_iff.mp hRest
    exact ⟨g, v4, rfl, rfl, hDigits, (List.cons.inj hText).1.symm⟩

theorem mappedIPv4_text_iff : mappedIPv4 ip.text = some t ↔
    ∃ g v4, WritesOctets ip g v4 ∧ g.value = 0xffff ∧ t = v4.text := by
  constructor
  · intro h
    obtain ⟨digits, hLetters, hPieces, hDot⟩ := mappedIPv4_eq_some h
    rw [IPv6.splitOn_text] at hPieces
    cases hBack : ip.back with
    | none =>
      rw [hBack, Option.elim_none] at hPieces
      have hNil : [] ∈ IPv6.pieces ip.front ip.last := hPieces ▸ List.mem_cons_self
      exact absurd rfl (IPv6.pieces_spec hNil).1
    | some back =>
      rw [hBack, Option.elim_some] at hPieces
      by_cases hFront : IPv6.pieces ip.front none = []
      · rw [IPv6.side, if_pos hFront] at hPieces
        have hBehind : IPv6.side back ip.last = [digits, t] :=
          (List.cons.inj (List.cons.inj hPieces).2).2
        rw [IPv6.side] at hBehind
        split_ifs at hBehind with hNone
        · exact absurd (congrArg List.length hBehind) (by simp)
        · have hNoGroup : ip.front = [] := by
            rw [IPv6.pieces, Option.toList_none, List.map_nil, List.append_nil] at hFront
            exact List.map_eq_nil_iff.mp hFront
          obtain ⟨g, v4, rfl, hLast, rfl, rfl⟩ := pieces_eq_pair hDot hBehind
          exact ⟨g, v4, ⟨hNoGroup, hBack, hLast⟩, value_eq_highest_iff.mpr hLetters, rfl⟩
      · obtain ⟨piece, rest, hPiece⟩ := List.exists_cons_of_ne_nil hFront
        have hMem : piece ∈ IPv6.pieces ip.front none := hPiece ▸ List.mem_cons_self
        rw [IPv6.side, if_neg hFront, hPiece] at hPieces
        exact absurd (List.cons.inj hPieces).1 (IPv6.pieces_spec hMem).1
  · rintro ⟨g, v4, ⟨hFront, hBack, hLast⟩, hValue, rfl⟩
    have hLetters := value_eq_highest_iff.mp hValue
    have hLength : g.digits.length = 4 := by
      have hMapped := congrArg List.length hLetters
      rwa [List.length_map] at hMapped
    obtain ⟨back, hSome, hText⟩ := IPv6.text_eq_of_front_nil hFront
    obtain rfl : [g] = back := Option.some.inj (hBack.symm.trans hSome)
    have hPair : ip.text = (':' :: ':' :: (g.digits ++ [':'])) ++ v4.text := by
      rw [hText, IPv6.lastText, hLast]
      simp only [Option.toList_some, List.map_cons, List.map_nil, List.nil_append,
        List.cons_append]
      rw [intercalate_cons_cons, List.intercalate_singleton, List.append_assoc]
      rfl
    have hSeven : (':' :: ':' :: (g.digits ++ [':'])).length = 7 := by simp [hLength]
    rw [mappedIPv4, hPair, List.take_left' hSeven, List.drop_left' hSeven, if_pos]
    refine ⟨?_, by rw [IPv4.splitOn_text]; rfl, ?_⟩
    · rw [List.map_cons, List.map_cons, List.map_append, hLetters]
      rfl
    · rw [IPv4.splitOn_text, List.all_eq_true]
      intro part hPart
      obtain ⟨n, -, rfl⟩ := List.mem_map.mp hPart
      exact isDigits_toDigits n

theorem value_of_writesOctets (h : WritesOctets ip g v4) :
    ip.value = g.value * 2 ^ 32 + v4.value := by
  obtain ⟨hFront, hBack, hLast⟩ := h
  have hGroups : ip.groups =
      [0, 0, 0, 0, 0, g.value, v4.a * 256 + v4.b, v4.c * 256 + v4.d] := by
    simp only [IPv6.groups, IPv6.frontGroups, IPv6.backGroups, hFront, hBack, hLast]
    rfl
  rw [IPv6.value, hGroups]
  simp only [List.reverse_cons, List.reverse_nil, List.nil_append, List.cons_append,
    Nat.ofDigits_cons, Nat.ofDigits_nil, IPv4.value]
  omega

theorem value_of_loopbackText (h : ip.text ∈ loopbackTexts) : ip.value = 1 := by
  have hRead : ∀ text ∈ loopbackTexts, IPv6.readGroups text = [0, 0, 0, 0, 0, 0, 0, 1] := by
    decide
  rw [IPv6.value, ← IPv6.readGroups_text, hRead ip.text h]
  rfl

theorem value_div_of_firstGroup {digits : Text} (h : firstGroup ip = some digits) :
    ip.value / 2 ^ 112 = hexNumber digits := by
  rw [firstGroup, Option.map_eq_some_iff] at h
  obtain ⟨g, hHead, rfl⟩ := h
  obtain ⟨front, hFront⟩ := List.head?_eq_some_iff.mp hHead
  apply IPv6.value_div
  rw [IPv6.groups, IPv6.frontGroups, hFront]
  rfl

theorem isLinkLocal_of_starts (h : StartsLinkLocal ip) : IsLinkLocal ip.value := by
  obtain ⟨digits, hFirst, hDigits⟩ := h
  have hValue := value_div_of_firstGroup hFirst
  have hNumber : hexNumber digits = 0xfe80 := by
    rcases hDigits with rfl | rfl <;> decide
  rw [IsLinkLocal, InPrefix]
  omega

theorem exists_of_uniqueLocalStarts {digits : Text}
    (h : uniqueLocalStarts.any (startsWith digits)) :
    ∃ c d more, digits = c :: d :: more ∧ (Json.hexValue c).getD 0 = 15 ∧
      12 ≤ (Json.hexValue d).getD 0 ∧ (Json.hexValue d).getD 0 ≤ 13 := by
  obtain ⟨start, hStart, hPrefix⟩ := List.any_eq_true.mp h
  obtain ⟨more, rfl⟩ := startsWith_iff.mp hPrefix
  have hCases : ∀ start ∈ uniqueLocalStarts, ∃ c d, start = [c, d] ∧
      (Json.hexValue c).getD 0 = 15 ∧ 12 ≤ (Json.hexValue d).getD 0 ∧
        (Json.hexValue d).getD 0 ≤ 13 := by
    simp only [uniqueLocalStarts, List.forall_mem_cons]
    exact ⟨⟨_, _, rfl, by decide⟩, ⟨_, _, rfl, by decide⟩, ⟨_, _, rfl, by decide⟩,
      ⟨_, _, rfl, by decide⟩, nofun⟩
  obtain ⟨c, d, rfl, hc, hd⟩ := hCases start hStart
  exact ⟨c, d, more, rfl, hc, hd⟩

theorem hexNumber_of_uniqueLocalStarts (g : Group)
    (h : uniqueLocalStarts.any (startsWith g.digits)) :
    if g.digits.length = 4 then g.value / 2 ^ 9 = 126 else 0 < g.value ∧ g.value < 4096 := by
  obtain ⟨c, d, more, hDigits, hc, hLow, hHigh⟩ := exists_of_uniqueLocalStarts h
  have hLength := g.length_le
  rw [hDigits] at hLength
  rw [Group.value, hDigits]
  rcases more with _ | ⟨x, _ | ⟨y, _ | ⟨z, more⟩⟩⟩
  · simp only [hexNumber, List.foldl_cons, List.foldl_nil, List.length_cons, List.length_nil]
    rw [if_neg (by decide)]
    omega
  · have hx := hexValue_getD_lt x
    simp only [hexNumber, List.foldl_cons, List.foldl_nil, List.length_cons, List.length_nil]
    rw [if_neg (by decide)]
    omega
  · have hx := hexValue_getD_lt x
    have hy := hexValue_getD_lt y
    have hFour : [c, d, x, y].length = 4 := rfl
    rw [hexNumber_four, if_pos hFour]
    omega
  · simp only [List.length_cons] at hLength
    omega

end

variable {ip : IPv6}

/-- What the code answers for the way in which an address is written. -/
theorem isPrivateOrLoopbackIp_ipv6 (ip : IPv6) : isPrivateOrLoopbackIp (some ip.text) = true ↔
    ip.text ∈ loopbackTexts ∨ StartsLinkLocal ip ∨ StartsUniqueLocal ip ∨
      ∃ g v4, WritesOctets ip g v4 ∧ g.value = 0xffff ∧ IsPrivate4 v4.value := by
  have hNe : ip.text ≠ [] := List.ne_nil_of_mem ip.colon_mem_text
  have hMapped : (mappedIPv4 ip.text).any isPrivateIPv4 = true ↔
      ∃ g v4, WritesOctets ip g v4 ∧ g.value = 0xffff ∧ IsPrivate4 v4.value := by
    rw [Option.any_eq_true]
    constructor
    · rintro ⟨t, hSome, hPrivate⟩
      obtain ⟨g, v4, hWrites, hValue, rfl⟩ := mappedIPv4_text_iff.mp hSome
      exact ⟨g, v4, hWrites, hValue, (isPrivateIPv4_text v4).mp hPrivate⟩
    · rintro ⟨g, v4, hWrites, hValue, hPrivate⟩
      exact ⟨v4.text, mappedIPv4_text_iff.mpr ⟨g, v4, hWrites, hValue, rfl⟩,
        (isPrivateIPv4_text v4).mpr hPrivate⟩
  rw [← hMapped, ← linkLocalStarts_iff, ← uniqueLocalStarts_iff]
  simp only [isPrivateOrLoopbackIp, Option.getD_some, raw_ipv6, if_neg hNe,
    if_pos ip.colon_mem_text, Option.or_none]
  split_ifs with hLoopback hLink hUnique
  · exact iff_of_true rfl (.inl hLoopback)
  · exact iff_of_true rfl (.inr (.inl hLink))
  · exact iff_of_true rfl (.inr (.inr (.inl hUnique)))
  · rw [or_iff_right hLoopback, or_iff_right hLink, or_iff_right hUnique]

theorem isPrivateOrLoopbackIp_ipv4 (v4 : IPv4) :
    isPrivateOrLoopbackIp (some v4.text) = true ↔ IsPrivate4 v4.value := by
  have hNoColon : ':' ∉ v4.text := fun hMem => by
    rcases IPv4.mem_text hMem with hDot | hDigit
    · exact absurd hDot (by decide)
    · exact absurd hDigit (by decide)
  have hFirst : ∀ starts : List Text, (∀ start ∈ starts, ':' ∈ start) →
      starts.any (startsWith v4.text) = false := by
    intro starts hColons
    rw [List.any_eq_false]
    intro start hStart hPrefix
    exact hNoColon ((startsWith_iff.mp hPrefix).subset (hColons start hStart))
  have hLoopback : v4.text ∉ loopbackTexts := fun hMem => hNoColon
    ((by decide : ∀ text ∈ loopbackTexts, ':' ∈ text) v4.text hMem)
  have hMapped : mappedIPv4 v4.text = none := by
    cases hSome : mappedIPv4 v4.text with
    | none => rfl
    | some t =>
      obtain ⟨digits, -, hPieces, -⟩ := mappedIPv4_eq_some hSome
      rw [List.splitOn_eq_singleton hNoColon] at hPieces
      exact absurd (congrArg List.length hPieces) (by simp)
  have hNe : v4.text ≠ [] := List.ne_nil_of_mem v4.dot_mem_text
  rw [← isPrivateIPv4_text]
  simp only [isPrivateOrLoopbackIp, Option.getD_some, raw_ipv4, if_neg hNe, if_neg hLoopback,
    hFirst linkLocalStarts (by decide), hNoColon, hMapped, decide_false, Bool.and_false,
    Bool.false_eq_true, if_false, Option.none_or, Option.any_some]

/-- Of an address that is written with groups: ::1 is written in one of the two ways that are
known, the first group of a link-local address is `fe80` or `FE80`, that of a unique local one
starts with two letters of the same case, and a mapped private address has its octets behind zeros
that are left out and one group. A first group that starts with `fc` or `fd` has four digits. -/
structure RightlyWritten (ip : IPv6) : Prop where
  loopback : ip.value = 1 → ip.text ∈ loopbackTexts
  linkLocal : IsLinkLocal ip.value → StartsLinkLocal ip
  uniqueLocal : IsUniqueLocal ip.value → StartsUniqueLocal ip
  mapped : IsMappedPrivate ip.value → ∃ g v4, WritesOctets ip g v4
  fourDigits : StartsUniqueLocal ip → ∀ digits ∈ firstGroup ip, digits.length = 4

theorem isUniqueLocal_iff_of_starts (h : StartsUniqueLocal ip) :
    (IsUniqueLocal ip.value ↔ ∀ digits ∈ firstGroup ip, digits.length = 4) ∧
      ip.value ≠ 1 ∧ ¬ IsLinkLocal ip.value ∧ ¬ IsMappedPrivate ip.value := by
  obtain ⟨digits, hFirst, hStarts⟩ := h
  have hValue := value_div_of_firstGroup hFirst
  obtain ⟨g, -, rfl⟩ := Option.map_eq_some_iff.mp hFirst
  have hNumber := hexNumber_of_uniqueLocalStarts g hStarts
  have hFour : (∀ digits ∈ firstGroup ip, digits.length = 4) ↔ g.digits.length = 4 := by
    rw [hFirst]
    simp
  rw [hFour]
  rw [Group.value, ← hValue] at hNumber
  simp only [IsUniqueLocal, IsLinkLocal, IsMappedPrivate, InPrefix]
  split_ifs at hNumber with hLength <;> omega

theorem isMappedPrivate_of_writesOctets {g : Group} {v4 : IPv4} (h : WritesOctets ip g v4) :
    IsMappedPrivate ip.value ↔ g.value = 0xffff ∧ IsPrivate4 v4.value := by
  have hGroup := g.value_lt
  have hOctets := @IPv4.value_lt v4
  have hLow : ip.value % 2 ^ 32 = v4.value := by
    rw [value_of_writesOctets h]
    omega
  rw [IsMappedPrivate, hLow]
  refine and_congr_left fun _ => ?_
  rw [InPrefix, value_of_writesOctets h]
  omega

theorem ranges_apart (n : Nat) :
    (n = 1 → ¬ IsLinkLocal n ∧ ¬ IsUniqueLocal n ∧ ¬ IsMappedPrivate n) ∧
      (IsLinkLocal n → ¬ IsUniqueLocal n ∧ ¬ IsMappedPrivate n) ∧
      (IsUniqueLocal n → ¬ IsMappedPrivate n) := by
  simp only [IsUniqueLocal, IsLinkLocal, IsMappedPrivate, InPrefix]
  refine ⟨fun h => ⟨?_, ?_, ?_⟩, fun h => ⟨?_, ?_⟩, fun h => ?_⟩ <;> omega

theorem isPrivateOrLoopbackIp_iff_rightlyWritten (ip : IPv6) :
    (isPrivateOrLoopbackIp (some ip.text) = true ↔ IsPrivate6 ip.value) ↔ RightlyWritten ip := by
  obtain ⟨hOne, hLink, hUnique⟩ := ranges_apart ip.value
  have hMapped : (∃ g v4, WritesOctets ip g v4 ∧ g.value = 0xffff ∧ IsPrivate4 v4.value) →
      IsMappedPrivate ip.value := by
    rintro ⟨g, v4, hWrites, hGroup, hPrivate⟩
    exact (isMappedPrivate_of_writesOctets hWrites).mpr ⟨hGroup, hPrivate⟩
  rw [isPrivateOrLoopbackIp_ipv6, IsPrivate6]
  constructor
  · intro h
    refine ⟨fun hValue => ?_, fun hValue => ?_, fun hValue => ?_, fun hValue => ?_,
      fun hStarts => ?_⟩
    · obtain hText | hStarts | hStarts | hWrites := h.mpr (.inl hValue)
      · exact hText
      · exact absurd (isLinkLocal_of_starts hStarts) (hOne hValue).1
      · exact absurd hValue (isUniqueLocal_iff_of_starts hStarts).2.1
      · exact absurd (hMapped hWrites) (hOne hValue).2.2
    · obtain hText | hStarts | hStarts | hWrites := h.mpr (.inr (.inl hValue))
      · exact absurd hValue (hOne (value_of_loopbackText hText)).1
      · exact hStarts
      · exact absurd hValue (isUniqueLocal_iff_of_starts hStarts).2.2.1
      · exact absurd (hMapped hWrites) (hLink hValue).2
    · obtain hText | hStarts | hStarts | hWrites := h.mpr (.inr (.inr (.inl hValue)))
      · exact absurd hValue (hOne (value_of_loopbackText hText)).2.1
      · exact absurd hValue (hLink (isLinkLocal_of_starts hStarts)).1
      · exact hStarts
      · exact absurd (hMapped hWrites) (hUnique hValue)
    · obtain hText | hStarts | hStarts | ⟨g, v4, hWrites, -⟩ := h.mpr (.inr (.inr (.inr hValue)))
      · exact absurd hValue (hOne (value_of_loopbackText hText)).2.2
      · exact absurd hValue (hLink (isLinkLocal_of_starts hStarts)).2
      · exact absurd hValue (isUniqueLocal_iff_of_starts hStarts).2.2.2
      · exact ⟨g, v4, hWrites⟩
    · obtain ⟨hFour, hNotOne, hNotLink, hNotMapped⟩ := isUniqueLocal_iff_of_starts hStarts
      obtain hValue | hValue | hValue | hValue := h.mp (.inr (.inr (.inl hStarts)))
      · exact absurd hValue hNotOne
      · exact absurd hValue hNotLink
      · exact hFour.mp hValue
      · exact absurd hValue hNotMapped
  · intro h
    constructor
    · rintro (hText | hStarts | hStarts | hWrites)
      · exact .inl (value_of_loopbackText hText)
      · exact .inr (.inl (isLinkLocal_of_starts hStarts))
      · exact .inr (.inr (.inl ((isUniqueLocal_iff_of_starts hStarts).1.mpr
          (h.fourDigits hStarts))))
      · exact .inr (.inr (.inr (hMapped hWrites)))
    · rintro (hValue | hValue | hValue | hValue)
      · exact .inl (h.loopback hValue)
      · exact .inr (.inl (h.linkLocal hValue))
      · exact .inr (.inr (.inl (h.uniqueLocal hValue)))
      · obtain ⟨g, v4, hWrites⟩ := h.mapped hValue
        exact .inr (.inr (.inr ⟨g, v4, hWrites,
          (isMappedPrivate_of_writesOctets hWrites).mp hValue⟩))

/-- Where no token is configured, identity headers are believed of private peers only. -/
def TrustsPrivateOnly {δ : Type} [DecidableEq δ] (digest : Text → δ) (s : Spelling) : Prop :=
  ∀ (env : Text → Option Text) (event : HeaderEvent) (cfg : HeaderConfig)
    (internalToken : Option Text), event.getRequestIP = some s.text →
      expectedToken env internalToken = [] →
        verifyHeaderAuthTrust digest env event cfg internalToken = true → s.IsPrivate

/-- A peer is told right, and headers are believed accordingly. -/
def TrustLimited {δ : Type} [DecidableEq δ] (digest : Text → δ) (s : Spelling) : Prop :=
  (isPrivateOrLoopbackIp (some s.text) = true ↔ s.IsPrivate) ∧ TrustsPrivateOnly digest s

/-- An address of four octets, or one that is rightly written. -/
def Spelling.RightlyWritten : Spelling → Prop
  | ipv4 _ => True
  | ipv6 ip => Users.RightlyWritten ip

/-- A first group that starts with `fc` or `fd` has four digits. -/
def Spelling.StartsInFull : Spelling → Prop
  | ipv4 _ => True
  | ipv6 ip => StartsUniqueLocal ip → ∀ digits ∈ firstGroup ip, digits.length = 4

theorem isPrivate_iff_rightlyWritten (s : Spelling) :
    (isPrivateOrLoopbackIp (some s.text) = true ↔ s.IsPrivate) ↔ s.RightlyWritten := by
  cases s with
  | ipv4 v4 => exact iff_of_true (isPrivateOrLoopbackIp_ipv4 v4) trivial
  | ipv6 ip => exact isPrivateOrLoopbackIp_iff_rightlyWritten ip

theorem isPrivate_of_startsInFull (s : Spelling) :
    (isPrivateOrLoopbackIp (some s.text) = true → s.IsPrivate) ↔ s.StartsInFull := by
  cases s with
  | ipv4 v4 => exact iff_of_true (isPrivateOrLoopbackIp_ipv4 v4).mp trivial
  | ipv6 ip =>
    simp only [Spelling.text, Spelling.IsPrivate, Spelling.StartsInFull,
      isPrivateOrLoopbackIp_ipv6, IsPrivate6]
    constructor
    · intro h hStarts
      obtain ⟨hFour, hNotOne, hNotLink, hNotMapped⟩ := isUniqueLocal_iff_of_starts hStarts
      obtain hValue | hValue | hValue | hValue := h (.inr (.inr (.inl hStarts)))
      · exact absurd hValue hNotOne
      · exact absurd hValue hNotLink
      · exact hFour.mp hValue
      · exact absurd hValue hNotMapped
    · rintro hFull (hText | hStarts | hStarts | ⟨g, v4, hWrites, hGroup, hPrivate⟩)
      · exact .inl (value_of_loopbackText hText)
      · exact .inr (.inl (isLinkLocal_of_starts hStarts))
      · exact .inr (.inr (.inl ((isUniqueLocal_iff_of_starts hStarts).1.mpr (hFull hStarts))))
      · exact .inr (.inr (.inr ((isMappedPrivate_of_writesOctets hWrites).mpr
          ⟨hGroup, hPrivate⟩)))

theorem peer_of_verified {δ : Type} [DecidableEq δ] {digest : Text → δ}
    {env : Text → Option Text} {event : HeaderEvent} {cfg : HeaderConfig}
    {internalToken : Option Text} (hToken : expectedToken env internalToken = [])
    (h : verifyHeaderAuthTrust digest env event cfg internalToken) :
    isPrivateOrLoopbackIp event.getRequestIP := by
  simp only [verifyHeaderAuthTrust, hToken, ne_eq, not_true_eq_false, if_false] at h
  split_ifs at h with hTrust hEnabled hPeer
  simpa [isTrustedHeaderProxyPeer] using hPeer

def namedUser (peer : Text) : HeaderEvent := ⟨fun _ => some ['a'], some peer⟩

def tokenlessConfig : HeaderConfig :=
  { enabled := true, userHeader := "X-Remote-User".toList, tokenHeader := [],
    requireInternalToken := false }

theorem verified_of_peer {δ : Type} [DecidableEq δ] {digest : Text → δ} {peer : Text}
    (h : isPrivateOrLoopbackIp (some peer)) :
    verifyHeaderAuthTrust digest (fun _ => none) (namedUser peer) tokenlessConfig none := by
  have hToken : expectedToken (fun _ => none) none = [] := by decide
  have hUser : (firstHeader (namedUser peer) tokenlessConfig.userHeader
      headerUserFallbacks).isSome = true := rfl
  have hPeer : isTrustedHeaderProxyPeer (namedUser peer) = true := h
  simp only [verifyHeaderAuthTrust, hToken, hUser, hPeer]
  rfl

theorem trustsPrivateOnly_iff {δ : Type} [DecidableEq δ] (digest : Text → δ) (s : Spelling) :
    TrustsPrivateOnly digest s ↔ (isPrivateOrLoopbackIp (some s.text) = true → s.IsPrivate) := by
  constructor
  · intro h hPeer
    exact h _ (namedUser s.text) tokenlessConfig none rfl (by decide) (verified_of_peer hPeer)
  · intro h env event cfg internalToken hPeer hToken hVerified
    apply h
    rw [← hPeer]
    exact peer_of_verified hToken hVerified

/-- Peers are told right exactly where their address is rightly written; headers are believed of
private peers only exactly where a first group that starts with `fc` or `fd` has four digits. -/
theorem header_trust_iff {δ : Type} [DecidableEq δ] (digest : Text → δ) (s : Spelling) :
    (TrustLimited digest s ↔ s.RightlyWritten) ∧
      (TrustsPrivateOnly digest s ↔ s.StartsInFull) := by
  rw [TrustLimited, trustsPrivateOnly_iff, isPrivate_of_startsInFull]
  refine ⟨?_, Iff.rfl⟩
  rw [isPrivate_iff_rightlyWritten, ← isPrivate_of_startsInFull]
  exact and_iff_left_of_imp fun h => ((isPrivate_iff_rightlyWritten s).mpr h).mp

/-- fc::1, which is none of fc00::/7. -/
def shortGroup : IPv6 where
  front := [⟨['f', 'c'], by decide, by decide, List.all_eq_true.mp rfl⟩]
  back := some [⟨['1'], by decide, by decide, List.all_eq_true.mp rfl⟩]
  last := none
  fits := by simp

def mappedLoopback : IPv6 where
  front := []
  back := some [⟨"ffff".toList, by decide, by decide, List.all_eq_true.mp rfl⟩,
    ⟨"7f00".toList, by decide, by decide, List.all_eq_true.mp rfl⟩,
    ⟨['1'], by decide, by decide, List.all_eq_true.mp rfl⟩]
  last := none
  fits := by simp

/-- A public peer is believed, and the loopback address is not private in each of its spellings. -/
theorem public_peer_believed :
    shortGroup.text = "fc::1".toList ∧ ¬ IsPrivate6 shortGroup.value ∧
      verifyHeaderAuthTrust id (fun _ => none) (namedUser shortGroup.text) tokenlessConfig none =
        true ∧
      ¬ TrustLimited (id : Text → Text) (.ipv6 shortGroup) ∧
      mappedLoopback.text = "::ffff:7f00:1".toList ∧ IsPrivate6 mappedLoopback.value ∧
        isPrivateOrLoopbackIp (some mappedLoopback.text) = false := by
  have hPeer : isPrivateOrLoopbackIp (some shortGroup.text) = true := by decide
  have hPublic : ¬ IsPrivate6 shortGroup.value := by
    simp only [IsPrivate6, IsLinkLocal, IsUniqueLocal, IsMappedPrivate, IsPrivate4]
    decide
  have hMapped : IsPrivate6 mappedLoopback.value := by
    simp only [IsPrivate6, IsLinkLocal, IsUniqueLocal, IsMappedPrivate, IsPrivate4]
    decide
  exact ⟨by decide, hPublic, verified_of_peer hPeer, fun h => hPublic (h.1.mp hPeer), by decide,
    hMapped, by decide⟩

end EsosWebui.Users
