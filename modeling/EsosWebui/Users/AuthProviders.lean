import EsosWebui.Js.Json
import EsosWebui.Js.Strings
import EsosWebui.Js.Throw
import Mathlib.Logic.Function.Basic

/-! The settings of the authentication providers: the writes of a request that changes them, which
are made one by one, and when a request that is refused changes nothing. -/
namespace EsosWebui.Users.AuthProviders

open Js

inductive SettingType where
  | string
  | number
  | boolean
  | secret
  deriving DecidableEq

structure Setting where
  value : Text
  type : SettingType
  deriving DecidableEq

abbrev Settings := String → Option Setting

/-- The text that the database keeps under a key for a value, unless it refuses it, and the
encryption of what is stored under a key. -/
structure Storage where
  keep : String → Json → Option Text
  encrypt : String → Text → Option Text
  decrypt : Text → Option Text
  keep_string : ∀ {key text kept}, keep key (.string text) = some kept → kept = text
  decrypt_encrypt : ∀ {key text cipher}, encrypt key text = some cipher →
    decrypt cipher = some text

def truthy : Json → Bool
  | .null => false
  | .bool value => value
  | .number numeral => numeral ≠ ['0']
  | .string text => text ≠ []
  | _ => true

def string? : Json → Option Text
  | .string text => some text
  | _ => none

def storedValue (storage : Storage) (key : String) (value : Json) (type : SettingType) :
    Option Text :=
  if type = .secret ∧ truthy value then do
    let cipher ← storage.encrypt key (← string? value)
    storage.keep key (.string cipher)
  else storage.keep key value

/-- A row that exists keeps its type. -/
def upsert (settings : Settings) (key : String) (value : Text) (type : SettingType) : Settings :=
  Function.update settings key (some ⟨value, ((settings key).map (·.type)).getD type⟩)

/-- How the value of a field is checked and changed before it is stored. -/
inductive FieldKind where
  | converted
  | asGiven
  | trimmed
  | secret
  | redirectPath
  | mfaMode
  | mappingRules
  | maxRole
  deriving DecidableEq

structure Field where
  name : String
  key : String
  type : SettingType
  kind : FieldKind

inductive Failure where
  | thrown
  | refused (message : Text)
  deriving DecidableEq

mutual

/-- `String(value)` throws for an object with a `toString` of its own. -/
def converts : Json → Bool
  | .array items => convertItems items
  | .object fields => fields.all fun field => field.1 ≠ "toString".toList
  | _ => true

def convertItems : List Json → Bool
  | [] => true
  | item :: rest => converts item && convertItems rest

end

/-- `String(value)`; a number stands with the text that it is converted to. -/
def toString? (value : Json) : Option Text := if converts value then some value.toText else none

def isOneOf (names : List String) (value : Json) : Bool :=
  (string? value).any fun text => text ∈ names.map String.toList

/-- `v === '' || v == null ? '' : v` -/
def roleOrEmpty : Json → Json
  | .null => .string []
  | value => value

/-- What is handed to `setSetting`. -/
def Field.prepared (field : Field) (value : Json) : Except Failure Json :=
  match field.kind with
  | .converted => (orThrow .thrown (toString? value)).map .string
  | .asGiven | .secret => .ok value
  | .trimmed => (orThrow .thrown (string? value)).map fun text => .string (trim text)
  | .redirectPath => do
    let path ← orThrow .thrown (string? value)
    return .string (if startsWith path ['/'] then path else '/' :: path)
  | .mfaMode => do
    throwIf (isOneOf ["off", "idp_required", "idp_preferred"] value = false)
      (.refused "auth.mfa.mode invalide".toList)
    return value
  | .mappingRules => do
    throwIf (((toString? value).bind Json.parse).isNone = true)
      (.refused "auth.mappingRulesJson JSON invalide".toList)
    return value
  | .maxRole => do
    let v := roleOrEmpty value
    throwIf (truthy v ∧ isOneOf ["admin", "operator", "viewer"] v = false)
      (.refused (field.key ++ " invalide").toList)
    return v

section

variable (name key : String)

def flag : Field := ⟨name, key, .boolean, .converted⟩

def number : Field := ⟨name, key, .number, .converted⟩

def plain : Field := ⟨name, key, .string, .asGiven⟩

def trimmed : Field := ⟨name, key, .string, .trimmed⟩

def secret : Field := ⟨name, key, .secret, .secret⟩

def maxRole : Field := ⟨name, key, .string, .maxRole⟩

end

def ldapFields : List Field :=
  [flag "enabled" "ldap.enabled", plain "url" "ldap.url", flag "startTls" "ldap.starttls",
    flag "tlsVerify" "ldap.tls_verify", plain "bindDn" "ldap.bind_dn",
    secret "bindPassword" "ldap.bind_password", plain "baseDn" "ldap.base_dn",
    plain "userSearchFilter" "ldap.user_search_filter",
    plain "usernameAttribute" "ldap.username_attribute",
    plain "displayNameAttribute" "ldap.display_name_attribute",
    plain "groupAttribute" "ldap.group_attribute", number "timeoutSec" "ldap.timeout_sec"]

def headerFields : List Field :=
  [flag "enabled" "header_auth.enabled", trimmed "userHeader" "header_auth.user_header",
    trimmed "emailHeader" "header_auth.email_header",
    trimmed "groupsHeader" "header_auth.groups_header",
    plain "groupsDelimiter" "header_auth.groups_delimiter",
    trimmed "displayNameHeader" "header_auth.display_name_header",
    trimmed "issuer" "header_auth.issuer", trimmed "tokenHeader" "header_auth.token_header",
    secret "internalToken" "header_auth.internal_token",
    flag "requireInternalToken" "header_auth.require_internal_token"]

def oidcFields : List Field :=
  [flag "enabled" "oidc.enabled", trimmed "issuer" "oidc.issuer",
    plain "clientId" "oidc.client_id", secret "clientSecret" "oidc.client_secret",
    plain "scopes" "oidc.scopes", ⟨"redirectPath", "oidc.redirect_path", .string, .redirectPath⟩,
    number "clockSkewSec" "oidc.clock_skew_sec"]

def authFields : List Field :=
  [flag "jitEnabled" "auth.jit.enabled", plain "jitDefaultRole" "auth.jit.default_role",
    flag "jitDefaultActive" "auth.jit.default_active",
    ⟨"mfaMode", "auth.mfa.mode", .string, .mfaMode⟩,
    ⟨"mappingRulesJson", "auth.mapping_rules_json", .string, .mappingRules⟩,
    maxRole "oidcMaxRole" "auth.oidc.max_role", maxRole "ldapMaxRole" "auth.ldap.max_role",
    maxRole "headerMaxRole" "auth.header.max_role"]

/-- The fields of a body in the order of their writes, with the section of each. -/
def patchFields : List (String × Field) :=
  [("ldap", ldapFields), ("header", headerFields), ("oidc", oidcFields),
    ("auth", authFields)].flatMap fun part => part.2.map (part.1, ·)

section

variable (storage : Storage) (body : Json)

/-- The value that is given for a field; an empty secret counts as none. -/
def given (entry : String × Field) : Option Json :=
  let value := (body.field entry.1).bind (·.field entry.2.name)
  if entry.2.type = .secret then value.filter fun v => string? v ≠ some [] else value

def Field.written (field : Field) (value : Json) : Except Failure Text := do
  let v ← field.prepared value
  orThrow .thrown (storedValue storage field.key v field.type)

def writes (entry : String × Field) : Option (Except Failure Text) :=
  (given body entry).map (entry.2.written storage)

def applyFields : List (String × Field) → Settings → Settings × Except Failure (List String)
  | [], settings => (settings, .ok [])
  | entry :: rest, settings =>
    match writes storage body entry with
    | none => applyFields rest settings
    | some (.error failure) => (settings, .error failure)
    | some (.ok text) =>
      let (after, updated) :=
        applyFields rest (upsert settings entry.2.key text entry.2.type)
      (after, updated.map (entry.2.key :: ·))

def applyAuthProvidersPatch (settings : Settings) : Settings × Except Failure (List String) :=
  applyFields storage body patchFields settings

end

section

variable (storage : Storage)

/-- A text reads as a given one; another value is kept as the database turns it into a text. -/
def ReadsAs (read : Text → Option Text) (key : String) (text : Text) (value : Json) : Prop :=
  (string? value).elim (storage.keep key value = some text) fun given => read text = some given

def Field.Holds (field : Field) (value : Json) (text : Text) : Prop :=
  match field.kind with
  | .converted => text = value.toText
  | .trimmed => ∃ given, value = .string given ∧ text = trim given
  | .redirectPath => ∃ given, value = .string given ∧ startsWith text ['/'] ∧
      (text = given ∨ text = '/' :: given)
  | .secret => ReadsAs storage storage.decrypt field.key text value
  | .maxRole => ReadsAs storage some field.key text (roleOrEmpty value)
  | _ => ReadsAs storage some field.key text value

/-- A failure leaves the settings as they were; else they differ only under the keys that are
returned, and hold the given values there. -/
def AllOrNothing (body : Json) (before : Settings)
    (outcome : Settings × Except Failure (List String)) : Prop :=
  match outcome.2 with
  | .error _ => outcome.1 = before
  | .ok updated => (∀ key, key ∉ updated → outcome.1 key = before key) ∧
      ∀ key ∈ updated, ∃ entry ∈ patchFields, entry.2.key = key ∧
        ∃ value ∈ given body entry, ∃ setting ∈ outcome.1 key,
          entry.2.Holds storage value setting.value

def Accepts (body : Json) (entry : String × Field) : Bool :=
  (writes storage body entry).all (·.isOk)

/-- If a field is refused, the ones before it hold what is written for them. -/
def HoldsBeforeRefused (body : Json) (settings : Settings) : Prop :=
  (∃ entry ∈ patchFields, Accepts storage body entry = false) →
    ∀ entry ∈ patchFields.takeWhile (Accepts storage body), ∀ text,
      writes storage body entry = some (.ok text) →
        (settings entry.2.key).map (·.value) = some text

variable {storage} {body : Json} {settings : Settings}

theorem string?_eq_some {value : Json} {text : Text} :
    string? value = some text ↔ value = .string text := by
  cases value <;> simp [string?]

theorem readsAs_of_kept {key : String} {value : Json} {text : Text}
    (h : storage.keep key value = some text) : ReadsAs storage some key text value := by
  unfold ReadsAs
  cases hString : string? value with
  | none => exact h
  | some given =>
    rw [string?_eq_some.mp hString] at h
    exact congrArg some (storage.keep_string h)

theorem readsAs_of_encrypted {key : String} {value : Json} {text : Text}
    (hFilled : string? value ≠ some [])
    (h : storedValue storage key value .secret = some text) :
    ReadsAs storage storage.decrypt key text value := by
  unfold ReadsAs
  unfold storedValue at h
  cases hString : string? value with
  | none =>
    by_cases hTruthy : truthy value = true
    · rw [if_pos ⟨rfl, hTruthy⟩, hString] at h
      cases h
    · rw [if_neg fun hBoth => hTruthy hBoth.2] at h
      exact h
  | some given =>
    obtain rfl := string?_eq_some.mp hString
    have hTruthy : truthy (.string given) = true :=
      decide_eq_true fun hEmpty => hFilled (congrArg some hEmpty)
    rw [if_pos ⟨rfl, hTruthy⟩, hString, Option.bind_eq_bind, Option.bind_some] at h
    obtain ⟨cipher, hCipher, hKept⟩ := Option.bind_eq_some_iff.mp h
    rw [storage.keep_string hKept]
    exact storage.decrypt_encrypt hCipher

theorem secret_iff : ∀ entry ∈ patchFields,
    entry.2.type = .secret ↔ entry.2.kind = .secret := by decide +kernel

theorem holds_of_written {entry : String × Field} {value : Json} {text : Text}
    (hEntry : entry ∈ patchFields) (hGiven : given body entry = some value)
    (h : entry.2.written storage value = .ok text) : entry.2.Holds storage value text := by
  obtain ⟨prepared, hPrepared, hStored⟩ := bind_eq_ok.mp h
  rw [orThrow_eq_ok] at hStored
  have hSecret := secret_iff entry hEntry
  have hKept (hKind : entry.2.kind ≠ .secret) :
      storage.keep entry.2.key prepared = some text := by
    rwa [storedValue, if_neg fun hBoth => hKind (hSecret.mp hBoth.1)] at hStored
  unfold Field.prepared at hPrepared
  unfold Field.Holds
  cases hKind : entry.2.kind <;> simp only [hKind, ne_eq, reduceCtorEq, not_false_eq_true,
    forall_const] at hPrepared hKept ⊢
  case converted =>
    obtain ⟨shown, hShown, rfl⟩ := map_eq_ok.mp hPrepared
    rw [orThrow_eq_ok, toString?, Option.ite_none_right_eq_some] at hShown
    rw [storage.keep_string hKept, Option.some.inj hShown.2]
  case asGiven =>
    cases hPrepared
    exact readsAs_of_kept hKept
  case trimmed =>
    obtain ⟨shown, hShown, rfl⟩ := map_eq_ok.mp hPrepared
    rw [orThrow_eq_ok, string?_eq_some] at hShown
    exact ⟨shown, hShown, storage.keep_string hKept⟩
  case secret =>
    cases hPrepared
    have hType := hSecret.mpr hKind
    rw [given, if_pos hType, Option.filter_eq_some_iff] at hGiven
    rw [hType] at hStored
    exact readsAs_of_encrypted (of_decide_eq_true hGiven.2) hStored
  case redirectPath =>
    obtain ⟨path, hPath, hSame⟩ := bind_eq_ok.mp hPrepared
    rw [orThrow_eq_ok, string?_eq_some] at hPath
    obtain rfl := pure_eq_ok.mp hSame
    refine ⟨path, hPath, ?_⟩
    rw [storage.keep_string hKept]
    split
    · exact ⟨‹_›, .inl rfl⟩
    · exact ⟨rfl, .inr rfl⟩
  case mfaMode | mappingRules =>
    obtain ⟨-, -, hSame⟩ := bind_eq_ok.mp hPrepared
    obtain rfl := pure_eq_ok.mp hSame
    exact readsAs_of_kept hKept
  case maxRole =>
    obtain ⟨-, -, hSame⟩ := bind_eq_ok.mp hPrepared
    obtain rfl := pure_eq_ok.mp hSame
    exact readsAs_of_kept hKept

section

variable {entry : String × Field} {rest : List (String × Field)}

theorem applyFields_skip (h : writes storage body entry = none) :
    applyFields storage body (entry :: rest) settings =
      applyFields storage body rest settings := by
  rw [applyFields, h]

theorem applyFields_refuse {failure : Failure}
    (h : writes storage body entry = some (.error failure)) :
    applyFields storage body (entry :: rest) settings = (settings, .error failure) := by
  rw [applyFields, h]

theorem applyFields_write {text : Text} (h : writes storage body entry = some (.ok text)) :
    applyFields storage body (entry :: rest) settings =
      let written := applyFields storage body rest (upsert settings entry.2.key text entry.2.type)
      (written.1, written.2.map (entry.2.key :: ·)) := by
  rw [applyFields, h]

theorem writes_cases (storage : Storage) (body : Json) (entry : String × Field) :
    writes storage body entry = none ∧ Accepts storage body entry = true ∨
      (∃ failure, writes storage body entry = some (.error failure)) ∧
        Accepts storage body entry = false ∨
      (∃ text, writes storage body entry = some (.ok text)) ∧
        Accepts storage body entry = true := by
  unfold Accepts
  cases writes storage body entry with
  | none => exact .inl ⟨rfl, rfl⟩
  | some written =>
    cases written with
    | error failure => exact .inr (.inl ⟨⟨failure, rfl⟩, rfl⟩)
    | ok text => exact .inr (.inr ⟨⟨text, rfl⟩, rfl⟩)

end

variable {fields : List (String × Field)}

theorem applyFields_other {key : String} (hKey : key ∉ fields.map (·.2.key)) :
    (applyFields storage body fields settings).1 key = settings key := by
  induction fields generalizing settings with
  | nil => rfl
  | cons entry rest ih =>
    rw [List.map_cons, List.mem_cons, not_or] at hKey
    rcases writes_cases storage body entry with ⟨h, -⟩ | ⟨⟨failure, h⟩, -⟩ | ⟨⟨text, h⟩, -⟩
    · rw [applyFields_skip h]
      exact ih hKey.2
    · rw [applyFields_refuse h]
    · rw [applyFields_write h]
      exact (ih hKey.2).trans (Function.update_of_ne hKey.1 _ _)

theorem isOk_applyFields :
    (applyFields storage body fields settings).2.isOk = fields.all (Accepts storage body) := by
  induction fields generalizing settings with
  | nil => rfl
  | cons entry rest ih =>
    rw [List.all_cons]
    rcases writes_cases storage body entry with
      ⟨h, hAccepts⟩ | ⟨⟨failure, h⟩, hAccepts⟩ | ⟨⟨text, h⟩, hAccepts⟩
    · rw [applyFields_skip h, ih, hAccepts, Bool.true_and]
    · rw [applyFields_refuse h, hAccepts]
      rfl
    · rw [applyFields_write h, hAccepts, Bool.true_and, ← ih]
      dsimp only
      cases (applyFields storage body rest (upsert settings entry.2.key text entry.2.type)).2 <;>
        rfl

theorem applyFields_ok {updated : List String} (hNodup : (fields.map (·.2.key)).Nodup)
    (hOk : (applyFields storage body fields settings).2 = .ok updated) :
    (∀ key, key ∉ updated →
        (applyFields storage body fields settings).1 key = settings key) ∧
      ∀ key ∈ updated, ∃ entry ∈ fields, entry.2.key = key ∧
        ∃ setting ∈ (applyFields storage body fields settings).1 key,
          writes storage body entry = some (.ok setting.value) := by
  induction fields generalizing settings updated with
  | nil =>
    cases hOk
    exact ⟨fun _ _ => rfl, fun _ hKey => absurd hKey List.not_mem_nil⟩
  | cons entry rest ih =>
    rw [List.map_cons, List.nodup_cons] at hNodup
    rcases writes_cases storage body entry with ⟨h, -⟩ | ⟨⟨failure, h⟩, -⟩ | ⟨⟨text, h⟩, -⟩
    · rw [applyFields_skip h] at hOk ⊢
      obtain ⟨hOther, hHeld⟩ := ih hNodup.2 hOk
      refine ⟨hOther, fun key hKey => ?_⟩
      obtain ⟨found, hFound, hRest⟩ := hHeld key hKey
      exact ⟨found, List.mem_cons_of_mem _ hFound, hRest⟩
    · rw [applyFields_refuse h] at hOk
      cases hOk
    · rw [applyFields_write h] at hOk ⊢
      obtain ⟨keys, hKeys, rfl⟩ := map_eq_ok.mp hOk
      obtain ⟨hOther, hHeld⟩ := ih hNodup.2 hKeys
      refine ⟨fun key hKey => ?_, fun key hKey => ?_⟩
      · rw [List.mem_cons, not_or] at hKey
        exact (hOther key hKey.2).trans (Function.update_of_ne hKey.1 _ _)
      · rcases List.mem_cons.mp hKey with rfl | hKey
        · have hSetting := (@applyFields_other storage body
            (upsert settings entry.2.key text entry.2.type) rest _ hNodup.1).trans
            (Function.update_self ..)
          exact ⟨entry, List.mem_cons_self, rfl, _, hSetting, h⟩
        · obtain ⟨found, hFound, hRest⟩ := hHeld key hKey
          exact ⟨found, List.mem_cons_of_mem _ hFound, hRest⟩

theorem upsert_eq_self {key : String} {value : Text} {type : SettingType} :
    upsert settings key value type = settings ↔
      (settings key).map (·.value) = some value := by
  rw [upsert, Function.update_eq_self_iff]
  cases settings key with
  | none => simp
  | some setting =>
    cases setting
    simp [eq_comm]

theorem applyFields_eq_self_iff (hNodup : (fields.map (·.2.key)).Nodup) :
    (applyFields storage body fields settings).1 = settings ↔
      ∀ entry ∈ fields.takeWhile (Accepts storage body), ∀ text,
        writes storage body entry = some (.ok text) →
          (settings entry.2.key).map (·.value) = some text := by
  induction fields generalizing settings with
  | nil => simp [applyFields]
  | cons entry rest ih =>
    rw [List.map_cons, List.nodup_cons] at hNodup
    rcases writes_cases storage body entry with
      ⟨h, hAccepts⟩ | ⟨⟨failure, h⟩, hAccepts⟩ | ⟨⟨text, h⟩, hAccepts⟩
    · rw [applyFields_skip h, List.takeWhile_cons_of_pos hAccepts, List.forall_mem_cons,
        ih hNodup.2, h]
      simp
    · rw [applyFields_refuse h, List.takeWhile_cons_of_neg (by simp [hAccepts])]
      simp
    · rw [applyFields_write h, List.takeWhile_cons_of_pos hAccepts, List.forall_mem_cons,
        ← ih hNodup.2, h]
      have hFirst : (∀ written, some (Except.ok text : Except Failure Text) = some (.ok written) →
          (settings entry.2.key).map (·.value) = some written) ↔
          upsert settings entry.2.key text entry.2.type = settings := by
        rw [upsert_eq_self]
        simp
      rw [hFirst]
      refine ⟨fun hSelf => ?_, fun ⟨hSame, hRest⟩ => by rw [hSame]; exact hRest⟩
      have hSame : upsert settings entry.2.key text entry.2.type = settings := by
        rw [upsert_eq_self, ← hSelf, applyFields_other hNodup.1, upsert, Function.update_self]
        rfl
      rw [hSame] at hSelf
      exact ⟨hSame, hSelf⟩

theorem nodup_keys : (patchFields.map (·.2.key)).Nodup := by decide +kernel

/-- A change is made as a whole exactly if the writes before the first refused field, if one is
refused, are no change. -/
theorem auth_patch_all_or_nothing_iff (storage : Storage) (body : Json) (before : Settings) :
    AllOrNothing storage body before (applyAuthProvidersPatch storage body before) ↔
      HoldsBeforeRefused storage body before := by
  have hOk := @isOk_applyFields storage body before patchFields
  unfold AllOrNothing applyAuthProvidersPatch
  cases hResult : (applyFields storage body patchFields before).2 with
  | error failure =>
    have hAll : patchFields.all (Accepts storage body) = false := by
      rw [← hOk, hResult]
      rfl
    rw [HoldsBeforeRefused, ← applyFields_eq_self_iff nodup_keys,
      forall_prop_of_true (by simpa using hAll)]
  | ok updated =>
    have hAll : patchFields.all (Accepts storage body) = true := by
      rw [← hOk, hResult]
      rfl
    refine iff_of_true ?_ fun ⟨entry, hEntry, hRefused⟩ => ?_
    · obtain ⟨hOther, hHeld⟩ := applyFields_ok nodup_keys hResult
      refine ⟨hOther, fun key hKey => ?_⟩
      obtain ⟨entry, hEntry, hSame, setting, hSetting, hWrites⟩ := hHeld key hKey
      obtain ⟨value, hGiven, hWritten⟩ := Option.map_eq_some_iff.mp hWrites
      exact ⟨entry, hEntry, hSame, value, hGiven, setting, hSetting,
        holds_of_written hEntry hGiven hWritten⟩
    · rw [List.all_eq_true.mp hAll entry hEntry] at hRefused
      cases hRefused

end

/-- A database that takes texts only, without a key for secrets. -/
def textsOnly : Storage where
  keep _ := string?
  encrypt _ _ := none
  decrypt _ := none
  keep_string h := (Option.some.inj h).symm
  decrypt_encrypt h := by cases h

def unknownMode : Json :=
  .object [("oidc".toList, .object [("enabled".toList, .bool true)]),
    ("auth".toList, .object [("mfaMode".toList, .string "always".toList)])]

theorem refused_change_enables_oidc : ¬ AllOrNothing textsOnly unknownMode (fun _ => none)
    (applyAuthProvidersPatch textsOnly unknownMode fun _ => none) := by
  have hRefused : (applyAuthProvidersPatch textsOnly unknownMode fun _ => none).2 =
      .error (.refused "auth.mfa.mode invalide".toList) := by decide +kernel
  have hEnabled : (applyAuthProvidersPatch textsOnly unknownMode fun _ => none).1
      "oidc.enabled" = some ⟨"true".toList, .boolean⟩ := by decide +kernel
  intro h
  unfold AllOrNothing at h
  rw [hRefused] at h
  rw [h] at hEnabled
  cases hEnabled

end EsosWebui.Users.AuthProviders
