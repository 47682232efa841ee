import EsosWebui.Js.Throw
import EsosWebui.Scst.Types

/-! The checks that a request to change the configuration has to pass. The
case mapping of the language is a parameter: nothing here depends on it. -/
namespace EsosWebui.Scst

open Js

def isLowerHex (c : Char) : Bool := c.isDigit || ('a' ≤ c && c ≤ 'f')

/-- `[0-9a-fA-F]` -/
def isHex (c : Char) : Bool := isLowerHex c || ('A' ≤ c && c ≤ 'F')

/-- Eight groups of hexadecimal digits with colons between them. -/
def isHexGroups (hex : Char → Bool) (width : Nat) (s : Text) : Bool :=
  (s.splitOn ':').length = 8 && (s.splitOn ':').all fun g => g.length = width && g.all hex

/-- `^iqn\.\d{4}-\d{2}\.[a-zA-Z0-9.-]+:[a-zA-Z0-9._:-]*$` -/
def isIqn : Text → Bool
  | 'i' :: 'q' :: 'n' :: '.' :: y₁ :: y₂ :: y₃ :: y₄ :: '-' :: m₁ :: m₂ :: '.' :: rest =>
    [y₁, y₂, y₃, y₄, m₁, m₂].all Char.isDigit &&
      consistsOf (fun c => c.isAlphanum || c == '.' || c == '-') (rest.takeWhile (· != ':')) &&
      match rest.dropWhile (· != ':') with
      | ':' :: identifier =>
        identifier.all fun c => c.isAlphanum || c == '.' || c == '_' || c == ':' || c == '-'
      | _ => false
  | _ => false

/-- `^[0-9a-fA-F]{2}(:[0-9a-fA-F]{2}){7}$` -/
def isWwn (s : Text) : Bool := isHexGroups isHex 2 s

/-- `^([0-9a-f]{2}:){7}[0-9a-f]{2}$` -/
def isWwpn (s : Text) : Bool := isHexGroups isLowerHex 2 s

/-- `^[0-9a-f]{4}(:[0-9a-f]{4}){7}$`, ignoring case. -/
def isIbGuidColons (s : Text) : Bool := isHexGroups isHex 4 s

/-- `^0x[0-9a-f]+$`, ignoring case. -/
def isIbGuidHex : Text → Bool
  | '0' :: x :: hex => (x == 'x' || x == 'X') && consistsOf isHex hex
  | _ => false

/-- `^[A-Za-z0-9.:*!?_-]+$` -/
def isPattern (s : Text) : Bool :=
  consistsOf (fun c => c.isAlphanum || ['.', ':', '*', '!', '?', '_', '-'].contains c) s

/-- `^[A-Za-z0-9_.-]+$` -/
def isGroupName (s : Text) : Bool :=
  consistsOf (fun c => c.isAlphanum || c == '_' || c == '.' || c == '-') s

/-- `^[A-Za-z0-9_\-]+$` -/
def isDeviceName (s : Text) : Bool :=
  consistsOf (fun c => c.isAlphanum || c == '_' || c == '-') s

def validateTargetName (name driver : Text) : Except Text Unit :=
  if driver = "iscsi".toList then
    throwIf (isIqn name = false)
      "IQN invalide. Format attendu : iqn.YYYY-MM.reversed-domain:identifier".toList
  else if driver = "qla2x00t".toList then
    throwIf (isWwn name = false) "WWN invalide. Format attendu : xx:xx:xx:xx:xx:xx:xx:xx".toList
  else
    throwIf (consistsOf (fun c => c.isAlphanum || c == '.' || c == '_' || c == ':' || c == '-') name
        = false)
      ("Nom de target invalide pour le driver ".toList ++ driver)

inductive InitiatorType where
  | fc
  | iscsi
  | ib
  | pattern
  | auto
  deriving DecidableEq

structure ValidateInitiatorOptions where
  type : Option InitiatorType
  ibOneTargetPerPort : Option Bool

/-- The fields of an accepted initiator; a refused one has an error key. -/
structure NormalizedInitiator where
  normalized : Text
  detectedType : InitiatorType

def validateGroupName (name : Text) : Except Text Text := do
  let trimmed := trim name
  throwIf (trimmed = []) "storage.hosts.errors.group_name_required".toList
  throwIf (isGroupName trimmed = false) "storage.hosts.errors.group_name_invalid".toList
  return trimmed

def detectInitiatorType (value : Text) : InitiatorType :=
  let v := trim value
  if v.contains '*' || v.contains '?' || v.contains '!' then .pattern
  else if "iqn.".toList.isPrefixOf v then .iscsi
  else if "0x".toList.isPrefixOf v then .ib
  else if isWwn v then .fc
  else if isIbGuidColons v then .ib
  else .auto

def normalizePattern (value : Text) : Except Text NormalizedInitiator := do
  let v := trim value
  throwIf (isPattern v = false) "storage.hosts.errors.pattern_invalid".toList
  return ⟨v, .pattern⟩

def normalizeIscsi (value : Text) : Except Text NormalizedInitiator := do
  let v := trim value
  throwIf (isIqn v = false) "storage.hosts.errors.iscsi_iqn_invalid".toList
  return ⟨v, .iscsi⟩

section

variable (toLowerCase : Text → Text)

def normalizeFc (value : Text) : Except Text NormalizedInitiator := do
  let v := toLowerCase (trim value)
  throwIf (isWwpn v = false) "storage.hosts.errors.fc_wwn_invalid".toList
  return ⟨v, .fc⟩

def normalizeIb (value : Text) (ibOneTargetPerPort : Bool) : Except Text NormalizedInitiator := do
  let v := trim value
  if ibOneTargetPerPort then
    let lower := toLowerCase v
    throwIf (isIbGuidColons lower = false) "storage.hosts.errors.ib_guid_colons".toList
    return ⟨lower, .ib⟩
  else if isIbGuidHex (toLowerCase v) then
    return ⟨toLowerCase v, .ib⟩
  else
    let hex := toLowerCase (v.filter (· != ':'))
    throwIf ((hex.length = 32 && hex.all isLowerHex) = false)
      "storage.hosts.errors.ib_guid_hex".toList
    return ⟨"0x".toList ++ hex, .ib⟩

def validateInitiatorValue (raw : Text) (options : ValidateInitiatorOptions) :
    Except Text NormalizedInitiator := do
  let trimmed := trim raw
  throwIf (trimmed = []) "storage.hosts.errors.initiator_required".toList
  let detected := detectInitiatorType trimmed
  let type :=
    match options.type with
    | none => detected
    | some .auto => detected
    | some type => type
  match type with
  | .auto => .error "storage.hosts.errors.initiator_type_unknown".toList
  | .pattern => normalizePattern trimmed
  | .fc => normalizeFc toLowerCase trimmed
  | .iscsi => normalizeIscsi trimmed
  | .ib => normalizeIb toLowerCase trimmed (options.ibOneTargetPerPort.getD true)

def initiatorAlreadyOnTarget (groups : List Group) (initiator : Text)
    (exceptGroup : Option Text) : Bool :=
  let needle := toLowerCase (trim initiator)
  groups.any fun g =>
    !(exceptGroup == some g.name && !g.name.isEmpty) &&
      g.initiators.any fun i => toLowerCase (trim i) == needle

end

def allLunsOnTarget (target : Target) : List Lun :=
  target.luns ++ target.groups.flatMap (·.luns)

def lunIdUsedOnTarget (target : Target) (lunId : Number) (exceptGroup : Option Text) : Bool :=
  (target.luns.any (·.id = lunId)) ||
    target.groups.any fun g =>
      !(exceptGroup == some g.name && !g.name.isEmpty) && g.luns.any (·.id = lunId)

def deviceMappedOnTarget (target : Target) (deviceName : Text) : Bool :=
  (allLunsOnTarget target).any (·.device = deviceName)

def findDeviceInConfig (config : ScstConfig) (deviceName : Text) : Option (Text × Device) :=
  config.handlers.findSome? fun h => (h.devices.find? (·.name = deviceName)).map fun d => (h.name, d)

def allowedHandlers : List Text := ["vdisk_blockio".toList, "vdisk_fileio".toList]

def lunIdMin : Int := 0

def lunIdMax : Int := 65535

/-- `Number.isInteger(id) && id >= LUN_ID_MIN && id <= LUN_ID_MAX` -/
def isLunId : Number → Bool
  | .int v => lunIdMin ≤ v && v ≤ lunIdMax
  | _ => false

def buildLunPreviewLine (lunId : Number) (deviceName : Text) (readOnly : Bool) : Text :=
  "LUN ".toList ++ lunId.toText ++ ' ' :: deviceName ++
    if readOnly then ' ' :: openBrace ++ "\n\tread_only 1\n".toList ++ closeBrace else []

/-- The check of a mapping; an accepted one has a preview. -/
def validateMapLun (lunId : Number) (deviceName : Text) (readOnly : Bool) (config : ScstConfig)
    (target : Target) (groupName : Text) : Except Text Text := do
  let group ← orThrow "storage.hosts.luns.errors.group_not_found".toList
    (target.groups.find? (·.name = groupName))
  throwIf (isLunId lunId = false) "storage.hosts.luns.errors.lun_id_invalid".toList
  let deviceName := trim deviceName
  throwIf (isDeviceName deviceName = false)
    "storage.hosts.luns.errors.device_name_invalid".toList
  let found ← orThrow "storage.hosts.luns.errors.device_not_found".toList
    (findDeviceInConfig config deviceName)
  throwIf (found.1 ∉ allowedHandlers) "storage.hosts.luns.errors.handler_not_allowed".toList
  throwIf (group.luns.any (·.id = lunId)) "storage.hosts.luns.errors.lun_id_duplicate_group".toList
  throwIf (lunIdUsedOnTarget target lunId (some groupName))
    "storage.hosts.luns.errors.lun_id_duplicate_target".toList
  throwIf (deviceMappedOnTarget target deviceName)
    "storage.hosts.luns.errors.device_already_mapped".toList
  return buildLunPreviewLine lunId deviceName readOnly

def validateUnmapLun (lunId : Number) (target : Target) (groupName : Text) : Except Text Unit := do
  let group ← orThrow "storage.hosts.luns.errors.group_not_found".toList
    (target.groups.find? (·.name = groupName))
  throwIf (lunId.isInteger = false) "storage.hosts.luns.errors.lun_id_invalid".toList
  throwIf (group.luns.any (·.id = lunId) = false)
    "storage.hosts.luns.errors.lun_not_found".toList

theorem isGraphic_of_isHex {c : Char} (h : isHex c) : IsGraphic c := by
  simp [isHex, isLowerHex, Char.isDigit, UInt32.le_iff_toNat_le, Char.le_def] at h
  simp only [IsGraphic]
  omega

theorem isHex_of_isLowerHex {c : Char} (h : isLowerHex c) : isHex c := by
  rw [isHex, h, Bool.true_or]

theorem eq_colon_or_hex_of_isHexGroups {hex : Char → Bool} {width : Nat} {s : Text}
    (h : isHexGroups hex width s) {c : Char} (hc : c ∈ s) : c = ':' ∨ hex c = true := by
  obtain ⟨-, hGroups⟩ : (s.splitOn ':').length = 8 ∧
      ∀ g ∈ s.splitOn ':', g.length = width ∧ ∀ c ∈ g, hex c = true := by
    simpa [isHexGroups] using h
  have hJoin : [':'].intercalate (s.splitOn ':') = s := List.intercalate_splitOn ':'
  rw [← hJoin] at hc
  rcases mem_intercalate hc with hColon | ⟨g, hg, hcg⟩
  · exact Or.inl hColon
  · exact Or.inr ((hGroups g hg).2 c hcg)

theorem isWord_of_isHexGroups {hex : Char → Bool} {width : Nat} {s : Text}
    (hHex : ∀ c, hex c = true → isHex c = true) (h : isHexGroups hex width s) :
    IsWord s := by
  constructor
  · rintro rfl
    simp [isHexGroups] at h
  · intro c hc
    rcases eq_colon_or_hex_of_isHexGroups h hc with rfl | hc
    · decide
    · exact (isGraphic_of_isHex (hHex c hc)).isSpace

/-- The form of an InfiniBand port with colons is not the one with `0x`. -/
theorem isIbGuidColons_eq_false {x : Char} {s : Text} (h : x = 'x' ∨ x = 'X') :
    isIbGuidColons ('0' :: x :: s) = false := by
  cases hGuid : isIbGuidColons ('0' :: x :: s) with
  | false => rfl
  | true =>
    have hx := eq_colon_or_hex_of_isHexGroups (c := x) hGuid (by simp)
    rcases h with rfl | rfl <;> exact absurd hx (by decide)

theorem isGraphic_of_identifier {c : Char}
    (h : (c.isAlphanum || c == '.' || c == '_' || c == ':' || c == '-')) : IsGraphic c := by
  simp only [Bool.or_eq_true, beq_iff_eq] at h
  rcases h with (((h | rfl) | rfl) | rfl) | rfl
  · exact isGraphic_of_isAlphanum h
  all_goals decide

theorem isWord_of_isIqn {s : Text} (h : isIqn s) : IsWord s := by
  unfold isIqn at h
  split at h
  · rename_i y₁ y₂ y₃ y₄ m₁ m₂ rest
    simp only [Bool.and_eq_true, List.all_eq_true] at h
    obtain ⟨⟨hDigits, hDomain⟩, hIdentifier⟩ := h
    have hDigit {c : Char} (hc : c ∈ [y₁, y₂, y₃, y₄, m₁, m₂]) : isSpace c = false := by
      have hAlphanum : c.isAlphanum = true := by rw [Char.isAlphanum, hDigits c hc, Bool.or_true]
      exact (isGraphic_of_isAlphanum hAlphanum).isSpace
    have hRest : ∀ c ∈ rest, isSpace c = false := by
      have hDomain := isWord_of_consistsOf (fun c hc => isGraphic_of_identifier (c := c) (by
        simp only [Bool.or_eq_true, beq_iff_eq] at hc ⊢
        tauto)) hDomain
      intro c hc
      rw [← List.takeWhile_append_dropWhile (p := (· != ':')) (l := rest)] at hc
      rcases List.mem_append.mp hc with hc | hc
      · exact hDomain.2 c hc
      · split at hIdentifier
        · rename_i identifier hDrop
          rw [hDrop] at hc
          rcases List.mem_cons.mp hc with rfl | hc
          · decide
          · exact (isGraphic_of_identifier (List.all_eq_true.mp hIdentifier c hc)).isSpace
        · simp at hIdentifier
    refine ⟨by simp, fun c hc => ?_⟩
    simp only [List.mem_cons] at hc
    rcases hc with rfl | rfl | rfl | rfl | rfl | rfl | rfl | rfl | rfl | rfl | rfl | rfl | hc
    · decide
    · decide
    · decide
    · decide
    · exact hDigit (by simp)
    · exact hDigit (by simp)
    · exact hDigit (by simp)
    · exact hDigit (by simp)
    · decide
    · exact hDigit (by simp)
    · exact hDigit (by simp)
    · decide
    · exact hRest c hc
  · simp at h

theorem isWord_of_isPattern {s : Text} (h : isPattern s) : IsWord s := by
  refine isWord_of_consistsOf (fun c hc => ?_) h
  rw [Bool.or_eq_true, List.contains_iff_mem] at hc
  rcases hc with hc | hc
  · exact isGraphic_of_isAlphanum hc
  · have hAll : ∀ x ∈ ['.', ':', '*', '!', '?', '_', '-'], IsGraphic x := by simp; decide
    exact hAll c hc

theorem isWord_of_isGroupName {s : Text} (h : isGroupName s) : IsWord s :=
  isWord_of_consistsOf (fun c hc => isGraphic_of_identifier (by
    simp only [Bool.or_eq_true, beq_iff_eq] at hc ⊢
    tauto)) h

theorem isWord_of_isDeviceName {s : Text} (h : isDeviceName s) : IsWord s :=
  isWord_of_consistsOf (fun c hc => isGraphic_of_identifier (by
    simp only [Bool.or_eq_true, beq_iff_eq] at hc ⊢
    tauto)) h

theorem isWord_of_isIbGuidHex {s : Text} (h : isIbGuidHex s) : IsWord s := by
  unfold isIbGuidHex at h
  split at h
  · rename_i x hex
    rw [Bool.and_eq_true, Bool.or_eq_true, beq_iff_eq, beq_iff_eq] at h
    have hHex := isWord_of_consistsOf (fun c hc => isGraphic_of_isHex hc) h.2
    refine ⟨by simp, fun c hc => ?_⟩
    rcases List.mem_cons.mp hc with rfl | hc
    · decide
    · rcases List.mem_cons.mp hc with rfl | hc
      · rcases h.1 with rfl | rfl <;> decide
      · exact hHex.2 c hc
  · simp at h

theorem isWord_of_validateTargetName {name driver : Text}
    (h : validateTargetName name driver = .ok ()) : IsWord name := by
  unfold validateTargetName at h
  split at h
  · rw [throwIf_eq_ok, Bool.not_eq_false] at h
    exact isWord_of_isIqn h
  · split at h
    · rw [throwIf_eq_ok, Bool.not_eq_false] at h
      exact isWord_of_isHexGroups (fun _ hc => hc) h
    · rw [throwIf_eq_ok, Bool.not_eq_false] at h
      exact isWord_of_consistsOf (fun _ hc => isGraphic_of_identifier hc) h

theorem validateGroupName_eq_ok {name normalized : Text} :
    validateGroupName name = .ok normalized ↔ normalized = trim name ∧ isGroupName normalized := by
  simp only [validateGroupName, bind_eq_ok, throwIf_eq_ok, pure_eq_ok, exists_const,
    Bool.not_eq_false]
  constructor
  · rintro ⟨-, hName, rfl⟩
    exact ⟨rfl, hName⟩
  · rintro ⟨rfl, hName⟩
    exact ⟨(isWord_of_isGroupName hName).ne_nil, hName, rfl⟩

section

variable {toLowerCase : Text → Text}

theorem isWord_of_validateInitiatorValue {raw : Text} {options : ValidateInitiatorOptions}
    {v : NormalizedInitiator} (h : validateInitiatorValue toLowerCase raw options = .ok v) :
    IsWord v.normalized := by
  simp only [validateInitiatorValue, bind_eq_ok, throwIf_eq_ok, exists_const] at h
  obtain ⟨-, h⟩ := h
  split at h
  · simp at h
  · simp only [normalizePattern, bind_eq_ok, throwIf_eq_ok, pure_eq_ok, exists_const,
      Bool.not_eq_false] at h
    obtain ⟨hPattern, rfl⟩ := h
    exact isWord_of_isPattern hPattern
  · simp only [normalizeFc, bind_eq_ok, throwIf_eq_ok, pure_eq_ok, exists_const,
      Bool.not_eq_false] at h
    obtain ⟨hWwpn, rfl⟩ := h
    exact isWord_of_isHexGroups (fun _ hc => isHex_of_isLowerHex hc) hWwpn
  · simp only [normalizeIscsi, bind_eq_ok, throwIf_eq_ok, pure_eq_ok, exists_const,
      Bool.not_eq_false] at h
    obtain ⟨hIqn, rfl⟩ := h
    exact isWord_of_isIqn hIqn
  · unfold normalizeIb at h
    simp only at h
    split at h
    · simp only [bind_eq_ok, throwIf_eq_ok, pure_eq_ok, exists_const, Bool.not_eq_false] at h
      obtain ⟨hGuid, rfl⟩ := h
      exact isWord_of_isHexGroups (fun _ hc => hc) hGuid
    · split at h
      · rename_i hGuid
        rw [pure_eq_ok] at h
        exact h ▸ isWord_of_isIbGuidHex hGuid
      · simp only [bind_eq_ok, throwIf_eq_ok, pure_eq_ok, exists_const, Bool.not_eq_false] at h
        obtain ⟨hHex, rfl⟩ := h
        rw [Bool.and_eq_true, List.all_eq_true] at hHex
        refine ⟨by simp, fun c hc => ?_⟩
        rcases List.mem_append.mp hc with hc | hc
        · have hPrefix : IsWord "0x".toList := by decide
          exact hPrefix.2 c hc
        · exact (isGraphic_of_isHex (isHex_of_isLowerHex (hHex.2 c hc))).isSpace

end

theorem printsAsDigits_of_isLunId {id : Number} (h : isLunId id) : id.PrintsAsDigits := by
  cases id with
  | int v =>
    simp only [isLunId, lunIdMin, lunIdMax, Bool.and_eq_true] at h
    obtain ⟨hLow, hHigh⟩ := And.imp of_decide_eq_true of_decide_eq_true h
    obtain ⟨n, rfl⟩ := Int.eq_ofNat_of_zero_le hLow
    refine Number.printsAsDigits_of_lt (lt_of_le_of_lt (b := 65535) ?_ (by decide))
    omega
  | infinity => simp [isLunId] at h
  | other printed positive => simp [isLunId] at h

end EsosWebui.Scst
