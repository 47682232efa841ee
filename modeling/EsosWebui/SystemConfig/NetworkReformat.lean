import EsosWebui.SystemConfig.NetworkRoundTrip

/-! A file that is written again as it was read: which interfaces keep what they were given. -/
namespace EsosWebui.SystemConfig

open Js

variable {content : Text} {fields : SectionMap}

inductive MtuSetting where
  | number (value : Number)
  | text (raw : Text)

def mtuSetting (mtuRaw : Option Text) : MtuSetting :=
  match mtuRaw with
  | none | some [] => .number (.int 1500)
  | some raw => if Number.isDecimal raw then .number (.parseIntText raw) else .text raw

structure SameSettings (before after : SectionMap) : Prop where
  bootproto : bootprotoOf after = bootprotoOf before
  addresses : addressesOf after = addressesOf before
  mtu : mtuSetting (after.get mtuKey) = mtuSetting (before.get mtuKey)

/-- No interface is given another protocol, address or MTU. -/
def KeepsInterfaces (before after : IniMap) : Prop :=
  ∀ b ∈ interfaceSections before, ∃ kept, after.get b.1 = some kept ∧ SameSettings b.2 kept

/-- What a file becomes when its own configuration is written over it. -/
def reformat (content : Text) : Text := rewrite (parseNetworkConf content) content

/-- No MTU, an empty one, `NaN`, or an integer that prints without an exponent. -/
def PrintableMtu (mtuRaw : Option Text) : Prop :=
  mtuRaw = none ∨ mtuRaw = some [] ∨ mtuRaw = some Number.nan.toText ∨
    ∃ raw, mtuRaw = some raw ∧ Number.isDecimal raw = true ∧
      Number.PrintsPlainly (.parseIntText raw)

/-- The settings that the serializer can write. -/
structure SettledInterface (fields : SectionMap) : Prop where
  bootproto : bootprotoOf fields = dhcp ∧ addressesOf fields = ([], [], []) ∨
    bootprotoOf fields = static
  mtu : PrintableMtu (fields.get mtuKey)

/-- Every interface has a name and settings that the serializer can write. -/
def Reformattable (original : IniMap) : Prop :=
  ∀ b ∈ interfaceSections original, b.1 ≠ [] ∧ SettledInterface b.2

theorem mtuSetting_of_ne_nil {raw : Text} (h : raw ≠ []) : mtuSetting (some raw) =
    if Number.isDecimal raw then .number (.parseIntText raw) else .text raw := by
  obtain ⟨c, rest, rfl⟩ := List.exists_cons_of_ne_nil h
  rfl

theorem mtuSetting_default :
    mtuSetting (some (Number.int 1500).toText) = .number (.int 1500) := by
  have hBack : Number.parseIntText (Number.int 1500).toText = .int 1500 :=
    Number.parseIntText_toText (by decide)
  have hDecimal : Number.isDecimal (Number.int 1500).toText = true := by decide
  rw [mtuSetting_of_ne_nil (by decide), if_pos hDecimal, hBack]

theorem mtuSetting_decimal_iff {raw : Text} (hDecimal : Number.isDecimal raw) :
    mtuSetting (some (Number.parseIntText raw).toText) = .number (.parseIntText raw) ↔
      Number.PrintsPlainly (.parseIntText raw) := by
  obtain ⟨hIff, hBack⟩ := Number.isDecimal_toText_parseIntText hDecimal
  rw [mtuSetting_of_ne_nil (Number.isWord_toText_parseIntText raw).ne_nil]
  split
  · rename_i hText
    exact iff_of_true (congrArg _ (hBack (hIff.mp hText))) (hIff.mp hText)
  · rename_i hText
    refine iff_of_false ?_ fun hPlain => hText (hIff.mpr hPlain)
    intro h
    cases h

theorem mtuSetting_text_iff {raw : Text} (hText : Number.isDecimal raw = false) :
    mtuSetting (some (Number.parseIntText raw).toText) = .text raw ↔
      raw = Number.nan.toText := by
  rw [mtuSetting_of_ne_nil (Number.isWord_toText_parseIntText raw).ne_nil]
  constructor
  · intro h
    split at h
    · cases h
    · exact Number.eq_nan_of_toText_eq hText (MtuSetting.text.inj h)
  · rintro rfl
    rfl

theorem mtuSetting_written_iff (mtuRaw : Option Text) :
    mtuSetting (some (parseMtu mtuRaw).toText) = mtuSetting mtuRaw ↔ PrintableMtu mtuRaw := by
  cases mtuRaw with
  | none => exact iff_of_true mtuSetting_default (Or.inl rfl)
  | some raw =>
    by_cases hNil : raw = []
    · rw [hNil]
      exact iff_of_true mtuSetting_default (Or.inr (Or.inl rfl))
    · rw [parseMtu_of_ne_nil hNil, mtuSetting_of_ne_nil hNil]
      cases hDecimal : Number.isDecimal raw with
      | true =>
        rw [if_pos rfl, mtuSetting_decimal_iff hDecimal]
        constructor
        · exact fun hPlain => Or.inr (Or.inr (Or.inr ⟨raw, rfl, hDecimal, hPlain⟩))
        · rintro (hNone | hSome | hNan | ⟨other, hOther, -, hPlain⟩)
          · cases hNone
          · exact absurd (Option.some.inj hSome) hNil
          · rw [Option.some.inj hNan] at hDecimal
            exact absurd hDecimal (by decide)
          · rwa [Option.some.inj hOther]
      | false =>
        rw [if_neg (by simp), mtuSetting_text_iff hDecimal]
        constructor
        · exact fun hNan => Or.inr (Or.inr (Or.inl (congrArg some hNan)))
        · rintro (hNone | hSome | hNan | ⟨other, hOther, hIs, -⟩)
          · cases hNone
          · exact absurd (Option.some.inj hSome) hNil
          · exact Option.some.inj hNan
          · rw [← Option.some.inj hOther, hDecimal] at hIs
            cases hIs

theorem sameSettings_iff {original : IniMap} {name : Text} {index : Nat} :
    SameSettings fields (serializedInterface original (parseInterface index name fields)) ↔
      SettledInterface fields := by
  have hProto : (parseInterface index name fields).useDHCP = true ↔ bootprotoOf fields = dhcp := by
    simp [parseInterface]
  have hMtu : ((parseInterface index name fields).mtu.getD (.int 1500)).toText =
      (parseMtu (fields.get mtuKey)).toText := rfl
  have hAddresses : ((parseInterface index name fields).ipAddress,
      (parseInterface index name fields).netmask, (parseInterface index name fields).broadcast) =
      addressesOf fields := rfl
  have hStaticNe : static ≠ dhcp := by decide
  constructor
  · rintro ⟨hSameProto, hSameAddresses, hSameMtu⟩
    rw [get_mtu, hMtu, mtuSetting_written_iff] at hSameMtu
    rw [bootprotoOf_serializedInterface] at hSameProto
    rw [addressesOf_serializedInterface, hAddresses] at hSameAddresses
    refine ⟨?_, hSameMtu⟩
    split at hSameProto
    · rename_i hDhcp
      rw [if_pos hDhcp] at hSameAddresses
      exact Or.inl ⟨hSameProto.symm, hSameAddresses.symm⟩
    · exact Or.inr hSameProto.symm
  · rintro ⟨hSettled, hPrintable⟩
    refine ⟨?_, ?_, ?_⟩
    · rw [bootprotoOf_serializedInterface]
      rcases hSettled with ⟨hDhcp, -⟩ | hStatic
      · rw [if_pos (hProto.mpr hDhcp), hDhcp]
      · have hNot : ¬ (parseInterface index name fields).useDHCP = true :=
          fun h => hStaticNe (hStatic.symm.trans (hProto.mp h))
        rw [if_neg hNot, hStatic]
    · rw [addressesOf_serializedInterface, hAddresses]
      rcases hSettled with ⟨hDhcp, hNone⟩ | hStatic
      · rw [if_pos (hProto.mpr hDhcp), hNone]
      · have hNot : ¬ (parseInterface index name fields).useDHCP = true :=
          fun h => hStaticNe (hStatic.symm.trans (hProto.mp h))
        rw [if_neg hNot]
    · rw [get_mtu, hMtu]
      exact (mtuSetting_written_iff _).mpr hPrintable

theorem cleanFields_of_mem {b : Text × SectionMap} (h : b ∈ (parseIni content).entries) :
    CleanFields b.2 := by
  have hClean := cleanSection_of_mem_parseIni h
  exact fun e he => ⟨hClean.keys e he, hClean.values e he⟩

/-- What is read of a file can be written in its lines. -/
theorem cleanConfig_parseNetworkConf (content : Text) : CleanConfig (parseNetworkConf content) := by
  have hGeneral := cleanFields_fieldsOf content generalName
  refine ⟨hGeneral.getD defaultgwKey, hGeneral.getD domainnameKey, ?_, ?_, ?_, ?_⟩
  · intro ns hns
    obtain ⟨key, -, rfl⟩ := List.mem_map.mp (List.mem_of_mem_filter hns)
    exact hGeneral.getD key
  · intro iface hIface
    obtain ⟨index, b, hb, rfl⟩ := exists_of_mem_interfaces hIface
    exact (cleanSection_of_mem_parseIni hb).name
  · intro iface hIface
    obtain ⟨index, b, hb, rfl⟩ := exists_of_mem_interfaces hIface
    have hMtu : CleanValue (parseMtu (b.2.get mtuKey)).toText := by
      unfold parseMtu
      split
      · exact cleanValue_toText_int (by decide)
      · exact cleanValue_toText_int (by decide)
      · exact cleanValue_of_isSpace (Number.isWord_toText_parseIntText _).2
    exact hMtu
  · intro iface hIface _
    obtain ⟨index, b, hb, rfl⟩ := exists_of_mem_interfaces hIface
    have hFields := cleanFields_of_mem hb
    exact ⟨hFields.getD ipaddrKey, hFields.getD netmaskKey, hFields.getD broadcastKey⟩

theorem mem_ifnames_parseNetworkConf {name : Text} :
    name ∈ (parseNetworkConf content).interfaces.map (·.ifname) ↔
      ∃ b ∈ interfaceSections (parseIni content), b.1 = name := by
  rw [parseNetworkConf, map_ifname_configOf, List.mem_map]

/-- A section without a name is lost. -/
theorem ne_nil_of_keepsInterfaces
    (h : KeepsInterfaces (parseIni content) (parseIni (reformat content))) :
    ∀ b ∈ interfaceSections (parseIni content), b.1 ≠ [] := by
  intro b hb hNil
  obtain ⟨kept, hKept, -⟩ := h b hb
  have hMem : b.1 ∈ (parseIni (reformat content)).keys :=
    OrderedMap.mem_keys_iff_get.mpr ⟨kept, hKept⟩
  rw [hNil, reformat, rewrite, serializeNetworkConf_eq] at hMem
  exact nil_not_mem_keys (cleanConfig_parseNetworkConf content).cleanSection hMem

theorem readsBack_reformat (hNamed : ∀ b ∈ interfaceSections (parseIni content), b.1 ≠ [])
    (hPlain : PlainFile (parseNetworkConf content) (parseIni content)) :
    ReadsBack (parseNetworkConf content) (parseIni content) (parseIni (reformat content)) := by
  have hNames := nodup_interfaceNames (parseIni content)
  rw [← map_ifname_configOf] at hNames
  refine (cleanConfig_parseNetworkConf content).readsBack ?_ hNames.1 hNames.2 hPlain
  intro iface hIface
  obtain ⟨b, hb, hEq⟩ := mem_ifnames_parseNetworkConf.mp (List.mem_map_of_mem hIface)
  exact hEq ▸ hNamed b hb

theorem keepsInterfaces_iff_of_readsBack
    (hRead : ReadsBack (parseNetworkConf content) (parseIni content)
      (parseIni (reformat content))) :
    KeepsInterfaces (parseIni content) (parseIni (reformat content)) ↔
      ∀ b ∈ interfaceSections (parseIni content), SettledInterface b.2 := by
  have hGet : ∀ b ∈ interfaceSections (parseIni content), ∃ index,
      (parseIni (reformat content)).get b.1 =
        some (serializedInterface (parseIni content) (parseInterface index b.1 b.2)) := by
    intro b hb
    obtain ⟨index, hIndex, hAt⟩ := List.mem_iff_getElem.mp hb
    have hMem : parseInterface index b.1 b.2 ∈ (parseNetworkConf content).interfaces :=
      List.mem_mapIdx.mpr ⟨index, hIndex, by rw [hAt]⟩
    have hRewritten := hRead.get_interface hMem
    exact ⟨index, hRewritten⟩
  constructor
  · intro hKeeps b hb
    obtain ⟨index, hRewritten⟩ := hGet b hb
    obtain ⟨kept, hKept, hSame⟩ := hKeeps b hb
    rw [hRewritten] at hKept
    rw [← Option.some.inj hKept] at hSame
    exact sameSettings_iff.mp hSame
  · intro hSettled b hb
    obtain ⟨index, hRewritten⟩ := hGet b hb
    exact ⟨_, hRewritten, sameSettings_iff.mpr (hSettled b hb)⟩

/-- When no entry opens a section, the interfaces keep their settings exactly if these can be
written. -/
theorem keepsInterfaces_iff (hPlain : PlainFile (parseNetworkConf content) (parseIni content)) :
    KeepsInterfaces (parseIni content) (parseIni (reformat content)) ↔
      Reformattable (parseIni content) := by
  constructor
  · intro hKeeps
    have hNamed := ne_nil_of_keepsInterfaces hKeeps
    have hSettled := (keepsInterfaces_iff_of_readsBack (readsBack_reformat hNamed hPlain)).mp hKeeps
    exact fun b hb => ⟨hNamed b hb, hSettled b hb⟩
  · intro hFile
    exact (keepsInterfaces_iff_of_readsBack
      (readsBack_reformat (fun b hb => (hFile b hb).1) hPlain)).mpr fun b hb => (hFile b hb).2

/-- Nothing is lost exactly if besides no entry opens a section. -/
theorem keepsFile_iff :
    KeepsInterfaces (parseIni content) (parseIni (reformat content)) ∧
      KeepsRest (parseNetworkConf content) (parseIni content) (parseIni (reformat content)) ↔
    Reformattable (parseIni content) ∧
      PlainFile (parseNetworkConf content) (parseIni content) := by
  constructor
  · rintro ⟨hKeeps, hRest⟩
    have hPlain := (cleanConfig_parseNetworkConf content).plainFile hRest
    exact ⟨(keepsInterfaces_iff hPlain).mp hKeeps, hPlain⟩
  · rintro ⟨hFile, hPlain⟩
    exact ⟨(keepsInterfaces_iff hPlain).mpr hFile,
      (readsBack_reformat (fun b hb => (hFile b hb).1) hPlain).keepsRest⟩

/-- What the route accepts is read back over any file exactly if it fits it, and a file whose own
configuration is written over it keeps its interfaces exactly if their settings can be written. -/
theorem network_laws (config : NetworkGeneralConfig) (content : Text) :
    (checkNetworkPatch config = .ok () →
      (SameNetwork config (parseNetworkConf (rewrite config content)) ∧
          KeepsRest config (parseIni content) (parseIni (rewrite config content)) ↔
        FitsFile config (parseIni content))) ∧
    (KeepsInterfaces (parseIni content) (parseIni (reformat content)) ∧
        KeepsRest (parseNetworkConf content) (parseIni content) (parseIni (reformat content)) ↔
      Reformattable (parseIni content) ∧
        PlainFile (parseNetworkConf content) (parseIni content)) ∧
    (PlainFile (parseNetworkConf content) (parseIni content) →
      (KeepsInterfaces (parseIni content) (parseIni (reformat content)) ↔
        Reformattable (parseIni content))) :=
  ⟨fun hChecked => roundTrip_iff_fitsFile (acceptedNetwork_of_check hChecked),
    keepsFile_iff, keepsInterfaces_iff⟩

def staticNetwork (broadcast : Text) : NetworkGeneralConfig where
  gateway := []
  nameservers := []
  searchDomain := []
  interfaces :=
    [{ index := 0
       ifname := "eth0".toList
       useDHCP := false
       ipAddress := "10.0.0.2".toList
       netmask := "255.255.255.0".toList
       broadcast
       mtu := some (.int 1500)
       dhcpTimeout := none }]

theorem network_laws_staticNetwork :
    SameNetwork (staticNetwork "10.0.0.255".toList)
        (parseNetworkConf (rewrite (staticNetwork "10.0.0.255".toList) [])) ∧
      KeepsRest (staticNetwork "10.0.0.255".toList) (parseIni [])
        (parseIni (rewrite (staticNetwork "10.0.0.255".toList) [])) := by
  refine ((network_laws (staticNetwork "10.0.0.255".toList) []).1 rfl).mpr ?_
  have hPlain (name : Text) : PlainFields (fieldsOf (parseIni []) name) :=
    fun e he => absurd he List.not_mem_nil
  refine ⟨Or.inr rfl, by decide, by decide, by decide, ?_, hPlain _, fun iface _ => hPlain _⟩
  intro iface hIface _
  rw [List.mem_singleton.mp hIface]
  exact cleanValue_of_all (by decide)

/-- A line end in the broadcast address, which no check looks at, makes a static interface one
that asks for its address. -/
theorem broadcast_sets_dhcp :
    ¬ ((∀ config content, checkNetworkPatch config = .ok () →
        SameNetwork config (parseNetworkConf (rewrite config content)) ∧
          KeepsRest config (parseIni content) (parseIni (rewrite config content))) ∧
      ∀ content, KeepsInterfaces (parseIni content) (parseIni (reformat content))) := by
  rintro ⟨hRoundTrip, -⟩
  have hSame := (hRoundTrip (staticNetwork "10.0.0.255\nbootproto = dhcp".toList) [] rfl).1
  obtain ⟨read, hRead, hIface⟩ := sameInterface_mem hSame.interfaces List.mem_cons_self
  have hDhcp : ∀ iface ∈ (parseNetworkConf
      (rewrite (staticNetwork "10.0.0.255\nbootproto = dhcp".toList) [])).interfaces,
      iface.useDHCP = true := by decide +kernel
  exact absurd ((hDhcp read hRead).symm.trans hIface.useDHCP) (by decide)

end EsosWebui.SystemConfig
