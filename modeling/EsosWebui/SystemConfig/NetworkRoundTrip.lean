import EsosWebui.Js.Arrays
import EsosWebui.SystemConfig.NetworkSections

/-! A network configuration that is written and read again, and what becomes of the rest of the
file. -/
namespace EsosWebui.SystemConfig

open Js

variable {config : NetworkGeneralConfig} {content : Text}

def writtenSections (config : NetworkGeneralConfig) (original : IniMap)
    (hostname domainname : Text) : List (Text × SectionMap) :=
  (generalName, serializedGeneral config original hostname domainname) ::
    config.interfaces.map fun iface => (iface.ifname, serializedInterface original iface)

theorem unlines_append (l m : List Text) : unlines (l ++ m) = unlines l ++ unlines m :=
  List.flatMap_append

theorem serializeNetworkConf_eq (config : NetworkGeneralConfig)
    (content hostname domainname : Text) :
    serializeNetworkConf config content hostname domainname =
      unlines (writtenLines (writtenSections config (parseIni content) hostname domainname)) := by
  have hInterfaces (l : List (Text × SectionMap)) :
      unlines (l.flatMap sectionLines) = l.flatMap fun b => unlines (sectionLines b) := by
    rw [unlines, List.flatMap_assoc]
    rfl
  have hGeneral (rest : List Text) (general : SectionMap) :
      unlines (preamble ++ (sectionLines (generalName, general) ++ rest)) =
        unlines (preamble ++ [[]]) ++
          unlines (headerLine generalName :: general.entries.map entryLine) ++ unlines rest := by
    rw [← unlines_append, ← unlines_append]
    refine congrArg unlines ?_
    rw [sectionLines, List.append_assoc, List.append_assoc]
    rfl
  rw [writtenLines, writtenSections, List.flatMap_cons, hGeneral, hInterfaces, List.flatMap_map]
  rfl

structure SameInterface (iface read : NetworkInterfaceConfig) : Prop where
  ifname : read.ifname = iface.ifname
  useDHCP : read.useDHCP = iface.useDHCP
  addresses : iface.useDHCP = false → read.ipAddress = iface.ipAddress ∧
    read.netmask = iface.netmask ∧ read.broadcast = iface.broadcast
  mtu : read.mtu = iface.mtu

structure SameNetwork (config read : NetworkGeneralConfig) : Prop where
  gateway : read.gateway = config.gateway
  nameservers : read.nameservers = config.nameservers
  searchDomain : read.searchDomain = config.searchDomain
  interfaces : List.Forall₂ SameInterface config.interfaces read.interfaces

def KeepsUnmanaged (before after : IniMap) (name : Text) (managed : List Text) : Prop :=
  ∀ fields key value, before.get name = some fields → fields.get key = some value →
    key ∉ managed → ∃ kept, after.get name = some kept ∧ kept.get key = some value

/-- The same of `[general]` and of the interfaces of a configuration. -/
def KeepsRest (config : NetworkGeneralConfig) (before after : IniMap) : Prop :=
  KeepsUnmanaged before after generalName managedGeneral ∧
    ∀ iface ∈ config.interfaces, KeepsUnmanaged before after iface.ifname managedInterface

def rewrite (config : NetworkGeneralConfig) (content : Text) : Text :=
  serializeNetworkConf config content [] []

/-- No entry of the sections that are kept opens a section. -/
def PlainFile (config : NetworkGeneralConfig) (original : IniMap) : Prop :=
  PlainFields (fieldsOf original generalName) ∧
    ∀ iface ∈ config.interfaces, PlainFields (fieldsOf original iface.ifname)

/-- The configurations that survive being written over a file. -/
structure FitsFile (config : NetworkGeneralConfig) (original : IniMap) : Prop where
  searchDomain : config.searchDomain ≠ [] ∨
    ((fieldsOf original generalName).get domainnameKey).getD [] = []
  nameservers : [] ∉ config.nameservers ∧ config.nameservers.length ≤ 3
  ifnames : (config.interfaces.map (·.ifname)).Nodup ∧
    generalName ∉ config.interfaces.map (·.ifname)
  mtus : ∀ iface ∈ config.interfaces, iface.mtu ≠ none
  broadcasts : ∀ iface ∈ config.interfaces, iface.useDHCP = false → CleanValue iface.broadcast
  plain : PlainFile config original

theorem nodup_interfaceNames (ini : IniMap) :
    ((interfaceSections ini).map Prod.fst).Nodup ∧
      generalName ∉ (interfaceSections ini).map Prod.fst := by
  constructor
  · exact ini.nodup.sublist (List.filter_sublist.map _)
  · simp [interfaceSections]

theorem map_ifname_configOf (ini : IniMap) :
    (configOf ini).interfaces.map (·.ifname) = (interfaceSections ini).map Prod.fst := by
  refine List.ext_getElem (by simp [configOf]) fun i hi hi' => ?_
  simp [configOf, parseInterface]

theorem exists_of_mem_interfaces {ini : IniMap} {read : NetworkInterfaceConfig}
    (h : read ∈ (configOf ini).interfaces) :
    ∃ index, ∃ b ∈ ini.entries, read = parseInterface index b.1 b.2 := by
  obtain ⟨i, hi, rfl⟩ := List.mem_mapIdx.mp h
  exact ⟨i, _, List.mem_of_mem_filter (List.getElem_mem hi), rfl⟩

theorem ifnames_of_sameInterfaces {l m : List NetworkInterfaceConfig}
    (h : List.Forall₂ SameInterface l m) : l.map (·.ifname) = m.map (·.ifname) := by
  induction h with
  | nil => rfl
  | cons hHead _ ih => rw [List.map_cons, List.map_cons, ih, hHead.ifname]

theorem cleanValue_broadcast {text : Text} {read : NetworkInterfaceConfig}
    (h : read ∈ (parseNetworkConf text).interfaces) :
    CleanValue read.broadcast ∧ read.mtu ≠ none := by
  obtain ⟨index, b, hb, rfl⟩ := exists_of_mem_interfaces h
  have hClean := cleanSection_of_mem_parseIni hb
  have hFields : CleanFields b.2 := fun e he => ⟨hClean.keys e he, hClean.values e he⟩
  exact ⟨hFields.getD broadcastKey, by simp [parseInterface]⟩

theorem sameInterface_mem {l m : List NetworkInterfaceConfig} (h : List.Forall₂ SameInterface l m)
    {iface : NetworkInterfaceConfig} (hMem : iface ∈ l) :
    ∃ read ∈ m, SameInterface iface read := exists_of_forall₂_left h hMem

theorem cleanValue_toText_int {v : Int} (h : v.natAbs < 2 ^ doubleBits) :
    CleanValue (Number.int v).toText := cleanValue_of_isSpace (Number.isWord_toText_int h).2

theorem generalName_ne_nil : generalName ≠ [] := by decide

theorem cleanValue_generalName : CleanValue generalName := cleanValue_of_all (by decide)

/-- A configuration whose values each stand in one line. -/
structure CleanConfig (config : NetworkGeneralConfig) : Prop where
  gateway : CleanValue config.gateway
  searchDomain : CleanValue config.searchDomain
  nameservers : ∀ ns ∈ config.nameservers, CleanValue ns
  ifnames : ∀ iface ∈ config.interfaces, CleanValue iface.ifname
  mtus : ∀ iface ∈ config.interfaces, CleanValue (iface.mtu.getD (.int 1500)).toText
  addresses : ∀ iface ∈ config.interfaces, iface.useDHCP = false →
    CleanValue iface.ipAddress ∧ CleanValue iface.netmask ∧ CleanValue iface.broadcast

theorem cleanConfig_of_accepted (hAccepted : AcceptedNetwork config)
    (hBroadcasts : ∀ iface ∈ config.interfaces, iface.useDHCP = false →
      CleanValue iface.broadcast) : CleanConfig config where
  gateway := cleanValue_of_isSpace hAccepted.gateway
  searchDomain := cleanValue_of_isSpace hAccepted.searchDomain
  nameservers ns hns := cleanValue_of_isSpace (hAccepted.nameservers ns hns)
  ifnames iface hIface := cleanValue_of_isSpace (hAccepted.ifnames iface hIface).2
  mtus iface hIface := by
    cases hMtu : iface.mtu with
    | none => exact cleanValue_toText_int (by decide)
    | some mtu =>
      obtain ⟨v, rfl, hv⟩ := hAccepted.mtus iface hIface mtu hMtu
      exact cleanValue_toText_int hv
  addresses iface hIface hStatic := by
    obtain ⟨hAddress, hMask⟩ := hAccepted.addresses iface hIface hStatic
    exact ⟨cleanValue_of_isSpace hAddress, cleanValue_of_isSpace hMask,
      hBroadcasts iface hIface hStatic⟩

theorem CleanConfig.cleanSection (h : CleanConfig config) :
    ∀ b ∈ writtenSections config (parseIni content) [] [], CleanSection b := by
  have hGeneral : CleanFields (serializedGeneral config (parseIni content) [] []) :=
    cleanFields_serializedGeneral (cleanFields_fieldsOf content generalName) h.gateway
      h.searchDomain h.nameservers
  intro b hb
  rcases List.mem_cons.mp hb with rfl | hb
  · exact ⟨cleanValue_generalName, fun e he => (hGeneral e he).1, fun e he => (hGeneral e he).2⟩
  · obtain ⟨iface, hIface, rfl⟩ := List.mem_map.mp hb
    have hFields : CleanFields (serializedInterface (parseIni content) iface) :=
      cleanFields_serializedInterface (cleanFields_fieldsOf content iface.ifname)
        (h.mtus iface hIface) (h.addresses iface hIface)
    exact ⟨h.ifnames iface hIface, fun e he => (hFields e he).1, fun e he => (hFields e he).2⟩

theorem CleanConfig.plainFile (h : CleanConfig config)
    (hKeeps : KeepsRest config (parseIni content) (parseIni (rewrite config content))) :
    PlainFile config (parseIni content) := by
  have hPlain {name : Text} {managed : List Text} (hManaged : managed ⊆ writtenKeys)
      (hName : KeepsUnmanaged (parseIni content) (parseIni (rewrite config content)) name
        managed) : PlainFields (fieldsOf (parseIni content) name) := by
    intro e he hOpens
    unfold fieldsOf at he
    cases hGet : (parseIni content).get name with
    | none =>
      rw [hGet] at he
      exact absurd he List.not_mem_nil
    | some fields =>
      rw [hGet] at he
      have hKey : e.1 ∉ managed :=
        fun hMem => not_opensSection_of_mem_writtenKeys (hManaged hMem) hOpens
      obtain ⟨kept, hKept, hValue⟩ :=
        hName fields e.1 e.2 hGet (OrderedMap.get_eq_some_iff.mpr he) hKey
      rw [rewrite, serializeNetworkConf_eq] at hKept
      exact not_opensSection_of_get h.cleanSection hKept hValue hOpens
  exact ⟨hPlain (by decide) hKeeps.1,
    fun iface hIface => hPlain (by decide) (hKeeps.2 iface hIface)⟩

/-- All of a list without empty texts is kept, up to three. -/
theorem take_filter_eq_self_iff {l : List Text} :
    (l.filter (· ≠ [])).take 3 = l ↔ [] ∉ l ∧ l.length ≤ 3 := by
  constructor
  · intro h
    have hLength : ((l.filter (· ≠ [])).take 3).length ≤ 3 := List.length_take_le _ _
    rw [h] at hLength
    refine ⟨fun hMem => ?_, hLength⟩
    rw [← h] at hMem
    simpa using List.mem_of_mem_take hMem
  · rintro ⟨hNil, hLength⟩
    have hFilter : l.filter (· ≠ []) = l :=
      List.filter_eq_self.mpr fun a ha => by simpa using fun hEq : a = [] => hNil (hEq ▸ ha)
    rw [hFilter, List.take_of_length_le hLength]

theorem ite_ne_eq_self_iff {a old : Text} :
    (if a ≠ [] then a else old) = a ↔ a ≠ [] ∨ old = [] := by
  by_cases ha : a = []
  · simp [ha]
  · simp [ha]

theorem sameInterface_iff {original : IniMap} {iface : NetworkInterfaceConfig} {index : Nat}
    (hMtu : ∀ mtu ∈ iface.mtu, ∃ v : Int, mtu = .int v ∧ v.natAbs < 2 ^ doubleBits) :
    SameInterface iface (parseInterface index iface.ifname (serializedInterface original iface)) ↔
      iface.mtu ≠ none := by
  have hProto : (parseInterface index iface.ifname
      (serializedInterface original iface)).useDHCP = iface.useDHCP := by
    simp only [parseInterface, bootprotoOf_serializedInterface]
    cases iface.useDHCP <;> decide
  have hRaw : (parseInterface index iface.ifname (serializedInterface original iface)).mtu =
      some (parseMtu (some (iface.mtu.getD (.int 1500)).toText)) := by
    simp only [parseInterface, get_mtu]
  constructor
  · rintro ⟨-, -, -, hSame⟩ hNone
    rw [hRaw, hNone] at hSame
    cases hSame
  · intro hGiven
    refine ⟨rfl, hProto, fun hStatic => ?_, ?_⟩
    · have hAddresses : addressesOf (serializedInterface original iface) =
          if iface.useDHCP then ([], [], [])
          else (iface.ipAddress, iface.netmask, iface.broadcast) := addressesOf_serializedInterface
      rw [hStatic, if_neg (by simp), addressesOf, Prod.mk.injEq, Prod.mk.injEq] at hAddresses
      exact hAddresses
    · obtain ⟨mtu, hSome⟩ := Option.ne_none_iff_exists'.mp hGiven
      obtain ⟨v, rfl, hv⟩ := hMtu mtu hSome
      have hNe : (Number.int v).toText ≠ [] := (Number.isWord_toText_int hv).ne_nil
      rw [hRaw, hSome, Option.getD_some, parseMtu_of_ne_nil hNe, Number.parseIntText_toText hv]

/-- A file whose sections are the written ones. -/
structure ReadsBack (config : NetworkGeneralConfig) (original read : IniMap) : Prop where
  entries : read.entries = writtenSections config original [] []
  ifnames : generalName ∉ config.interfaces.map (·.ifname)

theorem CleanConfig.readsBack (h : CleanConfig config)
    (hNamed : ∀ iface ∈ config.interfaces, iface.ifname ≠ [])
    (hNodup : (config.interfaces.map (·.ifname)).Nodup)
    (hGeneral : generalName ∉ config.interfaces.map (·.ifname))
    (hPlain : PlainFile config (parseIni content)) :
    ReadsBack config (parseIni content) (parseIni (rewrite config content)) := by
  refine ⟨?_, hGeneral⟩
  rw [rewrite, serializeNetworkConf_eq]
  refine parseIni_written_entries h.cleanSection ?_ ?_
  · intro b hb
    rcases List.mem_cons.mp hb with rfl | hb
    · exact ⟨generalName_ne_nil, plainFields_serializedGeneral hPlain.1⟩
    · obtain ⟨iface, hIface, rfl⟩ := List.mem_map.mp hb
      exact ⟨hNamed iface hIface, plainFields_serializedInterface (hPlain.2 iface hIface)⟩
  · rw [writtenSections, List.map_cons, List.map_map]
    exact List.nodup_cons.mpr ⟨hGeneral, hNodup⟩

section

variable {original read : IniMap} (hRead : ReadsBack config original read)
include hRead

theorem ReadsBack.get_general :
    read.get generalName = some (serializedGeneral config original [] []) := by
  rw [OrderedMap.get_eq_some_iff, hRead.entries]
  exact List.mem_cons_self

theorem ReadsBack.get_interface {iface : NetworkInterfaceConfig}
    (h : iface ∈ config.interfaces) :
    read.get iface.ifname = some (serializedInterface original iface) := by
  rw [OrderedMap.get_eq_some_iff, hRead.entries]
  exact List.mem_cons_of_mem _ (List.mem_map_of_mem h)

theorem ReadsBack.interfaceSections_eq : interfaceSections read =
    config.interfaces.map fun iface => (iface.ifname, serializedInterface original iface) := by
  rw [interfaceSections, hRead.entries, writtenSections, List.filter_cons_of_neg (by simp)]
  refine List.filter_eq_self.mpr fun b hb => ?_
  obtain ⟨iface, hIface, rfl⟩ := List.mem_map.mp hb
  have hNe : iface.ifname ≠ generalName := by
    intro hEq
    exact hRead.ifnames (hEq ▸ List.mem_map_of_mem hIface)
  simpa using hNe

theorem ReadsBack.keepsRest : KeepsRest config original read := by
  have hFields {name : Text} {fields : SectionMap} (h : original.get name = some fields) :
      fieldsOf original name = fields := by rw [fieldsOf, h]; rfl
  constructor
  · intro fields key value hOld hValue hKey
    refine ⟨_, hRead.get_general, ?_⟩
    rw [get_serializedGeneral hKey, hFields hOld, hValue]
  · intro iface hIface fields key value hOld hValue hKey
    refine ⟨_, hRead.get_interface hIface, ?_⟩
    rw [get_serializedInterface hKey, hFields hOld, hValue]

theorem ReadsBack.interfaces_eq : (configOf read).interfaces =
    config.interfaces.mapIdx fun index iface =>
      parseInterface index iface.ifname (serializedInterface original iface) := by
  rw [configOf, hRead.interfaceSections_eq]
  refine List.ext_getElem (by simp) fun i hi hi' => ?_
  simp

theorem ReadsBack.sameInterfaces_iff (hAccepted : AcceptedNetwork config) :
    List.Forall₂ SameInterface config.interfaces (configOf read).interfaces ↔
      ∀ iface ∈ config.interfaces, iface.mtu ≠ none := by
  rw [hRead.interfaces_eq]
  exact forall₂_mapIdx fun index iface hIface => sameInterface_iff (hAccepted.mtus iface hIface)

theorem ReadsBack.sameNetwork_iff (hAccepted : AcceptedNetwork config) :
    SameNetwork config (configOf read) ↔
      (config.searchDomain ≠ [] ∨
        ((fieldsOf original generalName).get domainnameKey).getD [] = []) ∧
      ([] ∉ config.nameservers ∧ config.nameservers.length ≤ 3) ∧
      ∀ iface ∈ config.interfaces, iface.mtu ≠ none := by
  have hGeneral : (read.get generalName).getD .empty =
      serializedGeneral config original [] [] := by rw [hRead.get_general]; rfl
  have hGateway : (configOf read).gateway = config.gateway := by
    simp only [configOf, hGeneral]
    exact get_defaultgw
  have hServers : (configOf read).nameservers =
      (config.nameservers.filter (· ≠ [])).take 3 := by
    simp only [configOf, hGeneral]
    exact get_nameservers
  have hDomain : (configOf read).searchDomain = if config.searchDomain ≠ [] then
      config.searchDomain else ((fieldsOf original generalName).get domainnameKey).getD [] := by
    simp only [configOf, hGeneral]
    exact get_domainname
  rw [← take_filter_eq_self_iff, ← ite_ne_eq_self_iff, ← hServers, ← hDomain,
    ← hRead.sameInterfaces_iff hAccepted]
  constructor
  · rintro ⟨-, hNs, hSd, hIfaces⟩
    exact ⟨hSd, hNs, hIfaces⟩
  · rintro ⟨hSd, hNs, hIfaces⟩
    exact ⟨hGateway, hNs, hSd, hIfaces⟩

end

theorem roundTrip_iff_fitsFile (hAccepted : AcceptedNetwork config) :
    SameNetwork config (parseNetworkConf (rewrite config content)) ∧
      KeepsRest config (parseIni content) (parseIni (rewrite config content)) ↔
    FitsFile config (parseIni content) := by
  have hNamed : ∀ iface ∈ config.interfaces, iface.ifname ≠ [] :=
    fun iface hIface => (hAccepted.ifnames iface hIface).1
  constructor
  · rintro ⟨hSame, hKeeps⟩
    have hNames := (ifnames_of_sameInterfaces hSame.interfaces).trans (map_ifname_configOf _)
    have hSections := nodup_interfaceNames (parseIni (rewrite config content))
    rw [← hNames] at hSections
    have hBroadcasts : ∀ iface ∈ config.interfaces, iface.useDHCP = false →
        CleanValue iface.broadcast := by
      intro iface hIface hStatic
      obtain ⟨read, hMem, hRead⟩ := sameInterface_mem hSame.interfaces hIface
      rw [← (hRead.addresses hStatic).2.2]
      exact (cleanValue_broadcast hMem).1
    have hClean := cleanConfig_of_accepted hAccepted hBroadcasts
    have hPlain := hClean.plainFile hKeeps
    have hRead := hClean.readsBack hNamed hSections.1 hSections.2 hPlain
    obtain ⟨hDomain, hServers, hMtus⟩ := (hRead.sameNetwork_iff hAccepted).mp hSame
    exact ⟨hDomain, hServers, hSections, hMtus, hBroadcasts, hPlain⟩
  · intro hFits
    have hRead := (cleanConfig_of_accepted hAccepted hFits.broadcasts).readsBack hNamed
      hFits.ifnames.1 hFits.ifnames.2 hFits.plain
    exact ⟨(hRead.sameNetwork_iff hAccepted).mpr
      ⟨hFits.searchDomain, hFits.nameservers, hFits.mtus⟩, hRead.keepsRest⟩

end EsosWebui.SystemConfig
