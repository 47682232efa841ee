import EsosWebui.Js.Strings
import EsosWebui.Js.OrderedMap
import EsosWebui.Js.ParseInt
import EsosWebui.Js.RegExp
import EsosWebui.Js.Throw

/-! `/etc/network.conf`: how it is read and written. -/
namespace EsosWebui.SystemConfig

open Js

abbrev SectionMap := OrderedMap Text Text

abbrev IniMap := OrderedMap Text SectionMap

/-- `/^\[(.+)\]$/` -/
def sectionPattern : RegExp :=
  .seq (.start false)
    (.chain [.literal ['['], .group (.plus RegExp.dot), .literal [']'], .stop false])

/-- `/^([^=]+?)\s*=\s*(.*)$/` -/
def keyValuePattern : RegExp :=
  .seq (.start false)
    (.chain [.group (.plusLazy (· != '=')), .star isSpace, .literal ['='], .star isSpace,
      .group (.star RegExp.dot), .stop false])

inductive IniLine where
  | skipped
  | header (name : Text)
  | entry (key value : Text)
  deriving DecidableEq

def iniLine (rawLine : Text) : IniLine :=
  let line := trim rawLine
  if line = [] ∨ line.head? = some ';' ∨ line.head? = some '#' then .skipped
  else
    match sectionPattern.match line with
    | some captures => .header (trim (captures.getD 0 []))
    | none =>
      match keyValuePattern.match line with
      | some captures => .entry (trim (captures.getD 0 [])) (trim (captures.getD 1 []))
      | none => .skipped

/-- The sections so far, and the one that lines are added to. -/
structure IniState where
  sections : IniMap := .empty
  current : Option Text := none

def IniState.step (s : IniState) : IniLine → IniState
  | .skipped => s
  | .header name => { sections := s.sections.set name .empty, current := some name }
  | .entry key value =>
    match s.current with
    | none => s
    | some name =>
      { s with sections := s.sections.modify name fun fields => fields.set key value }

def parseIni (content : Text) : IniMap :=
  (((content.splitOn '\n').map iniLine).foldl IniState.step {}).sections

structure NetworkInterfaceConfig where
  index : Nat
  ifname : Text
  useDHCP : Bool
  ipAddress : Text
  netmask : Text
  broadcast : Text
  mtu : Option Number
  dhcpTimeout : Option Nat

structure NetworkGeneralConfig where
  gateway : Text
  nameservers : List Text
  searchDomain : Text
  interfaces : List NetworkInterfaceConfig

def generalName : Text := "general".toList

def hostnameKey : Text := "hostname".toList

def domainnameKey : Text := "domainname".toList

def defaultgwKey : Text := "defaultgw".toList

def nameserver1Key : Text := "nameserver1".toList

def nameserver2Key : Text := "nameserver2".toList

def nameserver3Key : Text := "nameserver3".toList

def bootprotoKey : Text := "bootproto".toList

def ipaddrKey : Text := "ipaddr".toList

def netmaskKey : Text := "netmask".toList

def broadcastKey : Text := "broadcast".toList

def mtuKey : Text := "mtu".toList

def dhcp : Text := "dhcp".toList

def static : Text := "static".toList

/-- `bootproto.toLowerCase()`, as far as comparing it with a protocol goes: no character but a
letter and its capital has a letter of these as its lower case. -/
def lowerCase (s : Text) : Text := s.map Char.toLower

def bootprotoOf (fields : SectionMap) : Text :=
  lowerCase ((fields.get bootprotoKey).getD static)

/-- The MTU that a section gives: `mtuRaw ? Number.parseInt(mtuRaw, 10) : 1500`. -/
def parseMtu (mtuRaw : Option Text) : Number :=
  match mtuRaw with
  | none | some [] => .int 1500
  | some raw => .parseIntText raw

def parseInterface (index : Nat) (ifname : Text) (fields : SectionMap) :
    NetworkInterfaceConfig where
  index
  ifname
  useDHCP := bootprotoOf fields = dhcp
  ipAddress := (fields.get ipaddrKey).getD []
  netmask := (fields.get netmaskKey).getD []
  broadcast := (fields.get broadcastKey).getD []
  mtu := some (parseMtu (fields.get mtuKey))
  dhcpTimeout := some 15

def interfaceSections (ini : IniMap) : List (Text × SectionMap) :=
  ini.entries.filter (·.1 ≠ generalName)

def configOf (ini : IniMap) : NetworkGeneralConfig :=
  let general := (ini.get generalName).getD .empty
  { gateway := (general.get defaultgwKey).getD []
    nameservers := ([nameserver1Key, nameserver2Key, nameserver3Key].map
      fun key => (general.get key).getD []).filter (· ≠ [])
    searchDomain := (general.get domainnameKey).getD []
    interfaces := (interfaceSections ini).mapIdx fun index e => parseInterface index e.1 e.2 }

def parseNetworkConf (content : Text) : NetworkGeneralConfig := configOf (parseIni content)

/-- The section `[general]`, changed. An absent host name and an empty one come to the same. -/
def serializedGeneral (config : NetworkGeneralConfig) (original : IniMap)
    (hostname domainname : Text) : SectionMap :=
  let general := (original.get generalName).getD .empty
  let general := if hostname ≠ [] then general.set hostnameKey hostname else general
  let general :=
    if domainname ≠ [] then general.set domainnameKey domainname
    else if config.searchDomain ≠ [] then general.set domainnameKey config.searchDomain
    else general
  let general :=
    if config.gateway ≠ [] then general.set defaultgwKey config.gateway
    else general.delete defaultgwKey
  let ns := config.nameservers.filter (· ≠ [])
  ((general.set nameserver1Key (ns.getD 0 [])).set nameserver2Key (ns.getD 1 [])).set
    nameserver3Key (ns.getD 2 [])

def serializedInterface (original : IniMap) (iface : NetworkInterfaceConfig) : SectionMap :=
  let origSection := (original.get iface.ifname).getD .empty
  let origSection := origSection.set bootprotoKey (if iface.useDHCP then dhcp else static)
  let origSection := origSection.set mtuKey (iface.mtu.getD (.int 1500)).toText
  if iface.useDHCP then
    ((origSection.delete ipaddrKey).delete netmaskKey).delete broadcastKey
  else
    ((origSection.set ipaddrKey iface.ipAddress).set netmaskKey iface.netmask).set
      broadcastKey iface.broadcast

def entryLine (e : Text × Text) : Text := e.1 ++ " = ".toList ++ e.2

def headerLine (name : Text) : Text := '[' :: (name ++ [']'])

def unlines (lines : List Text) : Text := lines.flatMap (· ++ ['\n'])

/-- The two comments that every written file starts with. -/
def preamble : List Text :=
  ["; ESOS network configuration".toList, "; Managed by ESOS WebUI".toList]

def serializeNetworkConf (config : NetworkGeneralConfig) (originalContent : Text)
    (hostname domainname : Text) : Text :=
  let original := parseIni originalContent
  let general := serializedGeneral config original hostname domainname
  unlines (preamble ++ [[]]) ++ unlines (headerLine generalName :: general.entries.map entryLine) ++
    config.interfaces.flatMap fun iface =>
      unlines ([] :: headerLine iface.ifname ::
        (serializedInterface original iface).entries.map entryLine)

/-- `/^(\d{1,3}\.){3}\d{1,3}$/.test(ip)` and
`ip.split('.').every(o => Number.parseInt(o, 10) <= 255)` -/
def isValidIP (ip : Text) : Bool :=
  let octets := ip.splitOn '.'
  octets.length = 4 && octets.all fun o =>
    isDigits o && decide (o.length ≤ 3 ∧ Nat.ofDigitChars 10 o 0 ≤ 255)

def isIfnameChar (c : Char) : Bool :=
  c.isAlphanum || c == '.' || c == '_' || c == ':' || c == '-'

/-- The message of a refusal, if there is one. -/
def validateLinuxIfname (value : Text) : Option Text :=
  if value = [] ∨ 15 < utf16Length value then some "Nom d’interface invalide".toList
  else if !consistsOf isIfnameChar value then some "Nom d’interface invalide".toList
  else none

/-- `/[\x00-\x20\x7F]/` -/
def isControlOrSpace (c : Char) : Bool := c.toNat ≤ 0x20 || c.toNat == 0x7F

/-- `[a-zA-Z0-9](?:[a-zA-Z0-9-]{0,61}[a-zA-Z0-9])?` -/
def isDomainLabel (label : Text) : Bool :=
  decide (label.length ≤ 63) && label.all (fun c => c.isAlphanum || c == '-') &&
    label.head?.any Char.isAlphanum && label.getLast?.any Char.isAlphanum

/-- Labels with dots between them, and maybe one at the end. -/
def isSearchDomain (value : Text) : Bool :=
  let labels := if value.getLast? = some '.' then value.dropLast else value
  (labels.splitOn '.').all isDomainLabel

def validateSearchDomain (value : Text) : Option Text :=
  if value = [] then none
  else if 255 < utf16Length value then some "Domaine de recherche trop long".toList
  else if value.any isControlOrSpace then some "Domaine de recherche invalide".toList
  else if !isSearchDomain value then some "Domaine de recherche invalide".toList
  else none

/-- `z.number().int().nullable().optional()` -/
def isOptionalInteger : Option Number → Bool
  | none => true
  | some (.int v) => v.natAbs < 2 ^ 53
  | some _ => false

/-- The part of the schema that the types do not say. -/
def bodySchema (config : NetworkGeneralConfig) : Bool :=
  config.interfaces.all fun iface =>
    decide (iface.ifname ≠ []) && isOptionalInteger iface.mtu &&
      iface.dhcpTimeout.all fun t => decide (1 ≤ t ∧ t ≤ 300)

inductive NetworkRefusal where
  | schema
  | message (text : Text)

/-- `if (message) throw createError(...)` -/
def refuseWith (message : Option Text) : Except NetworkRefusal Unit :=
  match message with
  | none => .ok ()
  | some text => .error (.message text)

/-- `if (value && !isValidIP(value)) throw createError(...)` -/
def requireIP (message value : Text) : Except NetworkRefusal Unit :=
  throwIf (value ≠ [] ∧ isValidIP value = false) (.message (message ++ value))

def requireStaticAddresses (iface : NetworkInterfaceConfig) : Except NetworkRefusal Unit :=
  if iface.useDHCP then .ok ()
  else do
    requireIP ("IP invalide pour ".toList ++ iface.ifname ++ ": ".toList) iface.ipAddress
    requireIP ("Masque invalide pour ".toList ++ iface.ifname ++ ": ".toList) iface.netmask

def checkNetworkPatch (config : NetworkGeneralConfig) : Except NetworkRefusal Unit := do
  throwIf (bodySchema config = false) .schema
  refuseWith (validateSearchDomain config.searchDomain)
  forM config.interfaces fun iface =>
    refuseWith ((validateLinuxIfname iface.ifname).map fun message =>
      message ++ " (".toList ++ iface.ifname ++ [')'])
  requireIP "Passerelle invalide : ".toList config.gateway
  forM (config.nameservers.filter (· ≠ [])) (requireIP "Serveur DNS invalide : ".toList)
  forM config.interfaces requireStaticAddresses

/-- A text without white space, as the checks leave it. -/
def NoSpace (s : Text) : Prop := ∀ c ∈ s, isSpace c = false

/-- What the checks establish. -/
structure AcceptedNetwork (config : NetworkGeneralConfig) : Prop where
  searchDomain : NoSpace config.searchDomain
  gateway : NoSpace config.gateway
  nameservers : ∀ ns ∈ config.nameservers, NoSpace ns
  ifnames : ∀ iface ∈ config.interfaces, iface.ifname ≠ [] ∧ NoSpace iface.ifname
  mtus : ∀ iface ∈ config.interfaces, ∀ mtu ∈ iface.mtu,
    ∃ v : Int, mtu = .int v ∧ v.natAbs < 2 ^ doubleBits
  addresses : ∀ iface ∈ config.interfaces, iface.useDHCP = false →
    NoSpace iface.ipAddress ∧ NoSpace iface.netmask

instance (s : Text) : Decidable (NoSpace s) := List.decidableBAll _ _

theorem noSpace_of_isAlphanum_or (others : List Char) {s : Text}
    (h : ∀ c ∈ s, c.isAlphanum = true ∨ c ∈ others) (hOthers : NoSpace others) : NoSpace s := by
  intro c hc
  rcases h c hc with hAlphanum | hOther
  · exact (isGraphic_of_isAlphanum hAlphanum).isSpace
  · exact hOthers c hOther

theorem noSpace_of_isValidIP {ip : Text} (h : isValidIP ip) : NoSpace ip := by
  refine noSpace_of_isAlphanum_or ['.'] (fun c hc => ?_) (by decide)
  rcases mem_splitOn_or '.' hc with rfl | ⟨octet, hOctet, hMem⟩
  · exact Or.inr List.mem_cons_self
  · have hAll := List.all_eq_true.mp (Bool.and_eq_true_iff.mp h).2 octet hOctet
    have hDigits := (Bool.and_eq_true_iff.mp (Bool.and_eq_true_iff.mp hAll).1).2
    have hDigit := List.all_eq_true.mp hDigits c hMem
    exact Or.inl (by rw [Char.isAlphanum, hDigit, Bool.or_true])

theorem noSpace_of_validateLinuxIfname {name : Text} (h : validateLinuxIfname name = none) :
    name ≠ [] ∧ NoSpace name := by
  unfold validateLinuxIfname at h
  split at h
  · cases h
  rename_i hLength
  split at h
  · cases h
  rename_i hChars
  have hAll : ∀ c ∈ name, isIfnameChar c = true := by
    have hConsists : consistsOf isIfnameChar name = true := by simpa using hChars
    exact List.all_eq_true.mp (Bool.and_eq_true_iff.mp hConsists).2
  refine ⟨fun hNil => hLength (Or.inl hNil), ?_⟩
  refine noSpace_of_isAlphanum_or ['.', '_', ':', '-'] (fun c hc => ?_) (by decide)
  have hChar := hAll c hc
  simp only [isIfnameChar, Bool.or_eq_true, beq_iff_eq] at hChar
  simp only [List.mem_cons, List.not_mem_nil, or_false]
  tauto

theorem noSpace_of_validateSearchDomain {domain : Text}
    (h : validateSearchDomain domain = none) : NoSpace domain := by
  unfold validateSearchDomain at h
  split at h
  · rename_i hNil
    rw [hNil]
    exact fun c hc => absurd hc List.not_mem_nil
  split at h
  · cases h
  split at h
  · cases h
  split at h
  · cases h
  rename_i hDomain
  have hLabels : isSearchDomain domain = true := by simpa using hDomain
  refine noSpace_of_isAlphanum_or ['.', '-'] (fun c hc => ?_) (by decide)
  have hBody : c = '.' ∨ c ∈ if domain.getLast? = some '.' then domain.dropLast else domain := by
    split
    · rename_i hLast
      have hSplit := List.dropLast_append_getLast? '.' hLast
      rw [← hSplit, List.mem_append, List.mem_singleton] at hc
      exact hc.symm
    · exact Or.inr hc
  rcases hBody with rfl | hBody
  · exact Or.inr List.mem_cons_self
  rcases mem_splitOn_or '.' hBody with rfl | ⟨label, hLabel, hMem⟩
  · exact Or.inr List.mem_cons_self
  · have hOk := List.all_eq_true.mp hLabels label hLabel
    simp only [isDomainLabel, Bool.and_eq_true] at hOk
    have hChar := List.all_eq_true.mp hOk.1.1.2 c hMem
    simp only [Bool.or_eq_true, beq_iff_eq] at hChar
    rcases hChar with hChar | rfl
    · exact Or.inl hChar
    · exact Or.inr (by simp)

theorem refuseWith_eq_ok {message : Option Text} :
    refuseWith message = .ok () ↔ message = none := by
  cases message <;> simp [refuseWith]

theorem noSpace_of_requireIP {message value : Text} (h : requireIP message value = .ok ()) :
    NoSpace value := by
  rw [requireIP, throwIf_eq_ok] at h
  by_cases hNil : value = []
  · rw [hNil]
    exact fun c hc => absurd hc List.not_mem_nil
  · refine noSpace_of_isValidIP ?_
    cases hValid : isValidIP value with
    | true => rfl
    | false => exact absurd ⟨hNil, hValid⟩ h

theorem acceptedNetwork_of_check {config : NetworkGeneralConfig}
    (h : checkNetworkPatch config = .ok ()) : AcceptedNetwork config := by
  obtain ⟨_, hSchema, h⟩ := bind_eq_ok.mp h
  obtain ⟨_, hDomain, h⟩ := bind_eq_ok.mp h
  obtain ⟨_, hNames, h⟩ := bind_eq_ok.mp h
  obtain ⟨_, hGateway, h⟩ := bind_eq_ok.mp h
  obtain ⟨_, hServers, hStatic⟩ := bind_eq_ok.mp h
  have hFields : ∀ iface ∈ config.interfaces, isOptionalInteger iface.mtu = true := by
    rw [throwIf_eq_ok, Bool.not_eq_false, bodySchema, List.all_eq_true] at hSchema
    intro iface hMem
    have hOk := hSchema iface hMem
    simp only [Bool.and_eq_true] at hOk
    exact hOk.1.2
  refine ⟨?_, ?_, ?_, ?_, ?_, ?_⟩
  · exact noSpace_of_validateSearchDomain (refuseWith_eq_ok.mp hDomain)
  · exact noSpace_of_requireIP hGateway
  · intro ns hns
    by_cases hNil : ns = []
    · rw [hNil]
      exact fun c hc => absurd hc List.not_mem_nil
    · exact noSpace_of_requireIP (forM_eq_ok.mp hServers ns (by simp [hns, hNil]))
  · intro iface hMem
    have hName := refuseWith_eq_ok.mp (forM_eq_ok.mp hNames iface hMem)
    exact noSpace_of_validateLinuxIfname (Option.map_eq_none_iff.mp hName)
  · intro iface hMem mtu hMtu
    have hInteger := hFields iface hMem
    rw [Option.mem_def.mp hMtu] at hInteger
    cases mtu with
    | int v => exact ⟨v, rfl, of_decide_eq_true hInteger⟩
    | infinity => cases hInteger
    | other printed positive => cases hInteger
  · intro iface hMem hStaticIface
    have hChecked := forM_eq_ok.mp hStatic iface hMem
    rw [requireStaticAddresses, hStaticIface, if_neg (by simp)] at hChecked
    obtain ⟨_, hAddress, hMask⟩ := bind_eq_ok.mp hChecked
    exact ⟨noSpace_of_requireIP hAddress, noSpace_of_requireIP hMask⟩

end EsosWebui.SystemConfig
