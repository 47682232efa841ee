import EsosWebui.SystemConfig.IniSections

/-! The sections that are written for a configuration: what is in them, and that they can be
read back. -/
namespace EsosWebui.SystemConfig

open Js

/-- Fields that the parser can have read. -/
def CleanFields (fields : SectionMap) : Prop :=
  ∀ e ∈ fields.entries, CleanKey e.1 ∧ CleanValue e.2

/-- Fields none of which is written as the header of a section. -/
def PlainFields (fields : SectionMap) : Prop := ∀ e ∈ fields.entries, ¬ OpensSection e

def writtenKeys : List Text :=
  [hostnameKey, domainnameKey, defaultgwKey, nameserver1Key, nameserver2Key, nameserver3Key,
    bootprotoKey, mtuKey, ipaddrKey, netmaskKey, broadcastKey]

theorem cleanKey_of_mem_writtenKeys {key : Text} (h : key ∈ writtenKeys) : CleanKey key := by
  have hAll : ∀ k ∈ writtenKeys, k ≠ [] ∧ trim k = k ∧ '=' ∉ k ∧ '\n' ∉ k ∧
      k.head? ≠ some ';' ∧ k.head? ≠ some '#' := by decide
  obtain ⟨hNe, hTrim, hEquals, hBreak, hSemicolon, hHash⟩ := hAll key h
  exact ⟨hNe, hTrim, hEquals, hBreak, hSemicolon, hHash⟩

theorem not_opensSection_of_mem_writtenKeys {key value : Text} (h : key ∈ writtenKeys) :
    ¬ OpensSection (key, value) := by
  have hAll : ∀ k ∈ writtenKeys, k.head? ≠ some '[' := by decide
  exact fun hOpens => hAll key h hOpens.1

theorem cleanValue_nil : CleanValue [] := ⟨rfl, fun _ hc => absurd hc List.not_mem_nil⟩

theorem cleanValue_of_isSpace {s : Text} (h : ∀ c ∈ s, isSpace c = false) : CleanValue s where
  trimmed := trim_eq_self (fun c hc => h c (List.mem_of_head? hc))
    fun c hc => h c (List.mem_of_getLast? hc)
  oneLine := by
    intro c hc
    cases hEnd : isLineTerminator c with
    | false => rfl
    | true => rw [← h c hc, isSpace_of_isLineTerminator hEnd]

theorem cleanValue_of_all {s : Text} (h : s.all (fun c => !isSpace c)) : CleanValue s := by
  refine cleanValue_of_isSpace fun c hc => ?_
  simpa using List.all_eq_true.mp h c hc

section

variable {fields : SectionMap} {key value : Text}

theorem CleanFields.set (h : CleanFields fields) (hKey : key ∈ writtenKeys)
    (hValue : CleanValue value) : CleanFields (fields.set key value) := by
  intro e he
  rcases OrderedMap.mem_entries_set.mp he with rfl | ⟨-, he⟩
  · exact ⟨cleanKey_of_mem_writtenKeys hKey, hValue⟩
  · exact h e he

theorem CleanFields.delete (h : CleanFields fields) : CleanFields (fields.delete key) :=
  fun e he => h e (OrderedMap.mem_entries_delete.mp he).2

theorem PlainFields.set (h : PlainFields fields) (hKey : key ∈ writtenKeys) :
    PlainFields (fields.set key value) := by
  intro e he
  rcases OrderedMap.mem_entries_set.mp he with rfl | ⟨-, he⟩
  · exact not_opensSection_of_mem_writtenKeys hKey
  · exact h e he

theorem PlainFields.delete (h : PlainFields fields) : PlainFields (fields.delete key) :=
  fun e he => h e (OrderedMap.mem_entries_delete.mp he).2

/-- What a file says under a name, or nothing. -/
def fieldsOf (ini : IniMap) (name : Text) : SectionMap := (ini.get name).getD .empty

theorem cleanFields_fieldsOf (content name : Text) :
    CleanFields (fieldsOf (parseIni content) name) := by
  unfold fieldsOf
  cases hGet : (parseIni content).get name with
  | none => exact fun e he => absurd he List.not_mem_nil
  | some fields =>
    have hClean := cleanSection_of_mem_parseIni (OrderedMap.get_eq_some_iff.mp hGet)
    exact fun e he => ⟨hClean.keys e he, hClean.values e he⟩

theorem CleanFields.getD (h : CleanFields fields) (key : Text) :
    CleanValue ((fields.get key).getD []) := by
  cases hGet : fields.get key with
  | none => exact cleanValue_nil
  | some value => exact (h _ (OrderedMap.get_eq_some_iff.mp hGet)).2

end

variable {config : NetworkGeneralConfig} {original : IniMap} {iface : NetworkInterfaceConfig}

def withGateway (gateway : Text) (fields : SectionMap) : SectionMap :=
  if gateway ≠ [] then fields.set defaultgwKey gateway else fields.delete defaultgwKey

/-- Setting a domain unless it is empty. -/
def withDomain (domain : Text) (fields : SectionMap) : SectionMap :=
  if domain ≠ [] then fields.set domainnameKey domain else fields

theorem serializedGeneral_eq : serializedGeneral config original [] [] =
    (((withGateway config.gateway (withDomain config.searchDomain
      (fieldsOf original generalName))).set nameserver1Key
        ((config.nameservers.filter (· ≠ [])).getD 0 [])).set nameserver2Key
          ((config.nameservers.filter (· ≠ [])).getD 1 [])).set nameserver3Key
            ((config.nameservers.filter (· ≠ [])).getD 2 []) := rfl

theorem cleanValue_nameserver (h : ∀ ns ∈ config.nameservers, CleanValue ns) (i : Nat) :
    CleanValue ((config.nameservers.filter (· ≠ [])).getD i []) := by
  rw [List.getD_eq_getElem?_getD]
  cases hGet : (config.nameservers.filter (· ≠ []))[i]? with
  | none => exact cleanValue_nil
  | some ns => exact h ns (List.mem_of_mem_filter (List.mem_of_getElem? hGet))

theorem cleanFields_serializedGeneral (hFields : CleanFields (fieldsOf original generalName))
    (hGateway : CleanValue config.gateway) (hDomain : CleanValue config.searchDomain)
    (hServers : ∀ ns ∈ config.nameservers, CleanValue ns) :
    CleanFields (serializedGeneral config original [] []) := by
  have hDomainFields :
      CleanFields (withDomain config.searchDomain (fieldsOf original generalName)) := by
    unfold withDomain
    split
    · exact hFields.set (by decide) hDomain
    · exact hFields
  have hGatewayFields : CleanFields (withGateway config.gateway
      (withDomain config.searchDomain (fieldsOf original generalName))) := by
    unfold withGateway
    split
    · exact hDomainFields.set (by decide) hGateway
    · exact hDomainFields.delete
  rw [serializedGeneral_eq]
  exact ((hGatewayFields.set (by decide) (cleanValue_nameserver hServers 0)).set (by decide)
    (cleanValue_nameserver hServers 1)).set (by decide) (cleanValue_nameserver hServers 2)

theorem plainFields_serializedGeneral (h : PlainFields (fieldsOf original generalName)) :
    PlainFields (serializedGeneral config original [] []) := by
  have hDomainFields :
      PlainFields (withDomain config.searchDomain (fieldsOf original generalName)) := by
    unfold withDomain
    split
    · exact h.set (by decide)
    · exact h
  have hGatewayFields : PlainFields (withGateway config.gateway
      (withDomain config.searchDomain (fieldsOf original generalName))) := by
    unfold withGateway
    split
    · exact hDomainFields.set (by decide)
    · exact hDomainFields.delete
  rw [serializedGeneral_eq]
  exact ((hGatewayFields.set (by decide)).set (by decide)).set (by decide)

def withLink (iface : NetworkInterfaceConfig) (fields : SectionMap) : SectionMap :=
  (fields.set bootprotoKey (if iface.useDHCP then dhcp else static)).set mtuKey
    (iface.mtu.getD (.int 1500)).toText

theorem serializedInterface_dhcp (h : iface.useDHCP) :
    serializedInterface original iface =
      (((withLink iface (fieldsOf original iface.ifname)).delete ipaddrKey).delete
        netmaskKey).delete broadcastKey := by
  rw [serializedInterface, if_pos h]
  rfl

theorem serializedInterface_static (h : iface.useDHCP = false) :
    serializedInterface original iface =
      (((withLink iface (fieldsOf original iface.ifname)).set ipaddrKey iface.ipAddress).set
        netmaskKey iface.netmask).set broadcastKey iface.broadcast := by
  rw [serializedInterface, if_neg (by simp [h])]
  rfl

theorem cleanFields_serializedInterface
    (hFields : CleanFields (fieldsOf original iface.ifname))
    (hMtu : CleanValue (iface.mtu.getD (.int 1500)).toText)
    (hAddresses : iface.useDHCP = false →
      CleanValue iface.ipAddress ∧ CleanValue iface.netmask ∧ CleanValue iface.broadcast) :
    CleanFields (serializedInterface original iface) := by
  have hProto : CleanValue (if iface.useDHCP then dhcp else static) := by
    split
    · exact cleanValue_of_all (by decide)
    · exact cleanValue_of_all (by decide)
  have hLink : CleanFields (withLink iface (fieldsOf original iface.ifname)) :=
    (hFields.set (by decide) hProto).set (by decide) hMtu
  cases hDhcp : iface.useDHCP with
  | true =>
    rw [serializedInterface_dhcp hDhcp]
    exact hLink.delete.delete.delete
  | false =>
    obtain ⟨hAddress, hMask, hBroadcast⟩ := hAddresses hDhcp
    rw [serializedInterface_static hDhcp]
    exact ((hLink.set (by decide) hAddress).set (by decide) hMask).set (by decide) hBroadcast

theorem plainFields_serializedInterface (h : PlainFields (fieldsOf original iface.ifname)) :
    PlainFields (serializedInterface original iface) := by
  have hLink : PlainFields (withLink iface (fieldsOf original iface.ifname)) :=
    (h.set (by decide)).set (by decide)
  cases hDhcp : iface.useDHCP with
  | true =>
    rw [serializedInterface_dhcp hDhcp]
    exact hLink.delete.delete.delete
  | false =>
    rw [serializedInterface_static hDhcp]
    exact ((hLink.set (by decide)).set (by decide)).set (by decide)

/-- The keys of `[general]` that the network form sets or deletes. -/
def managedGeneral : List Text :=
  [domainnameKey, defaultgwKey, nameserver1Key, nameserver2Key, nameserver3Key]

def managedInterface : List Text := [bootprotoKey, mtuKey, ipaddrKey, netmaskKey, broadcastKey]

theorem get_serializedGeneral {key : Text} (h : key ∉ managedGeneral) :
    (serializedGeneral config original [] []).get key =
      (fieldsOf original generalName).get key := by
  simp only [managedGeneral, List.mem_cons, List.not_mem_nil, or_false, not_or] at h
  obtain ⟨hDomain, hGateway, hFirst, hSecond, hThird⟩ := h
  have hDomainGet : (withDomain config.searchDomain (fieldsOf original generalName)).get key =
      (fieldsOf original generalName).get key := by
    unfold withDomain
    split
    · exact OrderedMap.get_set_of_ne hDomain
    · rfl
  rw [serializedGeneral_eq, OrderedMap.get_set_of_ne hThird, OrderedMap.get_set_of_ne hSecond,
    OrderedMap.get_set_of_ne hFirst, ← hDomainGet, withGateway]
  split
  · exact OrderedMap.get_set_of_ne hGateway
  · exact OrderedMap.get_delete_of_ne hGateway

theorem get_serializedInterface {key : Text} (h : key ∉ managedInterface) :
    (serializedInterface original iface).get key = (fieldsOf original iface.ifname).get key := by
  simp only [managedInterface, List.mem_cons, List.not_mem_nil, or_false, not_or] at h
  obtain ⟨hProto, hMtu, hAddress, hMask, hBroadcast⟩ := h
  have hLink : (withLink iface (fieldsOf original iface.ifname)).get key =
      (fieldsOf original iface.ifname).get key := by
    rw [withLink, OrderedMap.get_set_of_ne hMtu, OrderedMap.get_set_of_ne hProto]
  cases hDhcp : iface.useDHCP with
  | true =>
    rw [serializedInterface_dhcp hDhcp, OrderedMap.get_delete_of_ne hBroadcast,
      OrderedMap.get_delete_of_ne hMask, OrderedMap.get_delete_of_ne hAddress, hLink]
  | false =>
    rw [serializedInterface_static hDhcp, OrderedMap.get_set_of_ne hBroadcast,
      OrderedMap.get_set_of_ne hMask, OrderedMap.get_set_of_ne hAddress, hLink]

theorem get_defaultgw :
    ((serializedGeneral config original [] []).get defaultgwKey).getD [] = config.gateway := by
  rw [serializedGeneral_eq, OrderedMap.get_set_of_ne (by decide),
    OrderedMap.get_set_of_ne (by decide), OrderedMap.get_set_of_ne (by decide), withGateway]
  split
  · rw [OrderedMap.get_set_self]
    rfl
  · rename_i hNil
    rw [OrderedMap.get_delete_self, not_not.mp hNil]
    rfl

theorem get_domainname :
    ((serializedGeneral config original [] []).get domainnameKey).getD [] =
      if config.searchDomain ≠ [] then config.searchDomain
      else ((fieldsOf original generalName).get domainnameKey).getD [] := by
  have hGateway (fields : SectionMap) :
      (withGateway config.gateway fields).get domainnameKey = fields.get domainnameKey := by
    unfold withGateway
    split
    · exact OrderedMap.get_set_of_ne (by decide)
    · exact OrderedMap.get_delete_of_ne (by decide)
  rw [serializedGeneral_eq, OrderedMap.get_set_of_ne (by decide),
    OrderedMap.get_set_of_ne (by decide), OrderedMap.get_set_of_ne (by decide), hGateway,
    withDomain]
  split
  · rw [OrderedMap.get_set_self]
    rfl
  · rfl

theorem filter_getD_eq_take {l : List Text} (h : [] ∉ l) :
    [l.getD 0 [], l.getD 1 [], l.getD 2 []].filter (· ≠ []) = l.take 3 := by
  have hMem {a : Text} (ha : a ∈ l) : a ≠ [] := fun hNil => h (hNil ▸ ha)
  cases l with
  | nil => rfl
  | cons a l =>
    cases l with
    | nil => simp [hMem List.mem_cons_self]
    | cons b l =>
      have ha : a ≠ [] := hMem (by simp)
      have hb : b ≠ [] := hMem (by simp)
      cases l with
      | nil => simp [ha, hb]
      | cons c l =>
        have hc : c ≠ [] := hMem (by simp)
        simp [ha, hb, hc]

theorem get_nameservers :
    ([nameserver1Key, nameserver2Key, nameserver3Key].map fun key =>
      ((serializedGeneral config original [] []).get key).getD []).filter (· ≠ []) =
      (config.nameservers.filter (· ≠ [])).take 3 := by
  have hNil : ([] : Text) ∉ config.nameservers.filter (· ≠ []) := by simp
  rw [← filter_getD_eq_take hNil, serializedGeneral_eq]
  simp only [List.map_cons, List.map_nil]
  rw [OrderedMap.get_set_of_ne (by decide : nameserver1Key ≠ nameserver3Key),
    OrderedMap.get_set_of_ne (by decide : nameserver1Key ≠ nameserver2Key),
    OrderedMap.get_set_self,
    OrderedMap.get_set_of_ne (by decide : nameserver2Key ≠ nameserver3Key),
    OrderedMap.get_set_self, OrderedMap.get_set_self]
  rfl

theorem bootprotoOf_serializedInterface :
    bootprotoOf (serializedInterface original iface) = if iface.useDHCP then dhcp else static := by
  have hLink : (withLink iface (fieldsOf original iface.ifname)).get bootprotoKey =
      some (if iface.useDHCP then dhcp else static) := by
    rw [withLink, OrderedMap.get_set_of_ne (by decide), OrderedMap.get_set_self]
  have hLower : lowerCase (if iface.useDHCP then dhcp else static) =
      if iface.useDHCP then dhcp else static := by
    split
    · decide
    · decide
  have hGet : (serializedInterface original iface).get bootprotoKey =
      some (if iface.useDHCP then dhcp else static) := by
    cases hDhcp : iface.useDHCP with
    | true =>
      rw [serializedInterface_dhcp hDhcp, OrderedMap.get_delete_of_ne (by decide),
        OrderedMap.get_delete_of_ne (by decide), OrderedMap.get_delete_of_ne (by decide), hLink,
        hDhcp]
    | false =>
      rw [serializedInterface_static hDhcp, OrderedMap.get_set_of_ne (by decide),
        OrderedMap.get_set_of_ne (by decide), OrderedMap.get_set_of_ne (by decide), hLink, hDhcp]
  rw [bootprotoOf, hGet]
  exact hLower

theorem get_mtu : (serializedInterface original iface).get mtuKey =
    some (iface.mtu.getD (.int 1500)).toText := by
  have hLink : (withLink iface (fieldsOf original iface.ifname)).get mtuKey =
      some (iface.mtu.getD (.int 1500)).toText := by
    rw [withLink, OrderedMap.get_set_self]
  cases hDhcp : iface.useDHCP with
  | true =>
    rw [serializedInterface_dhcp hDhcp, OrderedMap.get_delete_of_ne (by decide),
      OrderedMap.get_delete_of_ne (by decide), OrderedMap.get_delete_of_ne (by decide), hLink]
  | false =>
    rw [serializedInterface_static hDhcp, OrderedMap.get_set_of_ne (by decide),
      OrderedMap.get_set_of_ne (by decide), OrderedMap.get_set_of_ne (by decide), hLink]

theorem parseMtu_of_ne_nil {raw : Text} (h : raw ≠ []) :
    parseMtu (some raw) = .parseIntText raw := by
  obtain ⟨c, rest, rfl⟩ := List.exists_cons_of_ne_nil h
  rfl

def addressesOf (fields : SectionMap) : Text × Text × Text :=
  ((fields.get ipaddrKey).getD [], (fields.get netmaskKey).getD [],
    (fields.get broadcastKey).getD [])

theorem addressesOf_serializedInterface :
    addressesOf (serializedInterface original iface) =
      if iface.useDHCP then ([], [], [])
      else (iface.ipAddress, iface.netmask, iface.broadcast) := by
  cases hDhcp : iface.useDHCP with
  | true =>
    rw [serializedInterface_dhcp hDhcp, addressesOf,
      OrderedMap.get_delete_of_ne (by decide : ipaddrKey ≠ broadcastKey),
      OrderedMap.get_delete_of_ne (by decide : ipaddrKey ≠ netmaskKey),
      OrderedMap.get_delete_self,
      OrderedMap.get_delete_of_ne (by decide : netmaskKey ≠ broadcastKey),
      OrderedMap.get_delete_self, OrderedMap.get_delete_self]
    rfl
  | false =>
    rw [serializedInterface_static hDhcp, addressesOf,
      OrderedMap.get_set_of_ne (by decide : ipaddrKey ≠ broadcastKey),
      OrderedMap.get_set_of_ne (by decide : ipaddrKey ≠ netmaskKey),
      OrderedMap.get_set_self,
      OrderedMap.get_set_of_ne (by decide : netmaskKey ≠ broadcastKey),
      OrderedMap.get_set_self, OrderedMap.get_set_self]
    rfl

end EsosWebui.SystemConfig
