import EsosWebui.Js.Json
import EsosWebui.Js.Strings
import EsosWebui.Js.Throw
import EsosWebui.Raid.Types
import Mathlib.Data.List.Sort

/-! Tokens that bind a plan: a truncated digest of some of the plan's data. -/
namespace EsosWebui.Raid

open Js

/-- `createHash('sha256').update(payload).digest('hex')` and the sorting of texts
by locale, of the host. -/
class Host extends CaseMapping where
  sha256 : String → String
  sortByLocale : List String → List String
  sortByLocale_perm : ∀ l, (sortByLocale l).Perm l

abbrev hostWith (digests : List (Text × String)) : Host where
  toLowerCase s := String.ofList (s.toList.map Char.toLower)
  sha256 payload := (digests.lookup payload.toList).getD payload
  sortByLocale := List.insertionSort fun a b => decide (a ≤ b)
  sortByLocale_perm := List.perm_insertionSort _

/-- A host with the identity as its digest, for plans whose token does not matter. -/
abbrev anyHost : Host := hostWith []

variable [Host]

def planToken (payload : Text) : String :=
  String.ofList ((Host.sha256 (String.ofList payload)).toList.take 16)

/-- No other payload has the token of either of two payloads. -/
def NoCollision (payload payload' : Text) : Prop :=
  planToken payload = planToken payload' → payload = payload'

def Participation.name : Participation → String
  | execute => "execute"
  | skip => "skip"
  | blocked => "blocked"

/-- `{ sanId, state }` -/
def nodeStateJson (node : String × MdArrayNodeState) : Text :=
  jsonObject [("sanId", jsonString node.1), ("state", jsonString node.2.name)]

def clusterMdTokenPayload (action : ClusterStorageAction) (arrayName : String)
    (recoveryMode : ClusterMdRecoveryMode) (primarySanId : String)
    (nodes : List (String × MdArrayNodeState)) : Text :=
  jsonObject
    [("action", jsonString action.name), ("arrayName", jsonString arrayName),
      ("recoveryMode", jsonString recoveryMode.name), ("primarySanId", jsonString primarySanId),
      ("nodes", jsonArray nodeStateJson nodes)]

def computeClusterMdPlanToken (action : ClusterStorageAction) (arrayName : String)
    (recoveryMode : ClusterMdRecoveryMode) (primarySanId : String)
    (nodeReports : List MdArrayNodeStateReport) : String :=
  planToken (clusterMdTokenPayload action arrayName recoveryMode primarySanId
    (nodeReports.map fun r => (r.sanId, r.state)))

def computeCleanupMdPlanToken (action : ClusterStorageAction)
    (recoveryMode : Option ClusterMdRecoveryMode) (primarySanId : String)
    (nodeResults : List ClusterMdNodeResult) : String :=
  planToken <| jsonObject
    [("action", jsonString action.name),
      ("recoveryMode", jsonString ((recoveryMode.map (·.name)).getD "symmetric")),
      ("primarySanId", jsonString primarySanId),
      ("nodes", jsonArray (fun n : ClusterMdNodeResult =>
        jsonObject
          [("sanId", jsonString n.sanId), ("participation", jsonString n.participation.name),
            ("members", jsonArray jsonString n.members)]) nodeResults)]

def addMdMemberTokenPayload (arrayName : String) (intent : MdAddMemberIntent)
    (primarySanId device : String) (nodes : List String) : Text :=
  jsonObject
    [("action", jsonString "md_add_device"), ("arrayName", jsonString arrayName),
      ("intent", jsonString intent.name), ("primarySanId", jsonString primarySanId),
      ("device", jsonString device), ("nodes", jsonArray jsonString nodes)]

def computeAddMdMemberPlanToken (arrayName : String) (intent : MdAddMemberIntent)
    (primarySanId device : String) (nodeSanIds : List String) : String :=
  planToken (addMdMemberTokenPayload arrayName intent primarySanId device
    (Host.sortByLocale nodeSanIds))

def validateClusterMdPlanToken (token : Option String) (expected : String) :
    Except HttpError Unit :=
  throwIf (!isSet token || token != some expected)
    ⟨400, "planToken invalide ou expiré — regénérez le plan"⟩

omit [Host]

theorem MdArrayNodeState.name_injective : Function.Injective MdArrayNodeState.name := by
  intro a b h
  cases a <;> cases b <;> simp_all [MdArrayNodeState.name]

theorem ClusterMdRecoveryMode.name_injective : Function.Injective ClusterMdRecoveryMode.name := by
  intro a b h
  cases a <;> cases b <;> simp_all [ClusterMdRecoveryMode.name]

theorem nodeStateJson_prefixFree : PrefixFree nodeStateJson := by
  rintro ⟨sanId, state⟩ ⟨sanId', state'⟩ s t h
  simp only [nodeStateJson, jsonObject_cons, jsonFields, List.append_assoc] at h
  obtain ⟨hId, h⟩ := field_inj jsonString_prefixFree h
  obtain ⟨hState, h⟩ := field_inj jsonString_prefixFree h
  exact ⟨Prod.ext hId (MdArrayNodeState.name_injective hState), (List.cons.inj h).2⟩

theorem clusterMdTokenPayload_inj {action : ClusterStorageAction} {arrayName arrayName' : String}
    {mode mode' : ClusterMdRecoveryMode} {primarySanId primarySanId' : String}
    {nodes nodes' : List (String × MdArrayNodeState)}
    (h : clusterMdTokenPayload action arrayName mode primarySanId nodes =
      clusterMdTokenPayload action arrayName' mode' primarySanId' nodes') :
    arrayName = arrayName' ∧ mode = mode' ∧ primarySanId = primarySanId' ∧ nodes = nodes' := by
  have hNodes : PrefixFree (jsonArray nodeStateJson) :=
    jsonArray_prefixFree nodeStateJson_prefixFree fun _ _ _ hOpen =>
      absurd (List.cons.inj hOpen).1 (by decide)
  simp only [clusterMdTokenPayload, jsonObject_cons, jsonFields] at h
  obtain ⟨-, h⟩ := field_inj jsonString_prefixFree h
  obtain ⟨hName, h⟩ := field_inj jsonString_prefixFree h
  obtain ⟨hMode, h⟩ := field_inj jsonString_prefixFree h
  obtain ⟨hPrimary, h⟩ := field_inj jsonString_prefixFree h
  exact ⟨hName, ClusterMdRecoveryMode.name_injective hMode, hPrimary, (field_inj hNodes h).1⟩

theorem addMdMemberTokenPayload_inj {arrayName arrayName' : String}
    {intent intent' : MdAddMemberIntent} {primarySanId primarySanId' device device' : String}
    {nodes nodes' : List String}
    (h : addMdMemberTokenPayload arrayName intent primarySanId device nodes =
      addMdMemberTokenPayload arrayName' intent' primarySanId' device' nodes') :
    arrayName = arrayName' ∧ primarySanId = primarySanId' ∧ device = device' ∧ nodes = nodes' := by
  have hNodes : PrefixFree (jsonArray jsonString) :=
    jsonArray_prefixFree jsonString_prefixFree fun _ _ _ hOpen =>
      absurd (List.cons.inj hOpen).1 (by decide)
  simp only [addMdMemberTokenPayload, jsonObject_cons, jsonFields] at h
  obtain ⟨-, h⟩ := field_inj jsonString_prefixFree h
  obtain ⟨hName, h⟩ := field_inj jsonString_prefixFree h
  obtain ⟨-, h⟩ := field_inj jsonString_prefixFree h
  obtain ⟨hPrimary, h⟩ := field_inj jsonString_prefixFree h
  obtain ⟨hDevice, h⟩ := field_inj jsonString_prefixFree h
  exact ⟨hName, hPrimary, hDevice, (field_inj hNodes h).1⟩

end EsosWebui.Raid
