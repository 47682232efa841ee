import EsosWebui.Js.Throw
import Mathlib.Data.List.Nodup

/-! The clusters as the database records them: the role and the peer of each SAN, and the table
`cluster_nodes`. Of the removal of a node only the part that writes the database is here. -/
namespace EsosWebui.Cluster

open Js

structure Id where
  text : Text
  nonempty : text ≠ []
  deriving DecidableEq

inductive ClusterNodeRole where
  | primary
  | secondary
  deriving DecidableEq

structure San where
  id : Id
  clusterEnabled : Bool := false
  clusterRole : Option ClusterNodeRole := none
  clusterPeer : Option Id := none
  clusterId : Option Id := none
  deriving DecidableEq

/-- A row of `cluster_nodes`. -/
structure ClusterNode where
  clusterId : Id
  sanId : Id
  role : Option ClusterNodeRole
  sortOrder : Nat

/-- The tables `clusters`, `sans` and `cluster_nodes`. -/
structure ClusterDb where
  clusters : List Id
  sans : List San
  clusterNodes : List ClusterNode
  sanUnique : (sans.map (·.id)).Nodup

structure RouteError where
  statusCode : Nat
  message : String

def San.isIn (k : Id) (s : San) : Bool := s.clusterId == some k

def San.isPrimary (s : San) : Bool := s.clusterRole == some .primary

namespace ClusterDb

variable (db : ClusterDb)

def listClusterMembers (k : Id) : List San := db.sans.filter (·.isIn k)

def countPrimaryNodes (k : Id) : Nat := ((db.listClusterMembers k).filter (·.isPrimary)).length

/-- `db.update(sans).set(...).where(...)` -/
def updateSans (found : San → Bool) (set : San → San) : ClusterDb :=
  { db with
    sans := db.sans.map fun s => if found s then { set s with id := s.id } else s
    sanUnique := by
      have hIds : (db.sans.map fun s => if found s then { set s with id := s.id } else s).map
          (·.id) = db.sans.map (·.id) := by
        rw [List.map_map]
        refine List.map_congr_left fun s _ => ?_
        show (if found s then { set s with id := s.id } else s).id = s.id
        split <;> rfl
      rw [hIds]
      exact db.sanUnique }

def updateSan (id : Id) (set : San → San) : ClusterDb := db.updateSans (·.id == id) set

/-- The rows of a cluster are written anew; each refers to a cluster that there must be. -/
def syncClusterNodesFromSans (k : Id) : Except RouteError ClusterDb := do
  let members := db.listClusterMembers k
  throwIf (members ≠ [] ∧ k ∉ db.clusters) ⟨500, "FOREIGN KEY constraint failed"⟩
  let inserted := members.mapIdx fun idx m =>
    { clusterId := k, sanId := m.id, role := m.clusterRole, sortOrder := idx }
  return { db with clusterNodes := db.clusterNodes.filter (·.clusterId != k) ++ inserted }

/-- The rows of `cluster_nodes` go with their cluster. -/
def deleteCluster (k : Id) : ClusterDb :=
  { db with
    clusters := db.clusters.filter (· != k)
    clusterNodes := db.clusterNodes.filter (·.clusterId != k) }

end ClusterDb

/-- `{ clusterEnabled: false, clusterRole: null, clusterPeer: null, clusterId: null }` -/
def San.reset (s : San) : San :=
  { s with clusterEnabled := false, clusterRole := none, clusterPeer := none, clusterId := none }

structure AddNode where
  clusterId : Option Id
  sanId : Option Id
  role : Option ClusterNodeRole := none

namespace AddNode

def joined (k : Id) (role : ClusterNodeRole) (peer : Option Id) (s : San) : San :=
  { s with
    clusterId := some k
    clusterEnabled := true
    clusterRole := some role
    clusterPeer := peer }

/-- The writes of the handler, once it has checked the request. -/
def write (db : ClusterDb) (k sanId : Id) (role : ClusterNodeRole) : Except RouteError ClusterDb :=
  let peer := (db.listClusterMembers k).head?.map (·.id)
  let added := db.updateSan sanId (joined k role peer)
  let linked := match peer with
    | some peer => added.updateSan peer fun s => { s with clusterPeer := some sanId }
    | none => added
  linked.syncClusterNodesFromSans k

/-- `POST /api/admin/cluster/add-node` -/
def handler (body : AddNode) (db : ClusterDb) : Except RouteError ClusterDb := do
  let k ← orThrow ⟨400, "clusterId et sanId requis"⟩ body.clusterId
  let sanId ← orThrow ⟨400, "clusterId et sanId requis"⟩ body.sanId
  throwIf (k ∉ db.clusters) ⟨404, "Cluster introuvable"⟩
  let san ← orThrow ⟨404, "SAN introuvable"⟩ (db.sans.find? (·.id == sanId))
  throwIf (san.clusterId ≠ none) ⟨409, "Ce SAN appartient déjà à un cluster"⟩
  let role := body.role.getD .secondary
  throwIf (role = .primary ∧ (db.listClusterMembers k).any (·.isPrimary))
    ⟨409, "Un nœud primaire existe déjà — utilisez secondaire"⟩
  write db k sanId role

end AddNode

structure PromotePrimary where
  clusterId : Option Id
  nodeId : Option Id

namespace PromotePrimary

def roleOf (nodeId id : Id) : ClusterNodeRole := if id = nodeId then .primary else .secondary

def write (db : ClusterDb) (members : List San) (nodeId : Id) : ClusterDb :=
  let promoted := members.foldl
    (fun db m => db.updateSan m.id fun s => { s with clusterRole := some (roleOf nodeId m.id) }) db
  let secondaries := members.filter (·.id != nodeId)
  match secondaries.head? with
  | some first =>
    secondaries.foldl
      (fun db s => db.updateSan s.id fun s => { s with clusterPeer := some nodeId })
      (promoted.updateSan nodeId fun s => { s with clusterPeer := some first.id })
  | none => promoted

/-- `POST /api/admin/cluster/promote-primary` -/
def handler (body : PromotePrimary) (db : ClusterDb) : Except RouteError ClusterDb := do
  let k ← orThrow ⟨400, "clusterId et nodeId requis"⟩ body.clusterId
  let nodeId ← orThrow ⟨400, "clusterId et nodeId requis"⟩ body.nodeId
  let members := db.listClusterMembers k
  throwIf (¬ members.any (·.id == nodeId)) ⟨404, "Nœud introuvable dans ce cluster"⟩
  return write db members nodeId

end PromotePrimary

structure RemoveNode where
  nodeId : Option Id
  clusterId : Option Id := none
  skipDb : Bool := false

namespace RemoveNode

def leave (db : ClusterDb) (k : Id) : Except RouteError ClusterDb :=
  let remaining := db.listClusterMembers k
  if remaining.length < 2 then return (db.updateSans (·.isIn k) San.reset).deleteCluster k
  else db.syncClusterNodesFromSans k

/-- `POST /api/admin/cluster/remove-node` -/
def handler (body : RemoveNode) (db : ClusterDb) : Except RouteError ClusterDb := do
  let nodeId ← orThrow ⟨400, "nodeId requis"⟩ body.nodeId
  let node ← orThrow ⟨404, "Nœud introuvable"⟩ (db.sans.find? (·.id == nodeId))
  throwIf (body.clusterId ≠ none ∧ node.clusterId ≠ body.clusterId)
    ⟨400, "Le nœud n'appartient pas à ce cluster"⟩
  if body.skipDb then return db
  else
    let removed := db.updateSan nodeId San.reset
    match node.clusterId with
    | some k => leave removed k
    | none => return removed

end RemoveNode

inductive Request where
  | addNode (body : AddNode)
  | promotePrimary (body : PromotePrimary)
  | removeNode (body : RemoveNode)

def Request.handler : Request → ClusterDb → Except RouteError ClusterDb
  | addNode body => body.handler
  | promotePrimary body => body.handler
  | removeNode body => body.handler

/-- The records of one cluster: a primary as soon as there are two members, peers among the members,
and the rows of `cluster_nodes`. -/
structure ConsistentAt (db : ClusterDb) (k : Id) : Prop where
  onePrimary : 2 ≤ (db.listClusterMembers k).length → db.countPrimaryNodes k = 1
  peers : ∀ s ∈ db.listClusterMembers k, ∀ peer, s.clusterPeer = some peer →
    peer ≠ s.id ∧ ∃ p ∈ db.listClusterMembers k, p.id = peer
  nodes : ∀ id role, (∃ n ∈ db.clusterNodes, n.clusterId = k ∧ n.sanId = id ∧ n.role = role) ↔
    ∃ s ∈ db.listClusterMembers k, s.id = id ∧ s.clusterRole = role

def Consistent (db : ClusterDb) : Prop := ∀ k, ConsistentAt db k

section

variable {db db' : ClusterDb} {k : Id} {s : San}

theorem mem_listClusterMembers :
    s ∈ db.listClusterMembers k ↔ s ∈ db.sans ∧ s.clusterId = some k := by
  simp [ClusterDb.listClusterMembers, San.isIn]

theorem san_eq_of_id {a b : San} (ha : a ∈ db.sans) (hb : b ∈ db.sans) (h : a.id = b.id) : a = b :=
  List.inj_on_of_nodup_map db.sanUnique ha hb h

/-- The rows of a database after writes that keep the identifiers. -/
structure Written (g : San → San) (db db' : ClusterDb) : Prop where
  sans : db'.sans = db.sans.map g
  id : ∀ s ∈ db.sans, (g s).id = s.id

def LeavesRoles (g : San → San) (db : ClusterDb) (k : Id) : Prop :=
  ∀ s ∈ db.sans, ((g s).clusterId = some k ↔ s.clusterId = some k) ∧
    (s.clusterId = some k → (g s).clusterRole = s.clusterRole)

def LeavesPeers (g : San → San) (db : ClusterDb) (k : Id) : Prop :=
  ∀ s ∈ db.sans, s.clusterId = some k → (g s).clusterPeer = s.clusterPeer

variable {g : San → San}

theorem Written.mem_iff (h : Written g db db') :
    s ∈ db'.listClusterMembers k ↔ ∃ r ∈ db.sans, (g r).clusterId = some k ∧ g r = s := by
  rw [mem_listClusterMembers, h.sans, List.mem_map]
  constructor
  · rintro ⟨⟨r, hr, rfl⟩, hk⟩
    exact ⟨r, hr, hk, rfl⟩
  · rintro ⟨r, hr, hk, rfl⟩
    exact ⟨⟨r, hr, rfl⟩, hk⟩

theorem Written.members (h : Written g db db') (k : Id) :
    db'.listClusterMembers k = (db.sans.filter fun s => (g s).isIn k).map g := by
  rw [ClusterDb.listClusterMembers, h.sans, List.filter_map]
  rfl

theorem Written.countPrimaryNodes (h : Written g db db') (k : Id) :
    db'.countPrimaryNodes k = db.sans.countP fun s => (g s).isIn k && (g s).isPrimary := by
  rw [ClusterDb.countPrimaryNodes, h.members, List.filter_map, List.length_map, List.filter_filter,
    List.countP_eq_length_filter]
  congr 1
  refine List.filter_congr fun s _ => ?_
  exact Bool.and_comm ..

theorem countPrimaryNodes_eq_countP (db : ClusterDb) (k : Id) :
    db.countPrimaryNodes k = db.sans.countP fun s => s.isIn k && s.isPrimary :=
  Written.countPrimaryNodes (g := id) ⟨by simp, fun _ _ => rfl⟩ k

theorem onePrimary_of_roles (hWritten : Written g db db') (hLeaves : LeavesRoles g db k)
    (h : 2 ≤ (db.listClusterMembers k).length → db.countPrimaryNodes k = 1)
    (hTwo : 2 ≤ (db'.listClusterMembers k).length) : db'.countPrimaryNodes k = 1 := by
  have hIn : ∀ s ∈ db.sans, (g s).isIn k = s.isIn k := by
    intro s hs
    rw [Bool.eq_iff_iff]
    simpa [San.isIn] using (hLeaves s hs).1
  have hMembers : db.sans.filter (fun s => (g s).isIn k) = db.listClusterMembers k :=
    List.filter_congr hIn
  rw [hWritten.members, hMembers, List.length_map] at hTwo
  rw [hWritten.countPrimaryNodes, ← h hTwo, countPrimaryNodes_eq_countP]
  refine List.countP_congr fun s hs => ?_
  rw [hIn s hs]
  cases hk : s.isIn k with
  | false => simp
  | true =>
    have hRole := (hLeaves s hs).2 (by simpa [San.isIn] using hk)
    simp [San.isPrimary, hRole]

theorem roles_iff (hWritten : Written g db db') (hLeaves : LeavesRoles g db k) (id : Id)
    (role : Option ClusterNodeRole) :
    (∃ s ∈ db'.listClusterMembers k, s.id = id ∧ s.clusterRole = role) ↔
      ∃ s ∈ db.listClusterMembers k, s.id = id ∧ s.clusterRole = role := by
  constructor
  · rintro ⟨s', hs', hId, hRole⟩
    obtain ⟨s, hs, hk, rfl⟩ := hWritten.mem_iff.mp hs'
    have hk := (hLeaves s hs).1.mp hk
    exact ⟨s, mem_listClusterMembers.mpr ⟨hs, hk⟩, (hWritten.id s hs).symm.trans hId,
      ((hLeaves s hs).2 hk).symm.trans hRole⟩
  · rintro ⟨s, hs, rfl, rfl⟩
    obtain ⟨hs, hk⟩ := mem_listClusterMembers.mp hs
    exact ⟨g s, hWritten.mem_iff.mpr ⟨s, hs, (hLeaves s hs).1.mpr hk, rfl⟩, hWritten.id s hs,
      (hLeaves s hs).2 hk⟩

theorem ConsistentAt.of_leaves (h : ConsistentAt db k) (hWritten : Written g db db')
    (hRoles : LeavesRoles g db k) (hPeers : LeavesPeers g db k)
    (hNodes : ∀ n, n.clusterId = k → (n ∈ db'.clusterNodes ↔ n ∈ db.clusterNodes)) :
    ConsistentAt db' k := by
  refine ⟨onePrimary_of_roles hWritten hRoles h.onePrimary, ?_, fun id role => ?_⟩
  · intro s' hs' peer hPeer
    obtain ⟨s, hs, hk, rfl⟩ := hWritten.mem_iff.mp hs'
    have hk := (hRoles s hs).1.mp hk
    rw [hPeers s hs hk] at hPeer
    obtain ⟨hNe, p, hp, rfl⟩ := h.peers s (mem_listClusterMembers.mpr ⟨hs, hk⟩) peer hPeer
    obtain ⟨hp, hpk⟩ := mem_listClusterMembers.mp hp
    rw [hWritten.id s hs]
    exact ⟨hNe, g p, hWritten.mem_iff.mpr ⟨p, hp, (hRoles p hp).1.mpr hpk, rfl⟩, hWritten.id p hp⟩
  · rw [roles_iff hWritten hRoles, ← h.nodes]
    constructor
    · rintro ⟨n, hn, hk, hRest⟩
      exact ⟨n, (hNodes n hk).mp hn, hk, hRest⟩
    · rintro ⟨n, hn, hk, hRest⟩
      exact ⟨n, (hNodes n hk).mpr hn, hk, hRest⟩

theorem written_refl (db : ClusterDb) : Written id db db := ⟨by simp, fun _ _ => rfl⟩

theorem written_updateSans (found : San → Bool) (set : San → San) :
    Written (fun s => if found s then { set s with id := s.id } else s) db
      (db.updateSans found set) where
  sans := rfl
  id := by
    intro s _
    dsimp only
    split <;> rfl

theorem Written.trans {g' : San → San} {db'' : ClusterDb} (h : Written g db db')
    (h' : Written g' db' db'') : Written (fun s => g' (g s)) db db'' where
  sans := by rw [h'.sans, h.sans, List.map_map]; rfl
  id := by
    intro s hs
    rw [h'.id (g s) (h.sans ▸ List.mem_map_of_mem hs), h.id s hs]

theorem Written.of_sans {db'' : ClusterDb} (h : Written g db db') (hSans : db''.sans = db'.sans) :
    Written g db db'' :=
  ⟨hSans.trans h.sans, h.id⟩

theorem Written.congr {g' : San → San} (h : Written g db db') (hSame : ∀ s ∈ db.sans, g s = g' s) :
    Written g' db db' where
  sans := h.sans.trans (List.map_congr_left hSame)
  id := fun s hs => hSame s hs ▸ h.id s hs

theorem written_foldl (set : San → San → San) (g : San → San)
    (hSet : ∀ m s, s.id = m.id → set m s = g s)
    (hId : ∀ s, (g s).id = s.id) (hIdem : ∀ s, g (g s) = g s) (l : List San) (db : ClusterDb) :
    Written (fun s => if s.id ∈ l.map (·.id) then g s else s) db
      (l.foldl (fun db m => db.updateSan m.id (set m)) db) := by
  induction l generalizing db with
  | nil => exact (written_refl db).congr fun s _ => by simp
  | cons m l ih =>
    refine ((written_updateSans _ _).trans (ih _)).congr fun s _ => ?_
    by_cases hSame : s.id = m.id
    · have hImage : { set m s with id := s.id } = g s := by
        rw [hSet m s hSame, ← hId s]
      simp only [hSame, beq_self_eq_true, if_true, List.map_cons, List.mem_cons, true_or]
      rw [← hSame, hImage, hIdem, ite_self]
    · simp [hSame]

theorem countP_of_one {x : San} (hx : x ∈ db.sans) {p q : San → Bool}
    (hOther : ∀ s ∈ db.sans, s.id ≠ x.id → p s = q s) :
    db.sans.countP p + (q x).toNat = db.sans.countP q + (p x).toNat := by
  obtain ⟨pre, post, hSplit⟩ := List.append_of_mem hx
  have hNodup := db.sanUnique
  rw [hSplit, List.map_append, List.map_cons, List.nodup_append, List.nodup_cons] at hNodup
  obtain ⟨-, ⟨hPostNe, -⟩, hPreNe⟩ := hNodup
  have hPre : pre.countP p = pre.countP q := by
    refine List.countP_congr fun s hs => ?_
    rw [hOther s (by simp [hSplit, hs])]
    exact hPreNe s.id (List.mem_map_of_mem hs) x.id (by simp)
  have hPost : post.countP p = post.countP q := by
    refine List.countP_congr fun s hs => ?_
    rw [hOther s (by simp [hSplit, hs])]
    exact fun hSame => hPostNe (hSame ▸ List.mem_map_of_mem hs)
  rw [hSplit]
  simp only [List.countP_append, List.countP_cons, hPre, hPost]
  cases p x <;> cases q x <;> simp <;> omega

end

variable {db db' : ClusterDb} {k j : Id}

theorem sans_sync (h : db.syncClusterNodesFromSans k = .ok db') : db'.sans = db.sans := by
  obtain ⟨_, _, hRest⟩ := bind_eq_ok.mp h
  rw [← Except.ok.inj hRest]

theorem mem_nodes_sync (h : db.syncClusterNodesFromSans k = .ok db') {n : ClusterNode} :
    n ∈ db'.clusterNodes ↔ (n ∈ db.clusterNodes ∧ n.clusterId ≠ k) ∨
      ∃ i m, (db.listClusterMembers k)[i]? = some m ∧ n = ⟨k, m.id, m.clusterRole, i⟩ := by
  obtain ⟨_, _, hRest⟩ := bind_eq_ok.mp h
  rw [← Except.ok.inj hRest]
  simp only [List.mem_append, List.mem_filter, List.mem_mapIdx, bne_iff_ne]
  refine or_congr Iff.rfl ⟨?_, ?_⟩
  · rintro ⟨i, hi, rfl⟩
    exact ⟨i, _, List.getElem?_eq_getElem hi, rfl⟩
  · rintro ⟨i, m, hGet, rfl⟩
    obtain ⟨hi, rfl⟩ := List.getElem?_eq_some_iff.mp hGet
    exact ⟨i, hi, rfl⟩

theorem nodes_sync (h : db.syncClusterNodesFromSans k = .ok db') (id : Id)
    (role : Option ClusterNodeRole) :
    (∃ n ∈ db'.clusterNodes, n.clusterId = k ∧ n.sanId = id ∧ n.role = role) ↔
      ∃ s ∈ db'.listClusterMembers k, s.id = id ∧ s.clusterRole = role := by
  rw [ClusterDb.listClusterMembers, sans_sync h]
  constructor
  · rintro ⟨n, hn, hk, rfl, rfl⟩
    rcases (mem_nodes_sync h).mp hn with ⟨-, hNe⟩ | ⟨i, m, hGet, rfl⟩
    · exact absurd hk hNe
    · exact ⟨m, List.mem_of_getElem? hGet, rfl, rfl⟩
  · rintro ⟨s, hs, rfl, rfl⟩
    obtain ⟨i, hGet⟩ := List.mem_iff_getElem?.mp hs
    exact ⟨_, (mem_nodes_sync h).mpr (Or.inr ⟨i, s, hGet, rfl⟩), rfl, rfl, rfl⟩

theorem mem_nodes_sync_of_ne (h : db.syncClusterNodesFromSans k = .ok db') {n : ClusterNode}
    (hNe : n.clusterId ≠ k) : n ∈ db'.clusterNodes ↔ n ∈ db.clusterNodes := by
  rw [mem_nodes_sync h]
  constructor
  · rintro (⟨hn, -⟩ | ⟨i, m, -, rfl⟩)
    · exact hn
    · exact absurd rfl hNe
  · exact fun hn => Or.inl ⟨hn, hNe⟩

end EsosWebui.Cluster
