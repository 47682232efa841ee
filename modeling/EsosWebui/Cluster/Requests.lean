import EsosWebui.Cluster.Registry
import EsosWebui.Js.Run

/-! What each request makes of the records, and when it keeps them consistent. -/
namespace EsosWebui.Cluster

open Js

/-- A node joins an empty cluster, or one that has a primary, or joins as the primary. -/
def AddNode.Primary (body : AddNode) (db : ClusterDb) : Prop :=
  ∀ k, body.clusterId = some k → db.listClusterMembers k = [] ∨ 0 < db.countPrimaryNodes k ∨
    body.role = some .primary

/-- No role changes: the node is the primary and the others are secondary already. -/
def PromotePrimary.Unchanged (body : PromotePrimary) (db : ClusterDb) : Prop :=
  ∀ k nodeId, body.clusterId = some k → body.nodeId = some nodeId →
    ∀ m ∈ db.listClusterMembers k, m.clusterRole = some (PromotePrimary.roleOf nodeId m.id)

/-- Nothing of the database is written, or the cluster is dissolved, or the node is neither the
primary nor the peer of another member. -/
def RemoveNode.Dispensable (body : RemoveNode) (db : ClusterDb) : Prop :=
  body.skipDb = true ∨ ∀ node ∈ db.sans, body.nodeId = some node.id →
    ∀ k, node.clusterId = some k → (db.listClusterMembers k).length < 3 ∨
      (node.isPrimary = false ∧
        ∀ m ∈ db.listClusterMembers k, m.clusterPeer ≠ some node.id)

def Request.Keeps : Request → ClusterDb → Prop
  | addNode body => body.Primary
  | promotePrimary body => body.Unchanged
  | removeNode body => body.Dispensable

section

variable {db db' : ClusterDb} {k sanId : Id} {role : ClusterNodeRole} {san : San}

/-- What the handler makes of a row. -/
def AddNode.image (k sanId : Id) (role : ClusterNodeRole) (peer : Option Id) (s : San) : San :=
  if s.id = sanId then AddNode.joined k role peer s
  else if some s.id = peer then { s with clusterPeer := some sanId }
  else s

theorem AddNode.written_write {peer : Option Id}
    (hPeer : (db.listClusterMembers k).head?.map (·.id) = peer) (hNe : peer ≠ some sanId)
    (h : AddNode.write db k sanId role = .ok db') :
    Written (AddNode.image k sanId role peer) db db' := by
  unfold AddNode.write at h
  rw [hPeer] at h
  dsimp only at h
  cases peer with
  | none =>
    refine ((written_updateSans _ _).congr fun s _ => ?_).of_sans (sans_sync h)
    by_cases hSame : s.id = sanId
    · simp [AddNode.image, AddNode.joined, hSame]
    · simp [AddNode.image, hSame]
  | some peer =>
    have hOther : peer ≠ sanId := fun hSame => hNe (congrArg some hSame)
    refine (((written_updateSans _ _).trans (written_updateSans _ _)).congr fun s _ => ?_).of_sans
      (sans_sync h)
    by_cases hSame : s.id = sanId
    · simp [AddNode.image, AddNode.joined, hSame, Ne.symm hOther]
    · by_cases hIs : s.id = peer
      · simp [AddNode.image, hIs, hOther]
      · simp [AddNode.image, hSame, hIs]

theorem AddNode.ok_cases {body : AddNode} (h : body.handler db = .ok db') :
    ∃ k san, body.clusterId = some k ∧ body.sanId = some san.id ∧ san ∈ db.sans ∧
      san.clusterId = none ∧
      (body.role = some .primary → db.countPrimaryNodes k = 0) ∧
      AddNode.write db k san.id (body.role.getD .secondary) = .ok db' := by
  obtain ⟨k, hk, h⟩ := bind_eq_ok.mp h
  obtain ⟨sanId, hSanId, h⟩ := bind_eq_ok.mp h
  obtain ⟨_, _, h⟩ := bind_eq_ok.mp h
  obtain ⟨san, hSan, h⟩ := bind_eq_ok.mp h
  obtain ⟨_, hFree, h⟩ := bind_eq_ok.mp h
  obtain ⟨_, hPrimary, h⟩ := bind_eq_ok.mp h
  have hFound := orThrow_eq_ok.mp hSan
  obtain rfl : san.id = sanId := by simpa using List.find?_some hFound
  refine ⟨k, san, orThrow_eq_ok.mp hk, orThrow_eq_ok.mp hSanId, List.mem_of_find?_eq_some hFound,
    not_not.mp (throwIf_eq_ok.mp hFree), fun hRole => ?_, h⟩
  have hNone := throwIf_eq_ok.mp hPrimary
  rw [hRole] at hNone
  have hNot : (db.listClusterMembers k).any (·.isPrimary) = false := by simpa using hNone
  rw [ClusterDb.countPrimaryNodes, List.length_eq_zero_iff, List.filter_eq_nil_iff]
  exact List.any_eq_false.mp hNot

theorem AddNode.mem_nodes_write (h : AddNode.write db k sanId role = .ok db') {n : ClusterNode}
    (hNe : n.clusterId ≠ k) : n ∈ db'.clusterNodes ↔ n ∈ db.clusterNodes := by
  rw [mem_nodes_sync_of_ne h hNe]
  split <;> rfl

theorem AddNode.image_self (k : Id) (role : ClusterNodeRole) (peer : Option Id) (s : San) :
    AddNode.image k s.id role peer s = AddNode.joined k role peer s :=
  if_pos rfl

theorem AddNode.image_clusterId {peer : Option Id} {s : San} (hNe : s.id ≠ sanId) :
    (AddNode.image k sanId role peer s).clusterId = s.clusterId := by
  unfold AddNode.image
  rw [if_neg hNe]
  split <;> rfl

theorem AddNode.image_clusterRole {peer : Option Id} {s : San} (hNe : s.id ≠ sanId) :
    (AddNode.image k sanId role peer s).clusterRole = s.clusterRole := by
  unfold AddNode.image
  rw [if_neg hNe]
  split <;> rfl

theorem AddNode.leavesRoles {j : Id} {peer : Option Id} (hSan : san ∈ db.sans)
    (hFree : san.clusterId = none) (hNe : j ≠ k) :
    LeavesRoles (AddNode.image k san.id role peer) db j := by
  intro s hs
  by_cases hSame : s.id = san.id
  · obtain rfl := san_eq_of_id hs hSan hSame
    rw [AddNode.image_self, hFree]
    simp [AddNode.joined, Ne.symm hNe]
  · rw [AddNode.image_clusterId hSame, AddNode.image_clusterRole hSame]
    exact ⟨Iff.rfl, fun _ => rfl⟩

theorem AddNode.leavesPeers {j : Id} {peer : Option Id} (hSan : san ∈ db.sans)
    (hFree : san.clusterId = none)
    (hPeer : (db.listClusterMembers k).head?.map (·.id) = peer) (hNe : j ≠ k) :
    LeavesPeers (AddNode.image k san.id role peer) db j := by
  intro s hs hj
  by_cases hSame : s.id = san.id
  · obtain rfl := san_eq_of_id hs hSan hSame
    rw [hFree] at hj
    cases hj
  · have hOther : some s.id ≠ peer := by
      rintro rfl
      obtain ⟨p, hHead, hId⟩ := Option.map_eq_some_iff.mp hPeer
      obtain ⟨hp, hpk⟩ := mem_listClusterMembers.mp (List.mem_of_head? hHead)
      obtain rfl := san_eq_of_id hp hs hId
      exact hNe (Option.some.inj (hj.symm.trans hpk))
    simp [AddNode.image, hSame, hOther]

theorem AddNode.onePrimary {peer : Option Id} (hConsistent : ConsistentAt db k)
    (hSan : san ∈ db.sans) (hFree : san.clusterId = none)
    (hWritten : Written (AddNode.image k san.id role peer) db db')
    (hNone : role = .primary → db.countPrimaryNodes k = 0)
    (hPrimary : db.listClusterMembers k = [] ∨ 0 < db.countPrimaryNodes k ∨ role = .primary)
    (hTwo : 2 ≤ (db'.listClusterMembers k).length) : db'.countPrimaryNodes k = 1 := by
  let g := AddNode.image k san.id role peer
  have hIn : (db'.listClusterMembers k).length = (db.listClusterMembers k).length + 1 := by
    rw [hWritten.members, List.length_map, ← List.countP_eq_length_filter,
      ClusterDb.listClusterMembers, ← List.countP_eq_length_filter]
    have hCount := countP_of_one hSan (p := fun s => (g s).isIn k) (q := (·.isIn k))
      fun s _ hNe => by simp only [g, San.isIn, AddNode.image_clusterId hNe]
    have hNew : (g san).isIn k = true := by simp [g, San.isIn, AddNode.image_self, AddNode.joined]
    have hOld : san.isIn k = false := by simp [San.isIn, hFree]
    rw [hNew, hOld] at hCount
    simpa using hCount
  have hPrimaries :
      db'.countPrimaryNodes k = db.countPrimaryNodes k + (role == .primary).toNat := by
    rw [hWritten.countPrimaryNodes, countPrimaryNodes_eq_countP]
    have hCount := countP_of_one hSan (p := fun s => (g s).isIn k && (g s).isPrimary)
      (q := fun s => s.isIn k && s.isPrimary)
      fun s _ hNe => by
        simp only [g, San.isIn, San.isPrimary, AddNode.image_clusterId hNe,
          AddNode.image_clusterRole hNe]
    have hNew : ((g san).isIn k && (g san).isPrimary) = (role == .primary) := by
      simp [g, San.isIn, San.isPrimary, AddNode.image_self, AddNode.joined]
    have hOld : (san.isIn k && san.isPrimary) = false := by simp [San.isIn, hFree]
    rw [hNew, hOld] at hCount
    simpa using hCount
  have hLe : db.countPrimaryNodes k ≤ (db.listClusterMembers k).length :=
    List.length_filter_le ..
  by_cases hRole : role = .primary
  · rw [hPrimaries, hNone hRole, hRole]
    rfl
  · have hNot : (role == ClusterNodeRole.primary) = false := by simpa using hRole
    rw [hPrimaries, hNot]
    rcases hPrimary with hEmpty | hSome | hIs
    · rw [hIn, hEmpty] at hTwo
      simp at hTwo
    · by_cases hMany : 2 ≤ (db.listClusterMembers k).length
      · rw [hConsistent.onePrimary hMany]
        rfl
      · simp only [Bool.toNat_false]
        omega
    · exact absurd hIs hRole

theorem AddNode.peers {peer : Option Id} (hConsistent : ConsistentAt db k) (hSan : san ∈ db.sans)
    (hFree : san.clusterId = none) (hPeer : (db.listClusterMembers k).head?.map (·.id) = peer)
    (hWritten : Written (AddNode.image k san.id role peer) db db') :
    ∀ s ∈ db'.listClusterMembers k, ∀ other, s.clusterPeer = some other →
      other ≠ s.id ∧ ∃ p ∈ db'.listClusterMembers k, p.id = other := by
  have hOther {p : San} (hp : p ∈ db.listClusterMembers k) : p.id ≠ san.id := by
    intro hSame
    obtain ⟨hp, hpk⟩ := mem_listClusterMembers.mp hp
    rw [san_eq_of_id hp hSan hSame, hFree] at hpk
    cases hpk
  have hMember {p : San} (hp : p ∈ db.listClusterMembers k) :
      ∃ p' ∈ db'.listClusterMembers k, p'.id = p.id := by
    obtain ⟨hMem, hpk⟩ := mem_listClusterMembers.mp hp
    refine ⟨_, hWritten.mem_iff.mpr ⟨p, hMem, ?_, rfl⟩, hWritten.id p hMem⟩
    rw [AddNode.image_clusterId (hOther hp), hpk]
  have hNew : ∃ p' ∈ db'.listClusterMembers k, p'.id = san.id :=
    ⟨_, hWritten.mem_iff.mpr ⟨san, hSan, by rw [AddNode.image_self]; rfl, rfl⟩,
      hWritten.id san hSan⟩
  intro s' hs' other hIs
  obtain ⟨s, hs, hk, rfl⟩ := hWritten.mem_iff.mp hs'
  rw [hWritten.id s hs]
  by_cases hSame : s.id = san.id
  · obtain rfl := san_eq_of_id hs hSan hSame
    rw [AddNode.image_self] at hIs
    obtain ⟨p, hHead, rfl⟩ := Option.map_eq_some_iff.mp (hPeer.trans hIs)
    have hp := List.mem_of_head? hHead
    exact ⟨hOther hp, hMember hp⟩
  · rw [AddNode.image_clusterId hSame] at hk
    have hs := mem_listClusterMembers.mpr ⟨hs, hk⟩
    unfold AddNode.image at hIs
    rw [if_neg hSame] at hIs
    split at hIs
    · obtain rfl := Option.some.inj hIs
      exact ⟨Ne.symm hSame, hNew⟩
    · obtain ⟨hNe, p, hp, rfl⟩ := hConsistent.peers s hs other hIs
      exact ⟨hNe, hMember hp⟩

theorem AddNode.consistent {body : AddNode} (hConsistent : Consistent db)
    (hPrimary : body.Primary db) (h : body.handler db = .ok db') : Consistent db' := by
  obtain ⟨k, san, hk, -, hSan, hFree, hNone, hWrite⟩ := AddNode.ok_cases h
  obtain ⟨peer, hPeer⟩ : ∃ peer, (db.listClusterMembers k).head?.map (·.id) = peer := ⟨_, rfl⟩
  have hNe : peer ≠ some san.id := by
    rintro rfl
    obtain ⟨p, hHead, hId⟩ := Option.map_eq_some_iff.mp hPeer
    obtain ⟨hp, hpk⟩ := mem_listClusterMembers.mp (List.mem_of_head? hHead)
    rw [san_eq_of_id hp hSan hId, hFree] at hpk
    cases hpk
  have hWritten := AddNode.written_write hPeer hNe hWrite
  intro j
  by_cases hj : j = k
  · subst hj
    refine ⟨AddNode.onePrimary (hConsistent j) hSan hFree hWritten ?_ ?_,
      AddNode.peers (hConsistent j) hSan hFree hPeer hWritten, fun id role => ?_⟩
    · intro hRole
      cases hBody : body.role with
      | none => rw [hBody] at hRole; cases hRole
      | some r => rw [hBody] at hRole; exact hNone (hBody.trans (congrArg some hRole))
    · rcases hPrimary j hk with hEmpty | hSome | hRole
      · exact Or.inl hEmpty
      · exact Or.inr (Or.inl hSome)
      · exact Or.inr (Or.inr (by rw [hRole]; rfl))
    · exact nodes_sync hWrite id role
  · exact (hConsistent j).of_leaves hWritten (AddNode.leavesRoles hSan hFree hj)
      (AddNode.leavesPeers hSan hFree hPeer hj) fun n hn => AddNode.mem_nodes_write hWrite (hn ▸ hj)

end

section

variable {db db' : ClusterDb} {k nodeId : Id}

def PromotePrimary.promoted (nodeId : Id) (s : San) : San :=
  { s with clusterRole := some (PromotePrimary.roleOf nodeId s.id) }

def PromotePrimary.linked (nodeId : Id) (s : San) : San := { s with clusterPeer := some nodeId }

def PromotePrimary.peerOf (members : List San) (nodeId : Id) (s : San) : Option Id :=
  match (members.filter (·.id != nodeId)).head? with
  | some first => some (if s.id = nodeId then first.id else nodeId)
  | none => s.clusterPeer

/-- What the handler makes of a row. -/
def PromotePrimary.image (members : List San) (nodeId : Id) (s : San) : San :=
  if s ∈ members then
    { PromotePrimary.promoted nodeId s with clusterPeer := PromotePrimary.peerOf members nodeId s }
  else s

theorem PromotePrimary.written_write (db : ClusterDb) (k nodeId : Id)
    (hNode : ∃ s ∈ db.listClusterMembers k, s.id = nodeId) :
    Written (PromotePrimary.image (db.listClusterMembers k) nodeId) db
      (PromotePrimary.write db (db.listClusterMembers k) nodeId) := by
  obtain ⟨node, hNodeMem, rfl⟩ := hNode
  have hIds {s : San} (hs : s ∈ db.sans) :
      s.id ∈ (db.listClusterMembers k).map (·.id) ↔ s ∈ db.listClusterMembers k := by
    constructor
    · intro h
      obtain ⟨m, hm, hId⟩ := List.mem_map.mp h
      rwa [san_eq_of_id hs (mem_listClusterMembers.mp hm).1 hId.symm]
    · exact fun h => List.mem_map_of_mem h
  have hRoles := written_foldl
    (fun m s => { s with clusterRole := some (PromotePrimary.roleOf node.id m.id) })
    (PromotePrimary.promoted node.id)
    (fun m s h => by rw [PromotePrimary.promoted, h]) (fun _ => rfl) (fun _ => rfl)
    (db.listClusterMembers k) db
  unfold PromotePrimary.write PromotePrimary.image PromotePrimary.peerOf
  dsimp only
  cases hFirst : ((db.listClusterMembers k).filter (·.id != node.id)).head? with
  | some first =>
    have hPeers := written_foldl (fun _ s => { s with clusterPeer := some node.id })
      (PromotePrimary.linked node.id) (fun _ _ _ => rfl) (fun _ => rfl) (fun _ => rfl)
      ((db.listClusterMembers k).filter (·.id != node.id))
    refine ((hRoles.trans (written_updateSans _ _)).trans (hPeers _)).congr fun s hs => ?_
    have hOthers : s.id ∈ ((db.listClusterMembers k).filter (·.id != node.id)).map (·.id) ↔
        s ∈ db.listClusterMembers k ∧ s.id ≠ node.id := by
      rw [← hIds hs]
      simp only [List.mem_map, List.mem_filter, bne_iff_ne]
      constructor
      · rintro ⟨m, ⟨hm, hNe⟩, hId⟩
        exact ⟨⟨m, hm, hId⟩, hId ▸ hNe⟩
      · rintro ⟨⟨m, hm, hId⟩, hNe⟩
        exact ⟨m, ⟨hm, hId ▸ hNe⟩, hId⟩
    by_cases hMem : s ∈ db.listClusterMembers k
    · by_cases hSame : s.id = node.id
      · simp only [hIds hs, hMem, if_true, PromotePrimary.promoted, beq_iff_eq, eq_true hSame,
          hOthers, ne_eq, not_true, and_false, if_false]
      · simp only [hIds hs, hMem, if_true, PromotePrimary.promoted, PromotePrimary.linked,
          beq_iff_eq, eq_false hSame, hOthers, ne_eq, not_false_iff, and_true, if_false]
    · have hNe : s.id ≠ node.id := by
        intro hSame
        rw [san_eq_of_id hs (mem_listClusterMembers.mp hNodeMem).1 hSame] at hMem
        exact hMem hNodeMem
      simp only [hIds hs, hMem, if_false, beq_iff_eq, eq_false hNe, hOthers, false_and]
  | none =>
    refine hRoles.congr fun s hs => ?_
    by_cases hMem : s ∈ db.listClusterMembers k
    · simp only [hIds hs, hMem, if_true, PromotePrimary.promoted]
    · simp only [hIds hs, hMem, if_false]

theorem PromotePrimary.ok_cases {body : PromotePrimary} (h : body.handler db = .ok db') :
    ∃ k nodeId, body.clusterId = some k ∧ body.nodeId = some nodeId ∧
      (∃ s ∈ db.listClusterMembers k, s.id = nodeId) ∧
      db' = PromotePrimary.write db (db.listClusterMembers k) nodeId := by
  obtain ⟨k, hk, h⟩ := bind_eq_ok.mp h
  obtain ⟨nodeId, hNode, h⟩ := bind_eq_ok.mp h
  obtain ⟨_, hFound, h⟩ := bind_eq_ok.mp h
  refine ⟨k, nodeId, orThrow_eq_ok.mp hk, orThrow_eq_ok.mp hNode, ?_, (Except.ok.inj h).symm⟩
  have hAny := not_not.mp (throwIf_eq_ok.mp hFound)
  simpa using hAny

theorem PromotePrimary.clusterNodes_write (db : ClusterDb) (members : List San) (nodeId : Id) :
    (PromotePrimary.write db members nodeId).clusterNodes = db.clusterNodes := by
  have hFold (l : List San) (set : San → San → San) (db : ClusterDb) :
      (l.foldl (fun db m => db.updateSan m.id (set m)) db).clusterNodes = db.clusterNodes := by
    induction l generalizing db with
    | nil => rfl
    | cons m l ih => exact ih _
  unfold PromotePrimary.write
  dsimp only
  split
  · rw [hFold]
    exact hFold _ _ db
  · exact hFold _ _ db

theorem PromotePrimary.peers (hNode : ∃ s ∈ db.listClusterMembers k, s.id = nodeId)
    (hConsistent : ConsistentAt db k)
    (hWritten : Written (PromotePrimary.image (db.listClusterMembers k) nodeId) db db') :
    ∀ s ∈ db'.listClusterMembers k, ∀ other, s.clusterPeer = some other →
      other ≠ s.id ∧ ∃ p ∈ db'.listClusterMembers k, p.id = other := by
  have hMember {p : San} (hp : p ∈ db.listClusterMembers k) :
      ∃ p' ∈ db'.listClusterMembers k, p'.id = p.id := by
    obtain ⟨hMem, hpk⟩ := mem_listClusterMembers.mp hp
    refine ⟨_, hWritten.mem_iff.mpr ⟨p, hMem, ?_, rfl⟩, hWritten.id p hMem⟩
    rw [PromotePrimary.image, if_pos hp]
    exact hpk
  intro s' hs' other hOther
  obtain ⟨s, hs, hk, rfl⟩ := hWritten.mem_iff.mp hs'
  rw [hWritten.id s hs]
  have hMem : s ∈ db.listClusterMembers k := by
    by_contra hNot
    rw [PromotePrimary.image, if_neg hNot] at hk
    exact hNot (mem_listClusterMembers.mpr ⟨hs, hk⟩)
  rw [PromotePrimary.image, if_pos hMem] at hOther
  have hPeer : PromotePrimary.peerOf (db.listClusterMembers k) nodeId s = some other := hOther
  unfold PromotePrimary.peerOf at hPeer
  split at hPeer
  · rename_i first hFirst
    obtain ⟨hFirstMem, hFirstNe⟩ := List.mem_filter.mp (List.mem_of_head? hFirst)
    split at hPeer
    · rename_i hSame
      obtain rfl := Option.some.inj hPeer
      exact ⟨by simpa [hSame] using hFirstNe, hMember hFirstMem⟩
    · rename_i hNe
      obtain rfl := Option.some.inj hPeer
      obtain ⟨node, hNodeMem, rfl⟩ := hNode
      exact ⟨Ne.symm hNe, hMember hNodeMem⟩
  · obtain ⟨hNe, p, hp, rfl⟩ := hConsistent.peers s hMem other hPeer
    exact ⟨hNe, hMember hp⟩

theorem PromotePrimary.consistent {body : PromotePrimary} (hConsistent : Consistent db)
    (hUnchanged : body.Unchanged db) (h : body.handler db = .ok db') : Consistent db' := by
  obtain ⟨k, nodeId, hk, hNodeId, hNode, rfl⟩ := PromotePrimary.ok_cases h
  have hWritten := PromotePrimary.written_write db k nodeId hNode
  have hRoles (j : Id) :
      LeavesRoles (PromotePrimary.image (db.listClusterMembers k) nodeId) db j := by
    intro s hs
    unfold PromotePrimary.image
    by_cases hMem : s ∈ db.listClusterMembers k
    · rw [if_pos hMem]
      exact ⟨Iff.rfl, fun _ => (hUnchanged k nodeId hk hNodeId s hMem).symm⟩
    · rw [if_neg hMem]
      exact ⟨Iff.rfl, fun _ => rfl⟩
  have hNodes := PromotePrimary.clusterNodes_write db (db.listClusterMembers k) nodeId
  intro j
  by_cases hj : j = k
  · subst hj
    refine ⟨onePrimary_of_roles hWritten (hRoles j) (hConsistent j).onePrimary,
      PromotePrimary.peers hNode (hConsistent j) hWritten, fun id role => ?_⟩
    rw [roles_iff hWritten (hRoles j), hNodes]
    exact (hConsistent j).nodes id role
  · refine (hConsistent j).of_leaves hWritten (hRoles j) (fun s hs hsj => ?_) fun n _ => by
      rw [hNodes]
    have hNot : s ∉ db.listClusterMembers k := by
      intro hMem
      exact hj (Option.some.inj (hsj.symm.trans (mem_listClusterMembers.mp hMem).2))
    rw [PromotePrimary.image, if_neg hNot]

end

variable {db db' : ClusterDb} {k : Id} {node : San}

/-- What the handler makes of a row while the cluster goes on. -/
def RemoveNode.image (node s : San) : San := if s.id = node.id then s.reset else s

theorem RemoveNode.written (db : ClusterDb) (node : San) :
    Written (RemoveNode.image node) db (db.updateSan node.id San.reset) := by
  refine (written_updateSans _ _).congr fun s _ => ?_
  simp only [RemoveNode.image, beq_iff_eq]
  split <;> rfl

theorem RemoveNode.image_of_ne {s : San} (h : s.id ≠ node.id) : RemoveNode.image node s = s :=
  if_neg h

theorem RemoveNode.leavesRoles {j : Id} (hNode : node ∈ db.sans) (hNot : node.clusterId ≠ some j) :
    LeavesRoles (RemoveNode.image node) db j := by
  intro s hs
  by_cases hSame : s.id = node.id
  · obtain rfl := san_eq_of_id hs hNode hSame
    rw [RemoveNode.image, if_pos rfl]
    exact ⟨iff_of_false (by simp [San.reset]) hNot, fun hj => absurd hj hNot⟩
  · rw [RemoveNode.image_of_ne hSame]
    exact ⟨Iff.rfl, fun _ => rfl⟩

theorem RemoveNode.leavesPeers {j : Id} (hNode : node ∈ db.sans) (hNot : node.clusterId ≠ some j) :
    LeavesPeers (RemoveNode.image node) db j := by
  intro s hs hj
  by_cases hSame : s.id = node.id
  · obtain rfl := san_eq_of_id hs hNode hSame
    exact absurd hj hNot
  · rw [RemoveNode.image_of_ne hSame]

theorem RemoveNode.mem_members {s : San} :
    s ∈ (db.updateSan node.id San.reset).listClusterMembers k ↔
      s ∈ db.listClusterMembers k ∧ s.id ≠ node.id := by
  rw [(RemoveNode.written db node).mem_iff, mem_listClusterMembers]
  constructor
  · rintro ⟨r, hr, hk, rfl⟩
    by_cases hSame : r.id = node.id
    · rw [RemoveNode.image, if_pos hSame] at hk
      cases hk
    · rw [RemoveNode.image_of_ne hSame] at hk ⊢
      exact ⟨⟨hr, hk⟩, hSame⟩
  · rintro ⟨⟨hs, hk⟩, hNe⟩
    exact ⟨s, hs, by rwa [RemoveNode.image_of_ne hNe], RemoveNode.image_of_ne hNe⟩

theorem RemoveNode.counts (hNode : node ∈ db.sans) (hk : node.clusterId = some k) :
    ((db.updateSan node.id San.reset).listClusterMembers k).length + 1 =
        (db.listClusterMembers k).length ∧
      (db.updateSan node.id San.reset).countPrimaryNodes k + node.isPrimary.toNat =
        db.countPrimaryNodes k := by
  have hWritten := RemoveNode.written db node
  have hOld : node.isIn k = true := by simp [San.isIn, hk]
  have hNew : (RemoveNode.image node node).isIn k = false := by
    simp [RemoveNode.image, San.reset, San.isIn]
  constructor
  · rw [hWritten.members, List.length_map, ← List.countP_eq_length_filter,
      ClusterDb.listClusterMembers, ← List.countP_eq_length_filter]
    have hCount := countP_of_one hNode (p := fun s => (RemoveNode.image node s).isIn k)
      (q := (·.isIn k)) fun s _ hNe => by simp only [RemoveNode.image_of_ne hNe]
    rw [hNew, hOld] at hCount
    simpa using hCount
  · rw [hWritten.countPrimaryNodes, countPrimaryNodes_eq_countP]
    have hCount := countP_of_one hNode
      (p := fun s => (RemoveNode.image node s).isIn k && (RemoveNode.image node s).isPrimary)
      (q := fun s => s.isIn k && s.isPrimary)
      fun s _ hNe => by simp only [RemoveNode.image_of_ne hNe]
    rw [hNew, hOld] at hCount
    simpa using hCount

theorem RemoveNode.ok_cases {body : RemoveNode} (h : body.handler db = .ok db') :
    db' = db ∨ ∃ node ∈ db.sans, body.nodeId = some node.id ∧ body.skipDb = false ∧
      ((node.clusterId = none ∧ db' = db.updateSan node.id San.reset) ∨
        ∃ k, node.clusterId = some k ∧
          RemoveNode.leave (db.updateSan node.id San.reset) k = .ok db') := by
  obtain ⟨nodeId, hNodeId, h⟩ := bind_eq_ok.mp h
  obtain ⟨node, hNode, h⟩ := bind_eq_ok.mp h
  obtain ⟨_, _, h⟩ := bind_eq_ok.mp h
  have hFound := orThrow_eq_ok.mp hNode
  obtain rfl : node.id = nodeId := by simpa using List.find?_some hFound
  split at h
  · exact Or.inl (Except.ok.inj h).symm
  · rename_i hSkip
    refine Or.inr ⟨node, List.mem_of_find?_eq_some hFound, orThrow_eq_ok.mp hNodeId,
      by simpa using hSkip, ?_⟩
    split at h
    · rename_i k hk
      exact Or.inr ⟨k, hk, h⟩
    · rename_i hNone
      exact Or.inl ⟨hNone, (Except.ok.inj h).symm⟩

theorem consistentAt_of_empty (hMembers : db.listClusterMembers k = [])
    (hNodes : ∀ n ∈ db.clusterNodes, n.clusterId ≠ k) : ConsistentAt db k := by
  refine ⟨?_, ?_, fun id role => iff_of_false ?_ ?_⟩
  · rw [hMembers]
    simp
  · rw [hMembers]
    simp
  · rintro ⟨n, hn, hk, -⟩
    exact hNodes n hn hk
  · rw [hMembers]
    simp

theorem RemoveNode.consistent_dissolved (hConsistent : Consistent db) (hNode : node ∈ db.sans)
    (hk : node.clusterId = some k) :
    Consistent (((db.updateSan node.id San.reset).updateSans (·.isIn k) San.reset).deleteCluster
      k) := by
  have hSans : (((db.updateSan node.id San.reset).updateSans (·.isIn k) San.reset).deleteCluster
      k).sans = ((db.updateSan node.id San.reset).updateSans (·.isIn k) San.reset).sans := rfl
  have hWritten := ((RemoveNode.written db node).trans (written_updateSans _ _)).of_sans hSans
  intro j
  by_cases hj : j = k
  · subst hj
    refine consistentAt_of_empty (List.eq_nil_iff_forall_not_mem.mpr fun s hs => ?_) fun n hn => ?_
    · obtain ⟨r, -, hr, -⟩ := hWritten.mem_iff.mp hs
      split at hr
      · cases hr
      · rename_i hNot
        exact hNot (by simp [San.isIn, hr])
    · simpa using (List.mem_filter.mp hn).2
  · have hNot : node.clusterId ≠ some j := fun h => hj (Option.some.inj (h.symm.trans hk))
    have hImage {s : San} (hs : s.clusterId = some j) (hNe : s.id ≠ node.id) :
        (RemoveNode.image node s).isIn k = false := by
      simp [RemoveNode.image_of_ne hNe, San.isIn, hs, hj]
    refine (hConsistent j).of_leaves hWritten (fun s hs => ?_) (fun s hs hsj => ?_) fun n hn => ?_
    · obtain ⟨hIff, hRole⟩ := RemoveNode.leavesRoles hNode hNot s hs
      by_cases hIn : (RemoveNode.image node s).isIn k = true
      · simp only [hIn, if_true]
        have hImageK : (RemoveNode.image node s).clusterId = some k := by simpa [San.isIn] using hIn
        refine ⟨iff_of_false (by simp [San.reset]) fun hsj => ?_, fun hsj => ?_⟩
        · exact hj (Option.some.inj ((hIff.mpr hsj).symm.trans hImageK))
        · exact absurd (Option.some.inj ((hIff.mpr hsj).symm.trans hImageK)) hj
      · simp only [hIn]
        exact ⟨hIff, hRole⟩
    · have hNe : s.id ≠ node.id := by
        intro hSame
        rw [san_eq_of_id hs hNode hSame] at hsj
        exact hNot hsj
      simp only [hImage hsj hNe]
      rw [RemoveNode.image_of_ne hNe]
      rfl
    · show n ∈ db.clusterNodes.filter (·.clusterId != k) ↔ n ∈ db.clusterNodes
      simp [hn, hj]

theorem RemoveNode.consistent_left (hConsistent : Consistent db) (hNode : node ∈ db.sans)
    (hk : node.clusterId = some k)
    (hMany : ¬ ((db.updateSan node.id San.reset).listClusterMembers k).length < 2)
    (hPrimary : node.isPrimary = false)
    (hPeers : ∀ m ∈ db.listClusterMembers k, m.clusterPeer ≠ some node.id)
    (h : (db.updateSan node.id San.reset).syncClusterNodesFromSans k = .ok db') :
    Consistent db' := by
  have hWritten := (RemoveNode.written db node).of_sans (sans_sync h)
  have hMembers (j : Id) : db'.listClusterMembers j =
      (db.updateSan node.id San.reset).listClusterMembers j := by
    rw [ClusterDb.listClusterMembers, sans_sync h, ClusterDb.listClusterMembers]
  obtain ⟨hLength, hCount⟩ := RemoveNode.counts hNode hk
  intro j
  by_cases hj : j = k
  · subst hj
    refine ⟨fun _ => ?_, fun s hs other hOther => ?_, nodes_sync h⟩
    · have hOne := (hConsistent j).onePrimary (by omega)
      rw [ClusterDb.countPrimaryNodes, hMembers j]
      rw [hPrimary, hOne] at hCount
      exact hCount
    · rw [hMembers j] at hs ⊢
      obtain ⟨hs, hNe⟩ := RemoveNode.mem_members.mp hs
      obtain ⟨hOtherNe, p, hp, rfl⟩ := (hConsistent j).peers s hs other hOther
      refine ⟨hOtherNe, p, RemoveNode.mem_members.mpr ⟨hp, fun hSame => ?_⟩, rfl⟩
      exact hPeers s hs (hSame ▸ hOther)
  · have hNot : node.clusterId ≠ some j := fun hn => hj (Option.some.inj (hn.symm.trans hk))
    exact (hConsistent j).of_leaves hWritten (RemoveNode.leavesRoles hNode hNot)
      (RemoveNode.leavesPeers hNode hNot) fun n hn => mem_nodes_sync_of_ne h (hn ▸ hj)

theorem RemoveNode.consistent {body : RemoveNode} (hConsistent : Consistent db)
    (hDispensable : body.Dispensable db) (h : body.handler db = .ok db') : Consistent db' := by
  rcases RemoveNode.ok_cases h with rfl | ⟨node, hNode, hNodeId, hSkip, hRest⟩
  · exact hConsistent
  · rcases hRest with ⟨hNone, rfl⟩ | ⟨k, hk, hLeave⟩
    · intro j
      have hNot : node.clusterId ≠ some j := by rw [hNone]; simp
      exact (hConsistent j).of_leaves (RemoveNode.written db node)
        (RemoveNode.leavesRoles hNode hNot) (RemoveNode.leavesPeers hNode hNot) fun n _ => Iff.rfl
    · simp only [RemoveNode.leave] at hLeave
      split at hLeave
      · rw [← Except.ok.inj hLeave]
        exact RemoveNode.consistent_dissolved hConsistent hNode hk
      · rename_i hMany
        rcases hDispensable with hTrue | hNodes
        · rw [hSkip] at hTrue
          cases hTrue
        · obtain ⟨hLength, -⟩ := RemoveNode.counts hNode hk
          rcases hNodes node hNode hNodeId k hk with hFew | ⟨hPrimary, hPeers⟩
          · omega
          · exact RemoveNode.consistent_left hConsistent hNode hk hMany hPrimary hPeers hLeave

end EsosWebui.Cluster

namespace EsosWebui.Cluster

open Js

/-- The records of clusters that are set up: one primary, peers, and the rows of the members. -/
structure SetUp (db : ClusterDb) : Prop where
  onePrimary : ∀ k, db.listClusterMembers k ≠ [] → db.countPrimaryNodes k = 1
  peers : ∀ k, ∀ s ∈ db.listClusterMembers k,
    ∃ p ∈ db.listClusterMembers k, s.clusterPeer = some p.id ∧ p.id ≠ s.id
  nodes : ∀ k id role, (∃ n ∈ db.clusterNodes, n.clusterId = k ∧ n.sanId = id ∧ n.role = role) ↔
    ∃ s ∈ db.listClusterMembers k, s.id = id ∧ s.clusterRole = role

theorem SetUp.consistent {db : ClusterDb} (h : SetUp db) : Consistent db := by
  intro k
  refine ⟨fun hTwo => h.onePrimary k ?_, fun s hs peer hPeer => ?_, h.nodes k⟩
  · rintro hNil
    rw [hNil] at hTwo
    simp at hTwo
  · obtain ⟨p, hp, hIs, hNe⟩ := h.peers k s hs
    obtain rfl := Option.some.inj (hIs.symm.trans hPeer)
    exact ⟨hNe, p, hp, rfl⟩

theorem Request.consistent (r : Request) (db db' : ClusterDb) (hKeeps : r.Keeps db)
    (hStep : r.handler db = .ok db') (h : Consistent db) : Consistent db' := by
  cases r with
  | addNode body => exact AddNode.consistent h hKeeps hStep
  | promotePrimary body => exact PromotePrimary.consistent h hKeeps hStep
  | removeNode body => exact RemoveNode.consistent h hKeeps hStep

/-- The records stay consistent over all requests that give a cluster its first primary at the
latest with its second node, promote nobody new and remove nobody who is still referred to. -/
theorem consistent_of_run {db db' : ClusterDb} {requests : List Request} (hSetUp : SetUp db)
    (hRun : Run Request.handler Request.Keeps db requests db') : Consistent db' :=
  hRun.invariant Request.consistent hSetUp.consistent

private def cluster : Id := ⟨['c'], by simp⟩

private def first : Id := ⟨['1'], by simp⟩

private def second : Id := ⟨['2'], by simp⟩

/-- Two SANs and a cluster without nodes. -/
private def apart : ClusterDb := ⟨[cluster], [{ id := first }, { id := second }], [], by decide⟩

private theorem setUp_apart : SetUp apart where
  onePrimary := by
    intro k hk
    simp [ClusterDb.listClusterMembers, apart, San.isIn] at hk
  peers := by simp [ClusterDb.listClusterMembers, apart, San.isIn]
  nodes := by simp [ClusterDb.listClusterMembers, apart, San.isIn]

private def joinFirst : Request :=
  .addNode { clusterId := some cluster, sanId := some first, role := some .primary }

private def joinSecond : Request := .addNode { clusterId := some cluster, sanId := some second }

private def promoteSecond : Request :=
  .promotePrimary { clusterId := some cluster, nodeId := some second }

theorem consistent_two_nodes : ∃ db', Run Request.handler Request.Keeps apart
    [joinFirst, joinSecond] db' ∧ Consistent db' := by
  obtain ⟨db', hRun⟩ :
      ∃ db', Run Request.handler Request.Keeps apart [joinFirst, joinSecond] db' := by
    refine ⟨_, .cons (fun k _ => Or.inr (Or.inr rfl)) rfl (.cons (fun k hk => ?_) rfl (.nil _))⟩
    obtain rfl := Option.some.inj hk
    exact Or.inr (Or.inl (by decide))
  exact ⟨db', hRun, consistent_of_run setUp_apart hRun⟩

/-- After a promotion `cluster_nodes` still has the old roles. -/
theorem promotion_not_consistent : ¬ ∀ (db db' : ClusterDb) (requests : List Request), SetUp db →
    Run Request.handler (fun _ _ => True) db requests db' → Consistent db' := by
  intro h
  have hConsistent := h apart _ [joinFirst, joinSecond, promoteSecond] setUp_apart
    (.cons trivial rfl (.cons trivial rfl (.cons trivial rfl (.nil _)))) cluster
  have hRow := (hConsistent.nodes second (some .primary)).mpr (by decide)
  exact absurd hRow (by decide)

end EsosWebui.Cluster
