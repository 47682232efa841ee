import EsosWebui.Raid.Symmetry

/-! When all nodes of a cluster come to the same verdict about the symmetry of an array, each
comparing the others with itself. -/
namespace EsosWebui.Raid

open Js

/-- Two values that are the same where both are known. -/
def Agree {α : Type} (a b : Option α) : Prop := ∀ x ∈ a, ∀ y ∈ b, x = y

/-- Nothing that is known of two arrays is compared as different. -/
structure Comparable (s t : ActiveMdArraySnapshot) : Prop where
  raidLevel : Agree s.raidLevel t.raidLevel
  raidDevices : Agree s.raidDevices t.raidDevices
  activeDevices : Agree s.activeDevices t.activeDevices
  memberCount : Agree s.memberCount t.memberCount
  health : healthBucket s.state = healthBucket t.state
  size : sizeWithinTolerance s.sizeBytes t.sizeBytes = true
  failedDevices : s.failedDevices.getD 0 = t.failedDevices.getD 0

theorem bothDiffer_toList_eq_nil_iff {α : Type} [BEq α] [LawfulBEq α] {a b : Option α} :
    (bothDiffer a b).toList = [] ↔ Agree a b := by
  cases a with
  | none => simp [bothDiffer, Agree]
  | some x =>
    cases b with
    | none => simp [bothDiffer, Agree]
    | some y => simp [bothDiffer, Agree]

theorem compareSnapshots_eq_nil_iff {name label : String} {s t : ActiveMdArraySnapshot} :
    compareSnapshots name s label t = [] ↔ Comparable s t := by
  have hNil : ∀ (c : Prop) [Decidable c] (issue : LocalSymmetricStructuralIssue),
      (if c then [issue] else []) = [] ↔ ¬ c := by
    intro c _ issue
    by_cases hc : c <;> simp [hc]
  have hSize : ∀ issue : LocalSymmetricStructuralIssue,
      (if sizeWithinTolerance s.sizeBytes t.sizeBytes = true then [] else [issue]) = [] ↔
        sizeWithinTolerance s.sizeBytes t.sizeBytes = true := by
    intro issue
    by_cases hc : sizeWithinTolerance s.sizeBytes t.sizeBytes = true <;> simp [hc]
  simp only [compareSnapshots, List.append_eq_nil_iff, List.map_eq_nil_iff,
    bothDiffer_toList_eq_nil_iff, hNil, hSize, not_not]
  constructor
  · rintro ⟨⟨⟨⟨⟨⟨hLevel, hDevices⟩, hActive⟩, hMembers⟩, hState⟩, hSize⟩, hFailed⟩
    exact ⟨hLevel, hDevices, hActive, hMembers, hState, hSize, hFailed⟩
  · rintro ⟨hLevel, hDevices, hActive, hMembers, hState, hSize, hFailed⟩
    exact ⟨⟨⟨⟨⟨⟨hLevel, hDevices⟩, hActive⟩, hMembers⟩, hState⟩, hSize⟩, hFailed⟩

theorem Agree.refl {α : Type} (a : Option α) : Agree a a := by
  intro x hx y hy
  exact Option.some.inj ((Option.mem_def.mp hx).symm.trans (Option.mem_def.mp hy))

theorem Comparable.refl (s : ActiveMdArraySnapshot) : Comparable s s := by
  refine ⟨.refl _, .refl _, .refl _, .refl _, rfl, ?_, rfl⟩
  cases s.sizeBytes <;> simp [sizeWithinTolerance]

def localArray (name : String) (node : NodeSnapshot) : Option ActiveMdArraySnapshot :=
  node.activeMdArrays.find? fun a => a.name == name && isActiveSnapshot a

def peerArray (name : String) (node : NodeSnapshot) : Option ActiveMdArraySnapshot :=
  (node.activeMdArrays.find? (·.name == name)).filter isActiveSnapshot

def activeArrayNames (node : NodeSnapshot) : List String :=
  (node.activeMdArrays.filter isActiveSnapshot).map (·.name)

/-- The array is reported as not symmetric from the point of view of the current node. -/
def FindsProblem (name : String) (current : NodeSnapshot) (peers : List NodeSnapshot) : Prop :=
  ∃ result ∈ findLocalSymmetricStructuralIssues current peers,
    result.arrayName = name ∧ result.structurallySymmetric = false

/-- The nodes of a cluster, each with an identifier of its own. -/
structure ReportedNodes where
  nodes : List NodeSnapshot
  distinct : (nodes.map (·.nodeSanId)).Nodup

def ReportedNodes.others (cluster : ReportedNodes) (node : NodeSnapshot) : List NodeSnapshot :=
  cluster.nodes.filter (·.nodeSanId != node.nodeSanId)

/-- One node is the current one, and the others are its peers in some order. -/
structure ReportedNodes.IsView (cluster : ReportedNodes) (current : NodeSnapshot)
    (peers : List NodeSnapshot) : Prop where
  current_mem : current ∈ cluster.nodes
  peers_perm : peers.Perm (cluster.others current)

structure SameArray (s t : ActiveMdArraySnapshot) : Prop where
  raidLevel : s.raidLevel = t.raidLevel
  memberCount : s.memberCount = t.memberCount
  raidDevices : s.raidDevices = t.raidDevices
  sizeKnown : s.sizeBytes.isSome = t.sizeBytes.isSome
  size : sizeWithinTolerance s.sizeBytes t.sizeBytes = true

variable (cluster : ReportedNodes) (name : String)

structure IsUniform : Prop where
  active : ∀ node ∈ cluster.nodes, (localArray name node).isSome = true
  same : ∀ node ∈ cluster.nodes, ∀ other ∈ cluster.nodes, ∀ s ∈ localArray name node,
    ∀ t ∈ localArray name other, SameArray s t

/-- All views of a cluster give the same verdict, and it is good only for a uniform array. -/
structure VerdictIsShared : Prop where
  same : ∀ current peers current' peers', cluster.IsView current peers →
    cluster.IsView current' peers' →
      (FindsProblem name current peers ↔ FindsProblem name current' peers')
  uniform : ∀ current peers, cluster.IsView current peers → ¬ FindsProblem name current peers →
    IsUniform cluster name

/-- A node with the array has a peer on which it is not active or not comparable. For a node
without it there are peers that have it, and none of these is comparable with all of them. -/
def SeesDifference (node : NodeSnapshot) : Prop :=
  match localArray name node with
  | some s => ∃ peer ∈ cluster.others node, ∀ t ∈ peerArray name peer, ¬ Comparable s t
  | none =>
    (∃ peer ∈ cluster.others node, (peerArray name peer).isSome = true) ∧
      ∀ peer ∈ cluster.others node, ∀ s ∈ peerArray name peer,
        ∃ other ∈ cluster.others node, ∃ t ∈ peerArray name other, ¬ Comparable s t

structure IsSymmetric : Prop extends IsUniform cluster name where
  comparable : ∀ node ∈ cluster.nodes, ∀ peer ∈ cluster.others node, ∀ s ∈ localArray name node,
    ∃ t ∈ peerArray name peer, Comparable s t

variable {cluster : ReportedNodes} {name : String} {current : NodeSnapshot}
  {peers : List NodeSnapshot}

theorem uniqueBy_eq_nil_iff {α κ : Type} [BEq κ] [LawfulBEq κ] {key : α → κ} {values : List α} :
    uniqueBy key values = [] ↔ values = [] := by
  constructor
  · intro h
    by_contra hNe
    obtain ⟨a, rest, rfl⟩ := List.exists_cons_of_ne_nil hNe
    have hKey : key a ∈ unique ((a :: rest).map key) :=
      mem_unique.mpr (List.mem_map_of_mem List.mem_cons_self)
    have hFound : ((a :: rest).reverse.find? fun value => key value == key a) = none :=
      List.filterMap_eq_nil_iff.mp h (key a) hKey
    have hNot := List.find?_eq_none.mp hFound a (by simp)
    exact hNot (beq_self_eq_true _)
  · rintro rfl
    rfl

def viewIssues (name : String) (current : NodeSnapshot) (peers : List NodeSnapshot) :
    List LocalSymmetricStructuralIssue :=
  ((peers.filter fun peer => (localArray name current).isSome &&
      (peerArray name peer).isNone).map fun peer =>
    { arrayName := name, kind := .missingOnPeer, severity := .critical
      code := "raid.symmetry.missing_on_peer"
      params := [("arrayName", .text name), ("peerLabel", .text peer.nodeLabel)] }) ++
  compareSnapshotsForArray name
    (((localArray name current).toList.map fun arr => (current.nodeLabel, arr)) ++
      peers.filterMap fun peer => (peerArray name peer).map fun arr => (peer.nodeLabel, arr))

theorem ReportedNodes.IsView.filter_peers (h : cluster.IsView current peers) :
    (peers.filter fun peer => peer.nodeSanId != current.nodeSanId) = peers := by
  apply List.filter_eq_self.mpr
  intro peer hPeer
  exact (List.mem_filter.mp (h.peers_perm.subset hPeer)).2

theorem findsProblem_iff_viewIssues (h : cluster.IsView current peers)
    (hName : ∃ node ∈ cluster.nodes, name ∈ activeArrayNames node) :
    FindsProblem name current peers ↔ viewIssues name current peers ≠ [] := by
  have hSymmetric : (localArraySymmetry current peers name).structurallySymmetric = false ↔
      viewIssues name current peers ≠ [] := by
    show decide ((uniqueBy symmetryIssueDedupKey _).length = 0) = false ↔ _
    rw [decide_eq_false_iff_not, List.length_eq_zero_iff, uniqueBy_eq_nil_iff, h.filter_peers]
    rfl
  have hListed : name ∈ unique ((current :: peers).flatMap activeArrayNames) := by
    obtain ⟨node, hNode, hActive⟩ := hName
    rw [mem_unique, List.mem_flatMap]
    by_cases hSame : node.nodeSanId = current.nodeSanId
    · obtain rfl : node = current :=
        List.inj_on_of_nodup_map cluster.distinct hNode h.current_mem hSame
      exact ⟨node, List.mem_cons_self, hActive⟩
    · have hOther : node ∈ cluster.others current :=
        List.mem_filter.mpr ⟨hNode, by simpa using hSame⟩
      exact ⟨node, List.mem_cons_of_mem _ (h.peers_perm.symm.subset hOther), hActive⟩
  rw [← hSymmetric]
  constructor
  · rintro ⟨result, hResult, rfl, hProblem⟩
    obtain ⟨arrayName, -, rfl⟩ := List.mem_map.mp hResult
    exact hProblem
  · intro hProblem
    exact ⟨_, List.mem_map_of_mem hListed, rfl, hProblem⟩

theorem isActiveSnapshot_of_localArray {node : NodeSnapshot} {s : ActiveMdArraySnapshot}
    (h : s ∈ localArray name node) : isActiveSnapshot s := by
  have hFound := List.find?_some (Option.mem_def.mp h)
  simp only [Bool.and_eq_true] at hFound
  exact hFound.2

theorem isActiveSnapshot_of_peerArray {node : NodeSnapshot} {s : ActiveMdArraySnapshot}
    (h : s ∈ peerArray name node) : isActiveSnapshot s :=
  (Option.filter_eq_some_iff.mp h).2

theorem compareSnapshotsForArray_eq_nil_iff {first : String × ActiveMdArraySnapshot}
    {rest : List (String × ActiveMdArraySnapshot)}
    (hActive : ∀ node ∈ first :: rest, isActiveSnapshot node.2 = true) :
    compareSnapshotsForArray name (first :: rest) = [] ↔
      ∀ node ∈ rest, Comparable first.2 node.2 := by
  have hAll : ((first :: rest).filter fun node => isActiveSnapshot node.2) = first :: rest :=
    List.filter_eq_self.mpr hActive
  rw [compareSnapshotsForArray, hAll]
  simp [compareSnapshots_eq_nil_iff]

def peerArrays (name : String) (peers : List NodeSnapshot) :
    List (String × ActiveMdArraySnapshot) :=
  peers.filterMap fun peer => (peerArray name peer).map fun arr => (peer.nodeLabel, arr)

theorem mem_peerArrays {entry : String × ActiveMdArraySnapshot} :
    entry ∈ peerArrays name peers ↔
      ∃ peer ∈ peers, peer.nodeLabel = entry.1 ∧ entry.2 ∈ peerArray name peer := by
  rw [peerArrays, List.mem_filterMap]
  refine exists_congr fun peer => and_congr_right fun _ => ?_
  rw [Option.map_eq_some_iff]
  constructor
  · rintro ⟨t, ht, rfl⟩
    exact ⟨rfl, ht⟩
  · rintro ⟨hLabel, ht⟩
    exact ⟨entry.2, ht, by rw [hLabel]⟩

theorem isActiveSnapshot_of_mem_peerArrays {entry : String × ActiveMdArraySnapshot}
    (h : entry ∈ peerArrays name peers) : isActiveSnapshot entry.2 := by
  obtain ⟨peer, -, -, hArray⟩ := mem_peerArrays.mp h
  exact isActiveSnapshot_of_peerArray hArray

theorem viewIssues_eq_nil_of_some {s : ActiveMdArraySnapshot}
    (hLocal : localArray name current = some s) :
    viewIssues name current peers = [] ↔
      ∀ peer ∈ peers, ∃ t ∈ peerArray name peer, Comparable s t := by
  have hActive : ∀ node ∈ (current.nodeLabel, s) :: peerArrays name peers,
      isActiveSnapshot node.2 = true := by
    intro node hNode
    rcases List.mem_cons.mp hNode with rfl | hNode
    · exact isActiveSnapshot_of_localArray (Option.mem_def.mpr hLocal)
    · exact isActiveSnapshot_of_mem_peerArrays hNode
  have hCompared := @compareSnapshotsForArray_eq_nil_iff name _ _ hActive
  rw [viewIssues, List.append_eq_nil_iff, List.map_eq_nil_iff, List.filter_eq_nil_iff, hLocal]
  show _ ∧ compareSnapshotsForArray name ((current.nodeLabel, s) :: peerArrays name peers) = [] ↔ _
  rw [hCompared]
  constructor
  · rintro ⟨hFound, hAll⟩ peer hPeer
    have hSome : peerArray name peer ≠ none := by simpa using hFound peer hPeer
    obtain ⟨t, ht⟩ := Option.ne_none_iff_exists'.mp hSome
    exact ⟨t, ht, hAll (peer.nodeLabel, t) (mem_peerArrays.mpr ⟨peer, hPeer, rfl, ht⟩)⟩
  · intro hAll
    refine ⟨fun peer hPeer => ?_, fun node hNode => ?_⟩
    · obtain ⟨t, ht, -⟩ := hAll peer hPeer
      simp [Option.mem_def.mp ht]
    · obtain ⟨peer, hPeer, -, hArray⟩ := mem_peerArrays.mp hNode
      obtain ⟨t, ht, hComparable⟩ := hAll peer hPeer
      obtain rfl := Option.mem_unique ht hArray
      exact hComparable

theorem viewIssues_eq_nil_of_none (hLocal : localArray name current = none) :
    viewIssues name current peers = [] ↔
      ∀ first rest, peerArrays name peers = first :: rest →
        ∀ node ∈ rest, Comparable first.2 node.2 := by
  rw [viewIssues, List.append_eq_nil_iff, List.map_eq_nil_iff, List.filter_eq_nil_iff, hLocal]
  show _ ∧ compareSnapshotsForArray name (peerArrays name peers) = [] ↔ _
  rw [and_iff_right (by simp)]
  have hActive := fun node => @isActiveSnapshot_of_mem_peerArrays name peers node
  generalize peerArrays name peers = arrays at hActive ⊢
  cases arrays with
  | nil => simp [compareSnapshotsForArray]
  | cons first rest =>
    rw [compareSnapshotsForArray_eq_nil_iff hActive]
    constructor
    · rintro hAll _ _ hCons
      obtain ⟨rfl, rfl⟩ := List.cons.inj hCons
      exact hAll
    · intro hAll
      exact hAll first rest rfl

theorem others_isView (hNode : current ∈ cluster.nodes) :
    cluster.IsView current (cluster.others current) := ⟨hNode, List.Perm.refl _⟩

theorem forall_findsProblem_iff (hNode : current ∈ cluster.nodes)
    (hName : ∃ node ∈ cluster.nodes, name ∈ activeArrayNames node) :
    (∀ peers, cluster.IsView current peers → FindsProblem name current peers) ↔
      SeesDifference cluster name current := by
  cases hLocal : localArray name current with
  | some s =>
    rw [SeesDifference, hLocal]
    constructor
    · intro h
      have hIssues := (findsProblem_iff_viewIssues (others_isView hNode) hName).mp
        (h _ (others_isView hNode))
      rw [Ne, viewIssues_eq_nil_of_some hLocal] at hIssues
      push Not at hIssues
      exact hIssues
    · rintro ⟨peer, hPeer, hDiffers⟩ peers hView
      rw [findsProblem_iff_viewIssues hView hName, Ne, viewIssues_eq_nil_of_some hLocal]
      intro hAll
      obtain ⟨t, ht, hComparable⟩ := hAll peer (hView.peers_perm.symm.subset hPeer)
      exact hDiffers t ht hComparable
  | none =>
    rw [SeesDifference, hLocal]
    constructor
    · intro h
      have hProblem : ∀ peers, cluster.IsView current peers →
          ∃ first rest, peerArrays name peers = first :: rest ∧
            ∃ node ∈ rest, ¬ Comparable first.2 node.2 := by
        intro peers hView
        have hIssues := (findsProblem_iff_viewIssues hView hName).mp (h peers hView)
        rw [Ne, viewIssues_eq_nil_of_none hLocal] at hIssues
        push Not at hIssues
        exact hIssues
      constructor
      · obtain ⟨first, rest, hArrays, -⟩ := hProblem _ (others_isView hNode)
        obtain ⟨peer, hPeer, -, hArray⟩ := mem_peerArrays.mp (hArrays ▸ List.mem_cons_self)
        exact ⟨peer, hPeer, Option.isSome_iff_exists.mpr ⟨first.2, hArray⟩⟩
      · intro peer hPeer s hs
        -- The peer comes first in one of the orders.
        obtain ⟨first, rest, hArrays, node, hMem, hDiffers⟩ :=
          hProblem (peer :: (cluster.others current).erase peer)
            ⟨hNode, (List.perm_cons_erase hPeer).symm⟩
        rw [peerArrays, List.filterMap_cons, Option.mem_def.mp hs] at hArrays
        obtain ⟨rfl, rfl⟩ := List.cons.inj hArrays
        obtain ⟨other, hOther, -, ht⟩ := mem_peerArrays.mp hMem
        exact ⟨other, List.mem_of_mem_erase hOther, node.2, ht, hDiffers⟩
    · rintro ⟨⟨peer, hPeer, hSome⟩, hDiffers⟩ peers hView
      rw [findsProblem_iff_viewIssues hView hName, Ne, viewIssues_eq_nil_of_none hLocal]
      intro hAll
      obtain ⟨s, hs⟩ := Option.isSome_iff_exists.mp hSome
      have hListed : (peer.nodeLabel, s) ∈ peerArrays name peers :=
        mem_peerArrays.mpr ⟨peer, hView.peers_perm.symm.subset hPeer, rfl, hs⟩
      obtain ⟨first, rest, hArrays⟩ := List.exists_cons_of_ne_nil (List.ne_nil_of_mem hListed)
      obtain ⟨peer₁, hPeer₁, -, hFirst⟩ := mem_peerArrays.mp (hArrays ▸ List.mem_cons_self)
      obtain ⟨other, hOther, t, ht, hNot⟩ :=
        hDiffers peer₁ (hView.peers_perm.subset hPeer₁) first.2 hFirst
      have hEntry : (other.nodeLabel, t) ∈ first :: rest :=
        hArrays ▸ mem_peerArrays.mpr ⟨other, hView.peers_perm.symm.subset hOther, rfl, ht⟩
      rcases List.mem_cons.mp hEntry with rfl | hRest
      · exact hNot (Comparable.refl _)
      · exact hNot (hAll first rest hArrays _ hRest)

theorem not_findsProblem_iff {s : ActiveMdArraySnapshot} (hView : cluster.IsView current peers)
    (hName : ∃ node ∈ cluster.nodes, name ∈ activeArrayNames node)
    (hLocal : localArray name current = some s) :
    ¬ FindsProblem name current peers ↔
      ∀ peer ∈ cluster.others current, ∃ t ∈ peerArray name peer, Comparable s t := by
  rw [findsProblem_iff_viewIssues hView hName, not_not, viewIssues_eq_nil_of_some hLocal]
  exact forall_congr' fun peer => imp_congr_left hView.peers_perm.mem_iff

/-- The verdict on an array is the same wherever it is computed, and good for uniform arrays only,
exactly when every node sees a difference or the array is symmetric. -/
theorem verdict_is_shared_iff (cluster : ReportedNodes) (name : String)
    (hName : ∃ node ∈ cluster.nodes, name ∈ activeArrayNames node) :
    VerdictIsShared cluster name ↔
      (∀ node ∈ cluster.nodes, SeesDifference cluster name node) ∨ IsSymmetric cluster name := by
  constructor
  · rintro ⟨hSame, hUniform⟩
    by_cases hAny : ∃ current peers, cluster.IsView current peers ∧
        ¬ FindsProblem name current peers
    · obtain ⟨current, peers, hView, hNone⟩ := hAny
      have hSymmetric := hUniform current peers hView hNone
      refine Or.inr ⟨hSymmetric, fun node hNode peer hPeer s hs => ?_⟩
      have hOthers := others_isView hNode
      have hNot : ¬ FindsProblem name node (cluster.others node) := fun hProblem =>
        hNone ((hSame _ _ _ _ hView hOthers).mpr hProblem)
      exact (not_findsProblem_iff hOthers hName hs).mp hNot peer hPeer
    · left
      intro node hNode
      refine (forall_findsProblem_iff hNode hName).mp fun peers hView => ?_
      by_contra hNone
      exact hAny ⟨node, peers, hView, hNone⟩
  · rintro (hDiffers | hSymmetric)
    · have hAll : ∀ current peers, cluster.IsView current peers →
          FindsProblem name current peers := fun current peers hView =>
        (forall_findsProblem_iff hView.current_mem hName).mpr
          (hDiffers current hView.current_mem) peers hView
      exact ⟨fun _ _ _ _ hView hView' => iff_of_true (hAll _ _ hView) (hAll _ _ hView'),
        fun _ _ hView hNone => absurd (hAll _ _ hView) hNone⟩
    · have hNone : ∀ current peers, cluster.IsView current peers →
          ¬ FindsProblem name current peers := by
        intro current peers hView
        obtain ⟨s, hs⟩ := Option.isSome_iff_exists.mp (hSymmetric.active current hView.current_mem)
        exact (not_findsProblem_iff hView hName hs).mpr fun peer hPeer =>
          hSymmetric.comparable current hView.current_mem peer hPeer s hs
      exact ⟨fun _ _ _ _ hView hView' => iff_of_false (hNone _ _ hView) (hNone _ _ hView'),
        fun _ _ _ _ => hSymmetric.toIsUniform⟩

/-- A healthy mirror of two devices. -/
def mirror (name : String) : ActiveMdArraySnapshot :=
  { name
    path := s!"/dev/{name}"
    state := .clean
    raidLevel := some "raid1"
    raidDevices := some 2
    activeDevices := some 2
    failedDevices := some 0
    sizeBytes := some 1073741824
    memberCount := some 2 }

def mirroredNodes : ReportedNodes :=
  ⟨[⟨"a", "A", [mirror "md0"]⟩, ⟨"b", "B", [mirror "md0"]⟩], by decide⟩

theorem mirroredNodes_verdict_is_shared : VerdictIsShared mirroredNodes "md0" := by
  have hLocal : ∀ node ∈ mirroredNodes.nodes, localArray "md0" node = some (mirror "md0") := by
    decide
  have hPeer : ∀ node ∈ mirroredNodes.nodes, peerArray "md0" node = some (mirror "md0") := by
    decide
  refine (verdict_is_shared_iff mirroredNodes "md0" (by decide)).mpr (Or.inr ⟨⟨?_, ?_⟩, ?_⟩)
  · intro node hNode
    rw [hLocal node hNode]
    rfl
  · intro node hNode other hOther s hs t ht
    obtain rfl := Option.some.inj ((hLocal node hNode).symm.trans hs)
    obtain rfl := Option.some.inj ((hLocal other hOther).symm.trans ht)
    exact ⟨rfl, rfl, rfl, rfl, by decide⟩
  · intro node hNode peer hMem s hs
    obtain rfl := Option.some.inj ((hLocal node hNode).symm.trans hs)
    exact ⟨_, hPeer peer (List.mem_of_mem_filter hMem), Comparable.refl _⟩

def oneSidedNodes : ReportedNodes := ⟨[⟨"a", "A", [mirror "md0"]⟩, ⟨"b", "B", []⟩], by decide⟩

/-- The node without the array sees nothing to compare. -/
theorem oneSidedNodes_verdict_not_shared : ¬ VerdictIsShared oneSidedNodes "md0" := by
  intro h
  have hViewA : oneSidedNodes.IsView ⟨"a", "A", [mirror "md0"]⟩ [⟨"b", "B", []⟩] :=
    ⟨by decide, by decide⟩
  have hViewB : oneSidedNodes.IsView ⟨"b", "B", []⟩ [⟨"a", "A", [mirror "md0"]⟩] :=
    ⟨by decide, by decide⟩
  have hSame := h.same _ _ _ _ hViewA hViewB
  revert hSame
  unfold FindsProblem
  decide +kernel

end EsosWebui.Raid
