import EsosWebui.Raid.Erasures

/-! Whether the devices that metadata is removed from are unused, by the inventory that the request
was checked against. -/
namespace EsosWebui.Raid

open Js

/-- The inventory lists the device: not mounted, not used by LVM or SCST, in no array that runs and
not protected. -/
def ShowsUnused (inventory : MdInventory) (device : String) : Prop :=
  ∃ dev ∈ inventory.1, sanitizeMemberPath dev.path = .ok device ∧
    .mounted ∉ dev.usedBy ∧ .lvm ∉ dev.usedBy ∧ .scst ∉ dev.usedBy ∧
    dev.esosSystemProtected = false ∧
    ∀ arr ∈ inventory.2, ∀ m ∈ arr.members, m.path ≠ some dev.path

def Erasure.Safe (e : Erasure) : Prop :=
  ∃ inventory, e.checkedAgainst = some inventory ∧ ShowsUnused inventory e.device

/-- A command is sent before anything throws. -/
def MetadataCleanup.Sends [CaseMapping] (answers : CleaningAnswers) (members : List String)
    (cleanup : MetadataCleanup) : Prop :=
  answers.writeEnabled = true ∧ ∃ before member after, members = before ++ member :: after ∧
    (∀ i earlier, before[i]? = some earlier →
      ∃ commands, cleanup.sent (answers.partition i) earlier = .ok commands) ∧
    ∃ commands, cleanup.sent (answers.partition before.length) member = .ok commands ∧
      commands ≠ []

/-- The removal for a stopped array is not refused before its first command. -/
structure RunsForStopped (here : NodeCleaningAnswers) (body : CleaningBody) : Prop where
  named : isSet body.name = true
  confirmed : body.confirmation = some mdZeroMetadataConfirmation
  ready : here.ready = true
  writeEnabled : here.cleaning.writeEnabled = true
  first : ∃ member, body.members.head? = some member ∧
    ∃ device, sanitizeMemberPath member = .ok device

theorem ne_empty_of_sanitizeMemberPath {path device : String}
    (h : sanitizeMemberPath path = .ok device) : path ≠ "" := by
  rintro rfl
  have hRefused : (sanitizeMemberPath "").isOk = false := by decide +kernel
  rw [h] at hRefused
  cases hRefused

theorem showsUnused_of_cleanupMemberBlockers {needsSuperblock : Bool} {inventory : MdInventory}
    {member device : String} (hPath : sanitizeMemberPath member = .ok device)
    (h : cleanupMemberBlockers needsSuperblock inventory.1 inventory.2 member = []) :
    ShowsUnused inventory device := by
  unfold cleanupMemberBlockers at h
  split at h
  · cases h
  · rename_i dev hFound
    have hDev : dev.path = member := by simpa using List.find?_some hFound
    simp only [List.append_eq_nil_iff] at h
    obtain ⟨⟨⟨⟨⟨-, hMounted⟩, hLvm⟩, hScst⟩, hMember⟩, hProtected⟩ := h
    refine ⟨dev, List.mem_of_find?_eq_some hFound, hDev.symm ▸ hPath, ?_, ?_, ?_, ?_, ?_⟩
    · simpa using hMounted
    · simpa using hLvm
    · simpa using hScst
    · simpa using hProtected
    · intro arr hArr m hm hPathOf
      split at hMember
      · cases hMember
      · rename_i hNone
        have hNot := List.find?_eq_none.mp hNone arr hArr
        apply hNot
        refine List.any_eq_true.mpr ⟨m, hm, ?_⟩
        rw [hPathOf, hDev]
        have hSome := ne_empty_of_sanitizeMemberPath hPath
        simp [isSet, hSome]

variable {cleanup : MetadataCleanup} {sanId : String} {checkedAgainst : Option MdInventory}
  {body : CleaningBody} {members : List String} {e : Erasure} {site : MdSite}
  {answers : PartitionAnswers} {member : String}

section

variable [CaseMapping]

theorem exists_member_of_erased {answers : CleaningAnswers}
    (h : e ∈ (cleanup.eraseMembers sanId checkedAgainst answers members).log) :
    answers.writeEnabled = true ∧ e.sanId = sanId ∧ e.checkedAgainst = checkedAgainst ∧
      ∃ member ∈ members, sanitizeMemberPath member = .ok e.device := by
  unfold MetadataCleanup.eraseMembers at h
  obtain ⟨_, hWrite, hLoop⟩ := Traced.mem_log_quiet_bind.mp h
  obtain ⟨⟨member, i⟩, hMember, hSent⟩ := Traced.exists_of_mem_log_forM hLoop
  obtain ⟨device, hPath, hSent⟩ := Traced.mem_log_quiet_bind.mp hSent
  obtain ⟨commands, -, hSent⟩ := Traced.mem_log_quiet_bind.mp hSent
  obtain ⟨command, -, rfl⟩ := List.mem_map.mp hSent
  exact ⟨by simpa using throwIf_eq_ok.mp hWrite, rfl, rfl, member,
    List.fst_mem_of_mem_zipIdx hMember, hPath⟩

theorem validate_eq_nil {inventory : MdInventory}
    (h : cleanup.cleaner.validate members inventory.1 inventory.2 = [])
    (hMember : member ∈ members) :
    ∃ needsSuperblock,
      cleanupMemberBlockers needsSuperblock inventory.1 inventory.2 member = [] := by
  have hCleanup {needsSuperblock : Bool}
      (hNone : validateCleanupMembers needsSuperblock members inventory.1 inventory.2 = []) :
      cleanupMemberBlockers needsSuperblock inventory.1 inventory.2 member = [] := by
    unfold validateCleanupMembers at hNone
    split at hNone
    · cases hNone
    · exact List.flatMap_eq_nil_iff.mp hNone member hMember
  cases cleanup with
  | zero => exact ⟨true, hCleanup h⟩
  | wipe selection => exact ⟨false, hCleanup h⟩

theorem safe_of_eraseChecked {answers : NodeCleaningAnswers}
    (h : e ∈ (cleanup.eraseChecked sanId answers members).log) : e.Safe := by
  unfold MetadataCleanup.eraseChecked at h
  obtain ⟨_, -, h⟩ := Traced.mem_log_quiet_bind.mp h
  obtain ⟨inventory, -, h⟩ := Traced.mem_log_quiet_bind.mp h
  split at h
  · cases h
  · rename_i hNone
    obtain ⟨-, -, hChecked, member, hMember, hPath⟩ := exists_member_of_erased h
    obtain ⟨needsSuperblock, hBlockers⟩ := validate_eq_nil hNone hMember
    exact ⟨inventory, hChecked, showsUnused_of_cleanupMemberBlockers hPath hBlockers⟩

theorem exists_device_of_sent {commands : List String}
    (h : cleanup.sent answers member = .ok commands) :
    ∃ device, sanitizeMemberPath member = .ok device := by
  cases cleanup with
  | zero =>
    obtain ⟨device, hPath, -⟩ := bind_eq_ok.mp h
    exact ⟨device, hPath⟩
  | wipe selection =>
    obtain ⟨device, hPath, -⟩ := bind_eq_ok.mp h
    exact ⟨device, hPath⟩

theorem exists_erased_of_member_iff :
    (∃ e, e ∈ (cleanup.eraseMember sanId checkedAgainst answers member).log) ↔
      ∃ commands, cleanup.sent answers member = .ok commands ∧ commands ≠ [] := by
  unfold MetadataCleanup.eraseMember
  simp only [Traced.mem_log_quiet_bind, Traced.log_send, List.mem_map]
  constructor
  · rintro ⟨e, device, -, commands, hSent, command, hCommand, -⟩
    exact ⟨commands, hSent, List.ne_nil_of_mem hCommand⟩
  · rintro ⟨commands, hSent, hSome⟩
    obtain ⟨device, hPath⟩ := exists_device_of_sent hSent
    obtain ⟨command, hCommand⟩ := List.exists_mem_of_ne_nil commands hSome
    exact ⟨_, device, hPath, commands, hSent, command, hCommand, rfl⟩

theorem result_eraseMember_ok_iff :
    (∃ u, (cleanup.eraseMember sanId checkedAgainst answers member).result = .ok u) ↔
      ∃ commands, cleanup.sent answers member = .ok commands := by
  unfold MetadataCleanup.eraseMember
  simp only [Traced.result_bind, Traced.result_quiet]
  constructor
  · rintro ⟨u, h⟩
    obtain ⟨device, -, h⟩ := bind_eq_ok.mp h
    obtain ⟨commands, hSent, -⟩ := bind_eq_ok.mp h
    exact ⟨commands, hSent⟩
  · rintro ⟨commands, hSent⟩
    obtain ⟨device, hPath⟩ := exists_device_of_sent hSent
    exact ⟨(), bind_eq_ok.mpr ⟨device, hPath, bind_eq_ok.mpr ⟨commands, hSent, rfl⟩⟩⟩

/-- Something is removed exactly if a command is sent before anything throws. -/
theorem exists_erased_iff {answers : CleaningAnswers} :
    (∃ e, e ∈ (cleanup.eraseMembers sanId checkedAgainst answers members).log) ↔
      cleanup.Sends answers members := by
  unfold MetadataCleanup.eraseMembers MetadataCleanup.Sends
  simp only [Traced.mem_log_quiet_bind, throwIf_eq_ok, Bool.not_eq_true', Bool.not_eq_false]
  constructor
  · rintro ⟨e, _, hWrite, hLoop⟩
    refine ⟨hWrite, ?_⟩
    obtain ⟨before, ⟨member, i⟩, after, hSplit, hBefore, hHere⟩ :=
      Traced.exists_log_forM_iff.mp ⟨e, hLoop⟩
    obtain ⟨first, rest, rfl, rfl, hRest⟩ := List.zipIdx_eq_append_iff.mp hSplit
    obtain ⟨head, tail, rfl, hHead, -⟩ := List.zipIdx_eq_cons_iff.mp hRest.symm
    obtain ⟨rfl, rfl⟩ := Prod.mk.inj hHead
    refine ⟨first, _, tail, rfl, ?_, ?_⟩
    · intro j earlier hEarlier
      apply result_eraseMember_ok_iff.mp
      exact hBefore (earlier, j) (List.mem_zipIdx_iff_getElem?.mpr hEarlier)
    · simpa using exists_erased_of_member_iff.mp hHere
  · rintro ⟨hWrite, before, member, after, rfl, hBefore, hHere⟩
    have hSplit : (before ++ member :: after).zipIdx =
        before.zipIdx ++ (member, before.length) :: after.zipIdx (before.length + 1) := by
      rw [List.zipIdx_append, List.zipIdx_cons, Nat.zero_add]
    obtain ⟨e, hLoop⟩ := Traced.exists_log_forM_iff.mpr
      ⟨before.zipIdx, (member, before.length), after.zipIdx (before.length + 1), hSplit,
        fun earlier hEarlier => result_eraseMember_ok_iff.mpr
          (hBefore earlier.2 earlier.1 (List.mem_zipIdx_iff_getElem?.mp hEarlier)),
        exists_erased_of_member_iff.mpr hHere⟩
    exact ⟨e, (), hWrite, hLoop⟩

theorem unchecked_of_stopped (h : e ∈ (handleStoppedMdZeroSuperblock site sanId body).log) :
    e.checkedAgainst = none := by
  unfold handleStoppedMdZeroSuperblock at h
  obtain ⟨_, -, h⟩ := Traced.mem_log_quiet_bind.mp h
  obtain ⟨_, -, h⟩ := Traced.mem_log_quiet_bind.mp h
  obtain ⟨_, -, h⟩ := Traced.mem_log_quiet_bind.mp h
  obtain ⟨_, -, h⟩ := Traced.mem_log_quiet_bind.mp h
  rw [Traced.log_bind_pure] at h
  exact (exists_member_of_erased h).2.2.1

/-- Superblocks are removed exactly if the first member's is; whatever throws at a later member
comes too late. -/
theorem sends_zero_iff {answers : CleaningAnswers} :
    MetadataCleanup.zero.Sends answers members ↔
      answers.writeEnabled = true ∧ ∃ member, members.head? = some member ∧
        ∃ device, sanitizeMemberPath member = .ok device := by
  constructor
  · rintro ⟨hWrite, before, member, after, rfl, hBefore, commands, hSent, -⟩
    refine ⟨hWrite, ?_⟩
    cases before with
    | nil => exact ⟨member, rfl, exists_device_of_sent hSent⟩
    | cons first before =>
      obtain ⟨commands, hFirst⟩ := hBefore 0 first rfl
      exact ⟨first, rfl, exists_device_of_sent hFirst⟩
  · rintro ⟨hWrite, member, hHead, device, hPath⟩
    obtain ⟨rest, rfl⟩ := List.head?_eq_some_iff.mp hHead
    have hSent : MetadataCleanup.zero.sent (answers.partition 0) member =
        .ok [zeroSuperblockCommand device false] := by
      simp [MetadataCleanup.sent, zeroedMember, hPath]
    exact ⟨hWrite, [], member, rest, rfl, by simp, _, hSent, List.cons_ne_nil _ _⟩

/-- Something is removed on a stopped array exactly if the request is not refused before. -/
theorem exists_erased_of_stopped_iff :
    (∃ e, e ∈ (handleStoppedMdZeroSuperblock site sanId body).log) ↔
      RunsForStopped site.here body := by
  unfold handleStoppedMdZeroSuperblock
  simp only [Traced.mem_log_quiet_bind, Traced.log_bind_pure, checked, mapError_eq_ok,
    throwIf_eq_ok, Bool.not_eq_true', Bool.not_eq_false, not_not, ne_eq]
  constructor
  · rintro ⟨e, _, hNamed, _, -, _, hConfirmed, _, hReady, hErased⟩
    obtain ⟨hWrite, hFirst⟩ := sends_zero_iff.mp (exists_erased_iff.mp ⟨e, hErased⟩)
    exact ⟨hNamed, hConfirmed, hReady, hWrite, hFirst⟩
  · intro hRuns
    obtain ⟨e, hErased⟩ := exists_erased_iff.mpr
      (sends_zero_iff.mpr ⟨hRuns.writeEnabled, hRuns.first⟩)
    have hMembers : body.members ≠ [] := by
      obtain ⟨member, hHead, -⟩ := hRuns.first
      intro hNone
      rw [hNone] at hHead
      cases hHead
    exact ⟨e, (), hRuns.named, (), hMembers, (), hRuns.confirmed, (), hRuns.ready, hErased⟩

end

variable {route : CleaningRoute}

section

variable [Host]

theorem safe_of_runCluster {clusterExecution : ClusterExecutionBody}
    (h : e ∈ (route.runCluster site body clusterExecution).log) : e.Safe := by
  unfold CleaningRoute.runCluster at h
  obtain ⟨plan, -, h⟩ := Traced.mem_log_quiet_bind.mp h
  obtain ⟨_, -, h⟩ := Traced.mem_log_quiet_bind.mp h
  rcases Traced.mem_log_bind.mp h with hRan | ⟨_, -, hQuiet⟩
  · rw [Traced.log_send] at hRan
    obtain ⟨⟨ref, position⟩, -, hErased⟩ := List.mem_flatMap.mp hRan
    exact safe_of_eraseChecked hErased
  · cases hQuiet

theorem safe_of_runLocal {localRecovery : MdLocalRecoveryRequest}
    (h : e ∈ (route.runLocal site sanId body localRecovery).log) : e.Safe := by
  unfold CleaningRoute.runLocal at h
  obtain ⟨_, -, h⟩ := Traced.mem_log_quiet_bind.mp h
  obtain ⟨_, -, h⟩ := Traced.mem_log_quiet_bind.mp h
  exact safe_of_eraseChecked h

theorem safe_of_runStandalone (h : e ∈ (route.runStandalone site sanId body).log) : e.Safe := by
  unfold CleaningRoute.runStandalone at h
  obtain ⟨_, -, h⟩ := Traced.mem_log_quiet_bind.mp h
  exact safe_of_eraseChecked h

/-- The two routes that check what they are given remove the metadata of unused devices only, on
whatever nodes they run. -/
theorem safe_of_handler (h : e ∈ (route.handler site sanId body).log) : e.Safe := by
  unfold CleaningRoute.handler at h
  obtain ⟨_, -, h⟩ := Traced.mem_log_quiet_bind.mp h
  obtain ⟨_, -, h⟩ := Traced.mem_log_quiet_bind.mp h
  obtain ⟨_, -, h⟩ := Traced.mem_log_quiet_bind.mp h
  obtain ⟨clusterCtx, -, h⟩ := Traced.mem_log_quiet_bind.mp h
  match clusterCtx with
  | some (.local localRecovery) => exact safe_of_runLocal (Traced.log_bind_pure ▸ h)
  | some (.cluster clusterExecution) => exact safe_of_runCluster (Traced.log_bind_pure ▸ h)
  | none => exact safe_of_runStandalone (Traced.log_bind_pure ▸ h)

/-- Metadata is removed from unused devices only, whichever route is taken, exactly if the request
is not one for a stopped array that runs. -/
theorem erased_devices_unused_iff (site : MdSite) (sanId : String) (request : CleaningRequest) :
    (∀ e ∈ (request.handle site sanId).log, e.Safe) ↔
      ∀ body, request = .stoppedZeroSuperblock body → ¬ RunsForStopped site.here body := by
  constructor
  · rintro hSafe body rfl hRuns
    obtain ⟨e, hErased⟩ := exists_erased_of_stopped_iff.mpr hRuns
    obtain ⟨inventory, hChecked, -⟩ := hSafe e hErased
    rw [unchecked_of_stopped hErased] at hChecked
    cases hChecked
  · intro hNever e hErased
    cases request with
    | cleaning route body => exact safe_of_handler hErased
    | stoppedZeroSuperblock body =>
      exact absurd (exists_erased_of_stopped_iff.mp ⟨e, hErased⟩) (hNever body rfl)

end

def systemPartitionNode : NodeCleaningAnswers where
  overview := .ok
    ([{ name := "sda2", path := "/dev/sda2", type := .part, usedBy := [.mounted],
        esosSystemProtected := true }], [])
  cleaning :=
    { partition := fun _ =>
        { step := fun _ => { exitCode := 0, readCode := some 0 }
          baseline := { mdMetadataRemoved := true }
          diagnostics := { mdMetadataRemoved := true } } }

def systemPartitionSite : MdSite where
  san := none
  cluster := { nodes := [], unique := List.nodup_nil }
  here := systemPartitionNode
  onNode _ := systemPartitionNode

def zeroSystemPartition : CleaningBody where
  name := some "md0"
  members := ["/dev/sda2"]
  confirmation := some mdZeroMetadataConfirmation

/-- The route for stopped arrays removes the superblocks of a mounted partition of the system. -/
theorem system_partition_erased :
    ¬ ∀ (site : MdSite) (sanId : String) (request : CleaningRequest),
      ∀ e ∈ (@CleaningRequest.handle anyHost site sanId request).log, e.Safe := by
  intro hSafe
  let e : Erasure :=
    { sanId := "a", device := "/dev/sda2"
      command := zeroSuperblockCommand "/dev/sda2" false, checkedAgainst := none }
  have hErased : e ∈ (@CleaningRequest.handle anyHost systemPartitionSite "a"
      (.stoppedZeroSuperblock zeroSystemPartition)).log := by decide +kernel
  obtain ⟨inventory, hChecked, -⟩ :=
    hSafe systemPartitionSite "a" (.stoppedZeroSuperblock zeroSystemPartition) e hErased
  cases hChecked

end EsosWebui.Raid
