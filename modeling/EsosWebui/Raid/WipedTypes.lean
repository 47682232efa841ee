import EsosWebui.Raid.AdvancedCleanup
import EsosWebui.Raid.Erasures

/-! The RAID types that a wipe of a cluster erases on the members of its nodes, beside those that
are there. -/
namespace EsosWebui.Raid

open Js

section

variable [CaseMapping]

def isMemberType (type : String) : Bool := CaseMapping.toLowerCase type == memberType

def commandTypes (types : List String) (examineDetected : Bool) : List String :=
  (if (typesToWipe types).any isMemberType then [memberType] else typesToWipe types) ++
    if needsForceZero types examineDetected then [examineType] else []

def eraseCommands (devPath : String) (types : List String) : List String :=
  let wiped := types.filter (· != examineType)
  (if wiped = [] then [] else [listCommand devPath wiped]) ++
    if types.contains examineType then [zeroSuperblockCommand devPath true] else []

def spelled (type : String) : String := if isMemberType type then memberType else type

def SameTypes (xs ys : List String) : Prop :=
  (∀ x ∈ xs, spelled x ∈ ys.map spelled) ∧ ∀ y ∈ ys, spelled y ∈ xs.map spelled

instance (xs ys : List String) : Decidable (SameTypes xs ys) :=
  inferInstanceAs (Decidable (_ ∧ _))

/-- No other type stands beside that of a member, for which alone the commands would be. -/
def Plain (types : List String) : Prop :=
  (typesToWipe types).any isMemberType = true → ∀ t ∈ typesToWipe types, isMemberType t = true

instance (types : List String) : Decidable (Plain types) :=
  inferInstanceAs (Decidable (_ → _))

def memberOnly (types : List String) : List String :=
  memberType :: if types.contains examineType then [examineType] else []

/-- The RAID types among those that something is erased for, with the superblock if flagged. -/
def withSuperblock (types : List String) (examineDetected : Bool) : List String :=
  if types = [] then []
  else types.filter MetadataProbe.isMdType ++ if examineDetected then [examineType] else []

/-- What a request says is to be erased of a device on which some types are found: those that are
listed, else the ones that are found. -/
def WipeSelection.saidTypes (selection : WipeSelection) (found : List String) (path : String) :
    List String :=
  let listed := selection.presetTypes (memberPath path) path
  withSuperblock (if listed = [] then found else listed)
    (selection.examineDetected (memberPath path) path)

def WipeSelection.askedTypes (selection : WipeSelection) (answers : PartitionAnswers)
    (member : String) : List String :=
  let types := selection.remainingTypes answers (memberPath member) member
  if types = [] then []
  else commandTypes types (selection.examineDetected (memberPath member) member)

end

/-- A member of a node when a run gets to it. -/
structure MemberWipe where
  sanId : String
  member : String
  /-- The devices of the request that the member is there for. -/
  sources : List String
  answers : PartitionAnswers

def MemberWipe.present [CaseMapping] (wipe : MemberWipe) : List String :=
  wipe.answers.baseline.remainingSignatureTypes.filter MetadataProbe.isMdType

section

variable [CaseMapping] (selection : WipeSelection) (wipe : MemberWipe)

def MemberWipe.said (path : String) : List String :=
  selection.saidTypes wipe.answers.baseline.remainingSignatureTypes path

/-- Erased are the RAID types that are found on the member, or those that are requested for a
device that it is there for. -/
def MemberWipe.ErasesOwn : Prop :=
  let asked := selection.askedTypes wipe.answers wipe.member
  SameTypes asked wipe.present ∨
    ∃ source ∈ wipe.sources, SameTypes asked (wipe.said selection source)

instance : Decidable (wipe.ErasesOwn selection) := inferInstanceAs (Decidable (_ ∨ _))

/-- The request says nothing under the path of the member. -/
def MemberWipe.Silent : Prop :=
  selection.presetTypes (memberPath wipe.member) wipe.member = [] ∧
    selection.examineDetected (memberPath wipe.member) wipe.member = false

/-- What is recorded under the path of the member fits it: nothing is, the path is that of a device
that the member is there for, or the types are those found on it or requested for such a device.
Of types that are not plain only `linux_raid_member` and the superblock count. -/
def MemberWipe.PathFits : Prop :=
  let own := wipe.said selection wipe.member
  if Plain own then
    wipe.Silent selection ∨ wipe.member ∈ wipe.sources ∨ SameTypes own wipe.present ∨
      ∃ source ∈ wipe.sources, SameTypes own (wipe.said selection source)
  else
    SameTypes (memberOnly own) wipe.present ∨
      ∃ source ∈ wipe.sources, SameTypes (memberOnly own) (wipe.said selection source)

end

def sourcesOf (primarySanId : String) (mappings : List ClusterDiskMapping) (members : List String)
    (sanId member : String) : List String :=
  if sanId = primarySanId then [member]
  else members.filter fun source => mappedTarget mappings source sanId == some member

section

variable [CaseMapping] (selection : WipeSelection)

/-- The loop of `wipeMdSignatures` at one member. -/
def askMember (sanId : String) (sources : String → List String) (answers : PartitionAnswers)
    (member : String) : Traced MemberWipe HttpError Unit := do
  let _ ← Traced.quiet (sanitizeMemberPath member)
  Traced.send [{ sanId, member, sources := sources member, answers }]
  let _ ← Traced.quiet (wipedMember selection answers member)

def askMembers (sanId : String) (sources : String → List String) (answers : CleaningAnswers)
    (members : List String) : Traced MemberWipe HttpError Unit := do
  Traced.quiet (throwIf (!answers.writeEnabled) writeDisabled)
  forM members.zipIdx fun (member, i) =>
    askMember selection sanId sources (answers.partition i) member

def nodeWipes (sources : String → String → List String) (answers : NodeCleaningAnswers)
    (node : ClusterMdNodeResult) : List MemberWipe :=
  if !answers.ready then []
  else
    match answers.overview with
    | .error _ => []
    | .ok inventory =>
      if validateWipeSignatureMembers node.members inventory.1 inventory.2 = [] then
        (askMembers selection node.sanId (sources node.sanId) answers.cleaning node.members).log
      else []

end

/-- The members that `runClusterWipeMdSignatures` gets to, over all nodes that it runs on. -/
def clusterWipes [Host] (cluster : Cluster) (req : WipeMdSignaturesRequest)
    (mdadmExamine : List (String × Bool)) (confirmation : Option String)
    (onNode : Nat → NodeCleaningAnswers) : List MemberWipe :=
  match buildWipeMdClusterExecutionPlan cluster req with
  | .error _ => []
  | .ok plan =>
    let primarySanId := req.clusterExecution.primarySanId
    let selection := req.selection mdadmExamine
    if (confirmCleanup req.clusterExecution confirmation plan).isOk then
      (executeCleanup (wipeCleaner selection) primarySanId plan onNode).ran.zipIdx.flatMap
        fun (ref, position) =>
          nodeWipes selection (sourcesOf primarySanId plan.preflight.mappings req.members)
            (onNode position) (nodeAt plan.nodeResults ref)
    else []

theorem eraseCommands_append {devPath : String} {wiped : List String} {zeroed : Bool}
    (h : ∀ t ∈ wiped, t ≠ examineType) :
    eraseCommands devPath (wiped ++ if zeroed then [examineType] else []) =
      (if wiped = [] then [] else [listCommand devPath wiped]) ++
        if zeroed then [zeroSuperblockCommand devPath true] else [] := by
  have hWiped : (wiped ++ if zeroed then [examineType] else []).filter (· != examineType) =
      wiped := by
    rw [List.filter_append, List.filter_eq_self.mpr fun t ht => bne_iff_ne.mpr (h t ht)]
    cases zeroed <;> simp
  have hNot : examineType ∉ wiped := fun hMem => h _ hMem rfl
  have hZeroed : (wiped ++ if zeroed then [examineType] else []).contains examineType =
      zeroed := by
    cases zeroed <;> simp [hNot]
  unfold eraseCommands
  rw [hWiped, hZeroed]

theorem memberWipeCommand_eq (devPath : String) :
    memberWipeCommand devPath = listCommand devPath [memberType] :=
  congrArg (· ++ toString devPath) (by decide)

theorem mem_commandTypes_flag {types : List String} {t : String} :
    t ∈ (if needsForceZero types false then [examineType] else []) ↔
      t = examineType ∧ examineType ∈ types := by
  unfold needsForceZero
  by_cases h : examineType ∈ types <;> simp [h]

section

variable [CaseMapping]

theorem steps_eq_eraseCommands (devPath : String) (types : List String) (examineDetected : Bool) :
    wipeStep devPath types ++ zeroStep devPath types examineDetected =
      eraseCommands devPath (commandTypes types examineDetected) := by
  have hTypes : ∀ t ∈ typesToWipe types, t ≠ examineType := fun t ht => (mem_typesToWipe.mp ht).2.1
  unfold wipeStep commandTypes
  by_cases hMember : (typesToWipe types).any isMemberType = true
  · have hOther : ∀ t ∈ [memberType], t ≠ examineType := by decide
    rw [if_pos hMember, eraseCommands_append hOther]
    have hStep : (typesToWipe types).any
      (fun type => CaseMapping.toLowerCase type == memberType) = true := hMember
    rw [if_pos hStep, memberWipeCommand_eq]
    rfl
  · rw [if_neg hMember, eraseCommands_append hTypes]
    have hStep : ¬ (typesToWipe types).any
      (fun type => CaseMapping.toLowerCase type == memberType) = true := hMember
    rw [if_neg hStep]
    cases typesToWipe types with
    | nil => rfl
    | cons type rest => rfl

theorem isMdType_iff {t : String} :
    MetadataProbe.isMdType t = true ↔
      t = examineType ∨ t ≠ examineType ∧ isRaidRelatedSignature t = true := by
  unfold MetadataProbe.isMdType
  rw [Bool.or_eq_true, beq_iff_eq]
  by_cases hExamine : t = examineType
  · exact iff_of_true (Or.inr hExamine) (Or.inl hExamine)
  · exact ⟨fun h => Or.inr ⟨hExamine, h.resolve_right hExamine⟩,
      fun h => Or.inl (h.resolve_left hExamine).2⟩

theorem commandTypes_flagged (types : List String) (examineDetected : Bool) :
    commandTypes types examineDetected =
      commandTypes (types.filter MetadataProbe.isMdType ++
        if examineDetected then [examineType] else []) false := by
  have hWiped : typesToWipe (types.filter MetadataProbe.isMdType ++
        if examineDetected then [examineType] else []) = typesToWipe types := by
    have hFlag : (if examineDetected then [examineType] else []).filter
        (fun type => type != examineType && isRaidRelatedSignature type) = [] := by
      cases examineDetected <;> simp
    unfold typesToWipe
    rw [List.filter_append, List.filter_filter, hFlag, List.append_nil]
    congr 1
    refine List.filter_congr fun t _ => ?_
    rw [Bool.and_eq_left_iff_imp]
    intro h
    obtain ⟨hNot, hRaid⟩ := Bool.and_eq_true_iff.mp h
    exact isMdType_iff.mpr (Or.inr ⟨bne_iff_ne.mp hNot, hRaid⟩)
  have hSuperblock : needsForceZero types examineDetected =
      needsForceZero (types.filter MetadataProbe.isMdType ++
        if examineDetected then [examineType] else []) false := by
    unfold needsForceZero
    rw [Bool.eq_iff_iff]
    cases examineDetected <;> simp [isMdType_iff]
  unfold commandTypes
  rw [hWiped, hSuperblock]

theorem SameTypes.refl (xs : List String) : SameTypes xs xs :=
  ⟨fun _ hx => List.mem_map_of_mem hx, fun _ hy => List.mem_map_of_mem hy⟩

theorem SameTypes.symm {xs ys : List String} (h : SameTypes xs ys) : SameTypes ys xs := ⟨h.2, h.1⟩

theorem spelled_mem {xs ys : List String} (h : ∀ x ∈ xs, spelled x ∈ ys.map spelled) {t : String}
    (ht : t ∈ xs.map spelled) : t ∈ ys.map spelled := by
  obtain ⟨x, hx, rfl⟩ := List.mem_map.mp ht
  exact h x hx

theorem SameTypes.trans {xs ys zs : List String} (h : SameTypes xs ys) (h' : SameTypes ys zs) :
    SameTypes xs zs :=
  ⟨fun x hx => spelled_mem h'.1 (h.1 x hx), fun z hz => spelled_mem h.2 (h'.2 z hz)⟩

theorem sameTypes_congr_left {xs ys zs : List String} (h : SameTypes xs ys) :
    SameTypes xs zs ↔ SameTypes ys zs := ⟨h.symm.trans, h.trans⟩

theorem spelled_of_member {t : String} (h : isMemberType t) :
    spelled t = memberType := if_pos h

theorem spelled_memberType : spelled memberType = memberType := by
  unfold spelled
  split <;> rfl

variable {types : List String}

theorem mem_typesToWipe_or (hMd : ∀ t ∈ types, MetadataProbe.isMdType t = true) {t : String}
    (ht : t ∈ types) : t = examineType ∨ t ∈ typesToWipe types := by
  rcases isMdType_iff.mp (hMd t ht) with hExamine | ⟨hNot, hRaid⟩
  · exact Or.inl hExamine
  · exact Or.inr (mem_typesToWipe.mpr ⟨ht, hNot, hRaid⟩)

theorem commandTypes_of_plain (hMd : ∀ t ∈ types, MetadataProbe.isMdType t = true)
    (hPlain : Plain types) : SameTypes (commandTypes types false) types := by
  have hSame {x : String} {xs : List String} (h : x ∈ xs) : spelled x ∈ xs.map spelled :=
    List.mem_map_of_mem h
  unfold commandTypes
  split
  · rename_i hAny
    obtain ⟨member, hMem, hMember⟩ := List.any_eq_true.mp hAny
    constructor
    · intro x hx
      rcases List.mem_append.mp hx with hx | hx
      · rw [List.mem_singleton.mp hx, spelled_memberType, ← spelled_of_member hMember]
        exact hSame (mem_typesToWipe.mp hMem).1
      · obtain ⟨rfl, hListed⟩ := mem_commandTypes_flag.mp hx
        exact hSame hListed
    · intro y hy
      rcases mem_typesToWipe_or hMd hy with rfl | hWiped
      · exact hSame (List.mem_append_right _ (mem_commandTypes_flag.mpr ⟨rfl, hy⟩))
      · rw [(spelled_of_member (hPlain hAny y hWiped)).trans spelled_memberType.symm]
        exact hSame (List.mem_append_left _ List.mem_cons_self)
  · constructor
    · intro x hx
      rcases List.mem_append.mp hx with hx | hx
      · exact hSame (mem_typesToWipe.mp hx).1
      · obtain ⟨rfl, hListed⟩ := mem_commandTypes_flag.mp hx
        exact hSame hListed
    · intro y hy
      rcases mem_typesToWipe_or hMd hy with rfl | hWiped
      · exact hSame (List.mem_append_right _ (mem_commandTypes_flag.mpr ⟨rfl, hy⟩))
      · exact hSame (List.mem_append_left _ hWiped)

theorem commandTypes_of_not_plain (hMixed : ¬ Plain types) :
    commandTypes types false = memberOnly types := by
  obtain ⟨hAny, -⟩ := Classical.not_imp.mp hMixed
  unfold commandTypes memberOnly needsForceZero
  rw [if_pos hAny, Bool.or_false]
  rfl

end

section

variable [CaseMapping] {selection : WipeSelection} {wipe : MemberWipe}

theorem isMdType_of_mem_withSuperblock {types : List String} {examineDetected : Bool} {t : String}
    (h : t ∈ withSuperblock types examineDetected) : MetadataProbe.isMdType t := by
  unfold withSuperblock at h
  split at h
  · cases h
  · rcases List.mem_append.mp h with h | h
    · exact (List.mem_filter.mp h).2
    · split at h
      · rw [List.mem_singleton.mp h]
        exact isMdType_iff.mpr (Or.inl rfl)
      · cases h

variable (selection wipe) in
theorem askedTypes_eq :
    selection.askedTypes wipe.answers wipe.member =
      commandTypes (wipe.said selection wipe.member) false := by
  unfold WipeSelection.askedTypes MemberWipe.said WipeSelection.saidTypes
    WipeSelection.remainingTypes
  dsimp only
  generalize (if selection.presetTypes (memberPath wipe.member) wipe.member = [] then
    wipe.answers.baseline.remainingSignatureTypes
    else selection.presetTypes (memberPath wipe.member) wipe.member) = types
  unfold withSuperblock
  split
  · rfl
  · exact commandTypes_flagged _ _

theorem said_of_silent (h : wipe.Silent selection) :
    wipe.said selection wipe.member = wipe.present := by
  unfold MemberWipe.said WipeSelection.saidTypes MemberWipe.present withSuperblock
  dsimp only
  rw [if_pos h.1, h.2]
  split
  · rename_i hNone
    rw [hNone]
    rfl
  · exact List.append_nil _

variable (selection wipe) in
theorem erasesOwn_iff : wipe.ErasesOwn selection ↔ wipe.PathFits selection := by
  unfold MemberWipe.ErasesOwn MemberWipe.PathFits
  dsimp only
  rw [askedTypes_eq]
  have hMd : ∀ t ∈ wipe.said selection wipe.member, MetadataProbe.isMdType t = true :=
    fun t ht => isMdType_of_mem_withSuperblock ht
  split
  · rename_i hPlain
    simp only [sameTypes_congr_left (commandTypes_of_plain hMd hPlain)]
    constructor
    · exact fun h => Or.inr (Or.inr h)
    · rintro (hSilent | hSource | h)
      · left
        rw [said_of_silent hSilent]
        exact SameTypes.refl _
      · exact Or.inr ⟨_, hSource, SameTypes.refl _⟩
      · exact h
  · rename_i hMixed
    rw [commandTypes_of_not_plain hMixed]

end

section

variable [CaseMapping] (selection : WipeSelection)

def MemberWipe.erasures (checkedAgainst : Option MdInventory) (wipe : MemberWipe) : List Erasure :=
  let device := memberPath wipe.member
  (eraseCommands device (selection.askedTypes wipe.answers wipe.member)).map fun command =>
    { sanId := wipe.sanId, device, command := cleanupStepCommand device command, checkedAgainst }

theorem wipedMember_commands {answers : PartitionAnswers} {member devPath : String}
    (hPath : sanitizeMemberPath member = .ok devPath) :
    (wipedMember selection answers member).toOption.getD [] =
      (eraseCommands devPath (selection.askedTypes answers member)).map
        (cleanupStepCommand devPath) := by
  have hDevice : memberPath member = devPath := by
    unfold memberPath
    rw [hPath]
    rfl
  unfold wipedMember WipeSelection.askedTypes
  rw [hPath, hDevice]
  show (ite _ _ _ : Except HttpError (List String)).toOption.getD [] = _
  by_cases hNone : selection.remainingTypes answers devPath member = []
  · dsimp only
    rw [if_pos hNone, if_pos hNone]
    rfl
  · dsimp only
    rw [if_neg hNone, if_neg hNone, buildAdvancedCleanupCommands_eq, steps_eq_eraseCommands]
    dsimp only
    split
    · rename_i hEmpty
      rw [hEmpty]
      rfl
    · rfl

variable {selection} in
theorem eraseMember_askMember (sanId : String) (checkedAgainst : Option MdInventory)
    (sources : String → List String) (answers : PartitionAnswers) (member : String) :
    ((MetadataCleanup.wipe selection).eraseMember sanId checkedAgainst answers member).log =
        (askMember selection sanId sources answers member).log.flatMap
          (MemberWipe.erasures selection checkedAgainst) ∧
      ((MetadataCleanup.wipe selection).eraseMember sanId checkedAgainst answers member).result =
        (askMember selection sanId sources answers member).result := by
  unfold MetadataCleanup.eraseMember askMember
  cases hPath : sanitizeMemberPath member with
  | error e => exact ⟨rfl, rfl⟩
  | ok device =>
    have hDevice : memberPath member = device := by
      unfold memberPath
      rw [hPath]
      rfl
    have hCommands := @wipedMember_commands _ selection answers _ _ hPath
    have hErasures : MemberWipe.erasures selection checkedAgainst
        { sanId, member, sources := sources member, answers } =
        ((wipedMember selection answers member).toOption.getD []).map fun command =>
          { sanId, device, command, checkedAgainst } := by
      rw [hCommands, List.map_map, MemberWipe.erasures]
      simp only [hDevice]
      rfl
    simp only [Traced.quiet_ok_bind, Traced.log_send_bind, Traced.result_send_bind,
      MetadataCleanup.sent]
    cases hSent : wipedMember selection answers member with
    | error e =>
      rw [hSent] at hErasures
      simp only [Traced.quiet_error_bind, Traced.log_quiet, List.append_nil,
        List.flatMap_singleton, hErasures]
      exact ⟨rfl, rfl⟩
    | ok commands =>
      rw [hSent] at hErasures
      simp only [Traced.quiet_ok_bind, Traced.log_pure, List.append_nil,
        List.flatMap_singleton, hErasures]
      exact ⟨rfl, rfl⟩

variable {selection} in
theorem log_eraseMembers (sanId : String) (checkedAgainst : Option MdInventory)
    (sources : String → List String) (answers : CleaningAnswers) (members : List String) :
    ((MetadataCleanup.wipe selection).eraseMembers sanId checkedAgainst answers members).log =
      (askMembers selection sanId sources answers members).log.flatMap
        (MemberWipe.erasures selection checkedAgainst) := by
  unfold MetadataCleanup.eraseMembers askMembers
  cases hThrow : throwIf (!answers.writeEnabled) writeDisabled with
  | error e => rfl
  | ok _ =>
    simp only [Traced.quiet_ok_bind]
    exact Traced.log_forM_flatMap
      (fun entry => (eraseMember_askMember sanId checkedAgainst sources _ entry.1).1)
      (fun entry => (eraseMember_askMember sanId checkedAgainst sources _ entry.1).2)

theorem sent_nodeWipes (sources : String → String → List String) (answers : NodeCleaningAnswers)
    (node : ClusterMdNodeResult) :
    ∃ checkedAgainst,
      ((MetadataCleanup.wipe selection).eraseChecked node.sanId answers node.members).log =
        (nodeWipes selection sources answers node).flatMap
          (MemberWipe.erasures selection checkedAgainst) := by
  unfold MetadataCleanup.eraseChecked nodeWipes
  cases hReady : answers.ready with
  | false => exact ⟨none, rfl⟩
  | true =>
    cases hOverview : answers.overview with
    | error e => exact ⟨none, rfl⟩
    | ok inventory =>
      refine ⟨some inventory, ?_⟩
      have hPassed (error : NodeError) : throwIf (!true) error = .ok () := rfl
      simp only [hPassed, Traced.quiet_ok_bind, MetadataCleanup.cleaner, wipeCleaner]
      split
      · rename_i hBlocked
        simp [hBlocked]
      · rename_i hNone
        rw [if_pos hNone]
        exact log_eraseMembers _ _ _ _ _

def Erasure.sent (e : Erasure) : String × String × String := (e.sanId, e.device, e.command)

theorem map_sent_erasures (checkedAgainst : Option MdInventory) (wipes : List MemberWipe) :
    (wipes.flatMap (MemberWipe.erasures selection checkedAgainst)).map Erasure.sent =
      wipes.flatMap fun wipe => (wipe.erasures selection none).map Erasure.sent := by
  rw [List.map_flatMap]
  refine List.flatMap_congr fun wipe _ => ?_
  simp [MemberWipe.erasures, Erasure.sent]

end

/-- What a confirmed run sends to its nodes are the commands for the members that it gets to. -/
theorem sent_clusterWipes [Host] {cluster : Cluster} {req : WipeMdSignaturesRequest}
    {mdadmExamine : List (String × Bool)} {confirmation : Option String}
    {onNode : Nat → NodeCleaningAnswers} {plan : ClusterMdPlan (Option ClusterMdRecoveryMode)}
    (hPlan : buildWipeMdClusterExecutionPlan cluster req = .ok plan)
    (hConfirmed : confirmCleanup req.clusterExecution confirmation plan = .ok ()) :
    (CleaningRoute.ranErasures (.wipe (req.selection mdadmExamine)) onNode plan.nodeResults
        (executeCleanup (wipeCleaner (req.selection mdadmExamine))
          req.clusterExecution.primarySanId plan onNode).ran).map Erasure.sent =
      (clusterWipes cluster req mdadmExamine confirmation onNode).flatMap fun wipe =>
        (wipe.erasures (req.selection mdadmExamine) none).map Erasure.sent := by
  unfold clusterWipes CleaningRoute.ranErasures
  rw [hPlan]
  dsimp only
  have hOk : (Except.ok () : Except HttpError Unit).isOk = true := rfl
  rw [hConfirmed, if_pos hOk, List.map_flatMap, List.flatMap_assoc]
  refine List.flatMap_congr fun entry _ => ?_
  obtain ⟨checkedAgainst, hLog⟩ := sent_nodeWipes (req.selection mdadmExamine)
    (sourcesOf req.clusterExecution.primarySanId plan.preflight.mappings req.members)
    (onNode entry.2) (nodeAt plan.nodeResults entry.1)
  rw [hLog, map_sent_erasures]

/-- A run erases the right types on every member that it gets to exactly if what the request says
under the path of each of them fits it. -/
theorem wipe_erases_own_types_iff [Host] (cluster : Cluster) (req : WipeMdSignaturesRequest)
    (mdadmExamine : List (String × Bool)) (confirmation : Option String)
    (onNode : Nat → NodeCleaningAnswers) :
    (∀ wipe ∈ clusterWipes cluster req mdadmExamine confirmation onNode,
      wipe.ErasesOwn (req.selection mdadmExamine)) ↔
    ∀ wipe ∈ clusterWipes cluster req mdadmExamine confirmation onNode,
      wipe.PathFits (req.selection mdadmExamine) := by
  simp only [erasesOwn_iff]

/-- Two nodes that name the same two partitions the other way round. -/
def swappedCluster : Cluster where
  nodes :=
    [("a", "w1", "w2"), ("b", "w2", "w1")].map fun (sanId, first, second) =>
      { sanId, label := sanId, tools := some { mdadm := true }
        blockDevices :=
          [{ name := "sda1", path := "/dev/sda1", type := .part, wwn := some first
             hasMdSuperblock := true },
           { name := "sdb1", path := "/dev/sdb1", type := .part, wwn := some second
             hasMdSuperblock := true }] }
  unique := by decide

/-- One partition still has its signature, the other one its superblock. -/
def swappedRequest : WipeMdSignaturesRequest where
  members := ["/dev/sda1", "/dev/sdb1"]
  remainingSignatureTypes :=
    [("/dev/sda1", ["linux_raid_member"]), ("/dev/sdb1", ["mdadm_examine"])]
  clusterExecution := { primarySanId := "a" }

/-- The members of both nodes are in the same order. -/
def swappedAnswers (_position : Nat) : NodeCleaningAnswers where
  overview :=
    .ok ([{ name := "sda1", path := "/dev/sda1", type := .part, hasMdSuperblock := true },
      { name := "sdb1", path := "/dev/sdb1", type := .part, hasMdSuperblock := true }], [])
  cleaning :=
    { partition := fun i =>
        { step := fun _ => { exitCode := 0, readCode := some 0 }
          baseline :=
            { mdMetadataRemoved := false
              remainingSignatureTypes :=
                if i = 0 then ["linux_raid_member"] else ["mdadm_examine"] }
          diagnostics := { mdMetadataRemoved := true } } }

theorem sent_clusterWipes_swapped :
    ∃ plan, @buildWipeMdClusterExecutionPlan anyHost swappedCluster swappedRequest = .ok plan ∧
      (@CleaningRoute.ranErasures anyHost (.wipe (swappedRequest.selection [])) swappedAnswers
        plan.nodeResults (executeCleanup (@wipeCleaner anyHost.toCaseMapping
          (swappedRequest.selection [])) "a" plan swappedAnswers).ran).map Erasure.sent =
      (@clusterWipes anyHost swappedCluster swappedRequest [] (some mdAdvancedCleanupConfirmation)
        swappedAnswers).flatMap fun wipe => (@MemberWipe.erasures anyHost.toCaseMapping
          (swappedRequest.selection []) none wipe).map Erasure.sent := by
  have hRun : (@buildWipeMdClusterExecutionPlan anyHost swappedCluster swappedRequest >>=
      @confirmCleanup anyHost swappedRequest.clusterExecution
        (some mdAdvancedCleanupConfirmation)).isOk := by decide +kernel
  refine exists_ok_of_isOk (by decide +kernel) fun plan hPlan =>
    @sent_clusterWipes anyHost _ _ _ _ _ _ hPlan ?_
  rw [hPlan] at hRun
  obtain ⟨_, hConfirmed⟩ := exists_of_isOk hRun
  exact hConfirmed

/-- On the second node the types of one partition are erased on the other one. -/
theorem swapped_types_erased :
    ¬ ∀ wipe ∈ @clusterWipes anyHost swappedCluster swappedRequest []
        (some mdAdvancedCleanupConfirmation) swappedAnswers,
      @MemberWipe.ErasesOwn anyHost.toCaseMapping (swappedRequest.selection []) wipe := by
  decide +kernel

end EsosWebui.Raid
