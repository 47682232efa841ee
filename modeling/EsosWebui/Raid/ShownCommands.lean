import EsosWebui.Raid.CleanupRuns
import EsosWebui.Raid.MdActions

/-! The commands that a plan shows for a node, and those that are run there. -/
namespace EsosWebui.Raid

open Js

/-- The commands of a loop that ends at the first element that throws. -/
def issuedUntil {α : Type} (commands : α → Except HttpError (List String)) : List α → List String
  | [] => []
  | a :: rest =>
    match commands a with
    | .ok issued => issued ++ issuedUntil commands rest
    | .error _ => []

def cleanupStepCommand (devPath cmd : String) : String :=
  if includes cmd "mdadm --zero-superblock" then
    zeroSuperblockCommand devPath (includes cmd "--force")
  else cmd

def zeroedMember (member : String) : Except HttpError (List String) := do
  let devPath ← sanitizeMemberPath member
  return [zeroSuperblockCommand devPath false]

def wipedMember [CaseMapping] (selection : WipeSelection) (answers : PartitionAnswers)
    (member : String) : Except HttpError (List String) := do
  let devPath ← sanitizeMemberPath member
  let remainingTypes := selection.remainingTypes answers devPath member
  if remainingTypes = [] then return []
  else
    let commands ← buildAdvancedCleanupCommands devPath remainingTypes
      (selection.examineDetected devPath member)
    return commands.map (cleanupStepCommand devPath)

inductive ClusterMdRequest where
  | stop (req : StopMdPlanRequest)
  | assemble (req : AssembleMdArrayRequest) (recoveryMode : Option ClusterMdRecoveryMode)
  | zero (req : ZeroMdSuperblocksRequest)
  | wipe (req : WipeMdSignaturesRequest) (mdadmExamine : List (String × Bool))

namespace ClusterMdRequest

def nodeResults [Host] (cluster : Cluster) :
    ClusterMdRequest → Except HttpError (List ClusterMdNodeResult)
  | stop req => (buildStopMdClusterExecutionPlan cluster req).map (·.nodeResults)
  | assemble req recoveryMode =>
    (buildAssembleMdClusterExecutionPlan cluster req recoveryMode).map (·.nodeResults)
  | zero req => (buildZeroMdClusterExecutionPlan cluster req).map (·.nodeResults)
  | wipe req _ => (buildWipeMdClusterExecutionPlan cluster req).map (·.nodeResults)

/-- The commands that change something on a node, as the actions build them; the answers are those
of the node's members, by their position. -/
def issued [CaseMapping] (answers : Nat → PartitionAnswers) (result : ClusterMdNodeResult) :
    ClusterMdRequest → List String
  | stop req =>
    ((normalizeMdArrayName req.arrayName >>= stopCommand).toOption).toList
  | assemble req _ => ((assembleCommand req.name req.targetName result.members).toOption).toList
  | zero _ => issuedUntil zeroedMember result.members
  | wipe req mdadmExamine =>
    issuedUntil (fun (member, i) => wipedMember (req.selection mdadmExamine) (answers i) member)
      result.members.zipIdx

end ClusterMdRequest

theorem runCleanupStep_eq (answers : PartitionAnswers) (devPath cmd : String) :
    runCleanupStep answers devPath cmd =
      stepResult ((answers.step (cleanupStepCommand devPath cmd)).readCode.getD 1)
        (answers.step (cleanupStepCommand devPath cmd)).stdout := by
  unfold runCleanupStep cleanupStepCommand
  split <;> rfl

/-- A text shows commands, one a line or separated by `; ` in a line. -/
inductive ShownAs : List Text → Text → Prop where
  | none : ShownAs [] []
  | one (command : Text) : ShownAs [command] command
  | more {commands : List Text} {text : Text} (command separator : Text)
      (hSeparator : separator = ['\n'] ∨ separator = [';', ' '])
      (hRest : commands ≠ []) (h : ShownAs commands text) :
      ShownAs (command :: commands) (command ++ separator ++ text)

/-- The command that is shown for a node is the sequence of those that are run there. -/
def ClusterMdRequest.RunsAsShown [CaseMapping] (answers : Nat → PartitionAnswers)
    (result : ClusterMdNodeResult) (request : ClusterMdRequest) : Prop :=
  ∃ text, result.command = some text ∧
    ShownAs ((request.issued answers result).map String.toList) text.toList

/-- A stop finds the array at the path of its name, which is written in lower case; the members of
a removal of superblocks are paths as they are put into a command. -/
def ClusterMdRequest.NamesPaths [CaseMapping] (cluster : Cluster)
    (node : ClusterStorageNodeInventory) : ClusterMdRequest → Prop
  | stop req =>
    let name := trimString req.arrayName
    isValidMdArrayName name = true ∧
      ∀ arr, findActiveArray node.mdArrays name none = some arr → arr.path = s!"/dev/{name}"
  | assemble _ _ => True
  | zero req => ∀ source ∈ cluster.nodes, source.sanId = req.clusterExecution.primarySanId →
      ∀ member ∈ (cleanupPreflight zeroCleanup req.clusterExecution req.payload).membersOn
        source node, isLowerDevicePath member = true
  | wipe _ _ => False

theorem shownAs_nil {text : Text} (h : ShownAs [] text) : text = [] := by
  cases h
  rfl

variable {command text : Text}

theorem shownAs_singleton : ShownAs [command] text ↔ text = command := by
  constructor
  · intro h
    cases h with
    | one => rfl
    | more _ _ _ hRest => exact absurd rfl hRest
  · rintro rfl
    exact .one text

variable {commands : List Text}

theorem prefix_of_shownAs (h : ShownAs (command :: commands) text) : command <+: text := by
  cases h with
  | one => exact List.prefix_rfl
  | more _ separator _ _ h => exact ⟨separator ++ _, (List.append_assoc _ _ _).symm⟩

theorem shownAs_of_newline (h : ShownAs (command :: commands) (command ++ '\n' :: text)) :
    ShownAs commands text := by
  generalize hAll : command ++ '\n' :: text = all at h
  cases h with
  | one => simp at hAll
  | more _ separator hSeparator _ h =>
    rw [List.append_assoc] at hAll
    have hTail := List.append_cancel_left hAll
    rcases hSeparator with rfl | rfl
    · obtain rfl := List.cons.inj hTail |>.2
      exact h
    · exact absurd (List.cons.inj hTail).1 (by decide)

theorem shownAs_cons_newline (h : ShownAs commands text) (hText : text ≠ []) :
    ShownAs (command :: commands) (command ++ '\n' :: text) := by
  have hCommands : commands ≠ [] := by
    rintro rfl
    exact hText (shownAs_nil h)
  simpa using ShownAs.more command ['\n'] (Or.inl rfl) hCommands h

def zeroLine (member : String) : Text := "mdadm --zero-superblock ".toList ++ member.toList

variable {member path : String}

theorem prefix_of_zeroLine {rest : Text} (h : zeroLine path <+: zeroLine member ++ rest) :
    path.toList <+: member.toList ++ rest := by
  unfold zeroLine at h
  generalize "mdadm --zero-superblock ".toList = words at h
  rw [List.append_assoc] at h
  exact (List.prefix_append_right_inj words).mp h

theorem zeroLine_append_ne_nil (member : String) (rest : Text) : zeroLine member ++ rest ≠ [] := by
  have hWords : "mdadm --zero-superblock ".toList ≠ [] := by decide
  exact List.append_ne_nil_of_left_ne_nil (List.append_ne_nil_of_left_ne_nil hWords _) _

theorem toList_zeroCommands (members : List String) :
    (zeroCommands members).toList = ['\n'].intercalate (members.map zeroLine) := by
  rw [zeroCommands, toList_join, List.map_map]
  congr 1
  apply List.map_congr_left
  intro member _
  exact String.toList_append

variable {members : List String}

theorem issued_zero_cons_ok (h : sanitizeMemberPath member = .ok path) :
    (issuedUntil zeroedMember (member :: members)).map String.toList =
      zeroLine path :: (issuedUntil zeroedMember members).map String.toList := by
  have hLine : (zeroSuperblockCommand path false).toList = zeroLine path := String.toList_append
  rw [issuedUntil, zeroedMember, h, ← hLine]
  rfl

theorem issued_zero_cons_error {member : String} {error : HttpError}
    (h : sanitizeMemberPath member = .error error) :
    issuedUntil zeroedMember (member :: members) = [] := by
  rw [issuedUntil, zeroedMember, h]
  rfl

theorem intercalate_newline_cons (line : Text) (lines : List Text) :
    ∃ rest, ['\n'].intercalate (line :: lines) = line ++ rest ∧
      ((lines = [] ∧ rest = []) ∨ (lines ≠ [] ∧ rest = '\n' :: ['\n'].intercalate lines)) := by
  cases lines with
  | nil => exact ⟨[], by simp [List.intercalate], Or.inl ⟨rfl, rfl⟩⟩
  | cons next lines =>
    exact ⟨'\n' :: ['\n'].intercalate (next :: lines), by simp [List.intercalate],
      Or.inr ⟨List.cons_ne_nil _ _, rfl⟩⟩

theorem zeroText_ne_nil (h : members.map zeroLine ≠ []) :
    ['\n'].intercalate (members.map zeroLine) ≠ [] := by
  cases members with
  | nil => exact absurd rfl h
  | cons member members =>
    obtain ⟨rest, hText, -⟩ := intercalate_newline_cons (zeroLine member) (members.map zeroLine)
    rw [List.map_cons, hText]
    exact zeroLine_append_ne_nil member rest

/-- A path that is put before its directory does not go on as the line it stands in. -/
theorem eq_of_prefix_line {rest : Text} (hSafe : isLowerDevicePath path)
    (h : path = member ∨ path.toList = "/dev/".toList ++ member.toList)
    (hRest : rest = [] ∨ ∃ lines, rest = '\n' :: lines)
    (hPrefix : path.toList <+: member.toList ++ rest) : path = member := by
  rcases h with rfl | hLonger
  · rfl
  · have hLength : path.toList.length = 5 + member.toList.length := by
      rw [hLonger, List.length_append]
      rfl
    rcases hRest with rfl | ⟨lines, rfl⟩
    · have hShort := hPrefix.length_le
      rw [List.append_nil, hLength] at hShort
      omega
    · obtain ⟨after, hAfter⟩ := hPrefix
      have hAt : path.toList[member.toList.length]? = some '\n' := by
        have hLeft : (path.toList ++ after)[member.toList.length]? =
            path.toList[member.toList.length]? := List.getElem?_append_left (by omega)
        rw [← hLeft, hAfter]
        simp
      exact absurd (List.mem_of_getElem? hAt) (newline_notMem_of_isLowerDevicePath hSafe)

theorem zero_shownAs_iff (members : List String) :
    ShownAs ((issuedUntil zeroedMember members).map String.toList) (zeroCommands members).toList ↔
      ∀ member ∈ members, isLowerDevicePath member = true := by
  rw [toList_zeroCommands]
  induction members with
  | nil => exact iff_of_true .none nofun
  | cons member members ih =>
    obtain ⟨rest, hText, hRest⟩ := intercalate_newline_cons (zeroLine member)
      (members.map zeroLine)
    rw [List.map_cons, hText]
    constructor
    · intro h
      cases hPath : sanitizeMemberPath member with
      | error error =>
        rw [issued_zero_cons_error hPath] at h
        exact absurd (shownAs_nil h) (zeroLine_append_ne_nil member rest)
      | ok path =>
        rw [issued_zero_cons_ok hPath] at h
        obtain ⟨hSafe, hForm⟩ := sanitizeMemberPath_eq_ok hPath
        have hNext : rest = [] ∨ ∃ lines, rest = '\n' :: lines :=
          hRest.imp (·.2) fun hMore => ⟨_, hMore.2⟩
        obtain rfl := eq_of_prefix_line hSafe hForm hNext
          (prefix_of_zeroLine (prefix_of_shownAs h))
        refine List.forall_mem_cons.mpr ⟨hSafe, ?_⟩
        rcases hRest with ⟨hNone, -⟩ | ⟨hSome, rfl⟩
        · rw [List.map_eq_nil_iff.mp hNone]
          exact List.forall_mem_nil _
        · exact ih.mp (shownAs_of_newline h)
    · intro h
      have hMember := h member List.mem_cons_self
      have hMembers := ih.mpr fun m hm => h m (List.mem_cons_of_mem _ hm)
      rw [issued_zero_cons_ok (sanitizeMemberPath_self hMember)]
      rcases hRest with ⟨hNone, rfl⟩ | ⟨hSome, rfl⟩
      · rw [List.map_eq_nil_iff.mp hNone, List.append_nil]
        exact .one _
      · exact shownAs_cons_newline hMembers (zeroText_ne_nil hSome)

theorem exists_of_mem_issuedUntil {α : Type} {commands : α → Except HttpError (List String)}
    {l : List α} {command : String} (h : command ∈ issuedUntil commands l) :
    ∃ a ∈ l, ∃ issued, commands a = .ok issued ∧ command ∈ issued := by
  induction l with
  | nil => cases h
  | cons a rest ih =>
    unfold issuedUntil at h
    split at h
    · rename_i issued hIssued
      rcases List.mem_append.mp h with hHead | hRest
      · exact ⟨a, List.mem_cons_self, issued, hIssued, hHead⟩
      · obtain ⟨b, hb, hCommand⟩ := ih hRest
        exact ⟨b, List.mem_cons_of_mem _ hb, hCommand⟩
    · cases h

/-- A command of an advanced cleanup: signatures of some types are wiped, or a superblock is
removed. -/
def startsCleanup (command : Text) : Bool :=
  "wipefs --".toList.isPrefixOf command || "mdadm --z".toList.isPrefixOf command

theorem startsCleanup_append {literal : String} (rest : String)
    (hLiteral : startsCleanup literal.toList) :
    startsCleanup (literal ++ rest).toList := by
  rw [String.toList_append]
  simp only [startsCleanup, Bool.or_eq_true, List.isPrefixOf_iff_prefix] at hLiteral ⊢
  exact hLiteral.imp (·.trans (List.prefix_append _ _)) (·.trans (List.prefix_append _ _))

theorem startsCleanup_zeroSuperblockCommand (devPath : String) (force : Bool) :
    startsCleanup (zeroSuperblockCommand devPath force).toList := by
  have hForced : startsCleanup "mdadm --zero-superblock --force ".toList = true := by decide
  have hPlain : startsCleanup "mdadm --zero-superblock ".toList = true := by decide
  cases force with
  | false => exact startsCleanup_append devPath hPlain
  | true => exact startsCleanup_append devPath hForced

theorem startsCleanup_of_buildAdvancedCleanupCommands [CaseMapping] {devPath command : String}
    {types commands : List String} {examineDetected : Bool}
    (h : buildAdvancedCleanupCommands devPath types examineDetected = .ok commands)
    (hCommand : command ∈ commands) : startsCleanup command.toList := by
  have hBuilt {built : List String} {error : HttpError}
      (hText : (if built = [] then Except.error error else .ok built) = .ok commands) :
      commands = built := by
    split at hText
    · cases hText
    · exact (Except.ok.inj hText).symm
  have hMember : startsCleanup "wipefs --types=linux_raid_member -a ".toList = true := by decide
  have hTypes : startsCleanup "wipefs --types=".toList = true := by decide
  unfold buildAdvancedCleanupCommands at h
  obtain rfl := hBuilt h
  rcases List.mem_append.mp hCommand with hWipe | hZero
  · split at hWipe
    · rw [List.mem_singleton.mp hWipe]
      exact startsCleanup_append devPath hMember
    · split at hWipe
      · rw [List.mem_singleton.mp hWipe]
        apply startsCleanup_append
        apply startsCleanup_append
        exact startsCleanup_append _ hTypes
      · cases hWipe
  · split at hZero
    · rw [List.mem_singleton.mp hZero]
      exact startsCleanup_zeroSuperblockCommand devPath true
    · cases hZero

theorem startsCleanup_of_wipedMember [CaseMapping] {selection : WipeSelection}
    {answers : PartitionAnswers} {member command : String} {issued : List String}
    (h : wipedMember selection answers member = .ok issued) (hCommand : command ∈ issued) :
    startsCleanup command.toList := by
  obtain ⟨devPath, -, h⟩ := bind_eq_ok.mp h
  dsimp only at h
  split at h
  · cases pure_eq_ok.mp h
    cases hCommand
  · obtain ⟨commands, hCommands, h⟩ := bind_eq_ok.mp h
    cases pure_eq_ok.mp h
    obtain ⟨cmd, hCmd, rfl⟩ := List.mem_map.mp hCommand
    unfold cleanupStepCommand
    split
    · exact startsCleanup_zeroSuperblockCommand devPath _
    · exact startsCleanup_of_buildAdvancedCleanupCommands hCommands hCmd

/-- All signatures are shown to be wiped; those of some types are. -/
theorem wipe_not_shownAs {member : String}
    (hCommands : ∀ command ∈ commands, startsCleanup command = true) :
    ¬ ShownAs commands (wipeCommands (member :: members)).toList := by
  have hStart : "wipefs -a".toList <+: (wipeCommands (member :: members)).toList := by
    obtain ⟨rest, hText, -⟩ := intercalate_newline_cons
      (s!"wipefs -a {member}; mdadm --zero-superblock --force {member}").toList
      (members.map fun m => (s!"wipefs -a {m}; mdadm --zero-superblock --force {m}").toList)
    have hLines : (wipeCommands (member :: members)).toList =
        (s!"wipefs -a {member}; mdadm --zero-superblock --force {member}").toList ++ rest := by
      rw [wipeCommands, toList_join, List.map_map]
      exact hText
    have hLiteral : "wipefs -a".toList <+: "wipefs -a ".toList := by decide
    have hAppend {text : String} (more : String) (hText : "wipefs -a".toList <+: text.toList) :
        "wipefs -a".toList <+: (text ++ more).toList := by
      rw [String.toList_append]
      exact hText.trans (List.prefix_append _ _)
    rw [hLines]
    exact (hAppend _ (hAppend _ (hAppend _ hLiteral))).trans (List.prefix_append _ rest)
  intro h
  cases commands with
  | nil =>
    rw [shownAs_nil h] at hStart
    exact absurd (List.prefix_nil.mp hStart) (by decide)
  | cons command commands =>
    have hCommand := hCommands command List.mem_cons_self
    simp only [startsCleanup, Bool.or_eq_true, List.isPrefixOf_iff_prefix] at hCommand
    have hPrefix := prefix_of_shownAs h
    rcases hCommand with hCommand | hCommand
    · exact absurd (List.prefix_of_prefix_length_le hStart (hCommand.trans hPrefix) (by decide))
        (by decide)
    · exact absurd (List.prefix_of_prefix_length_le hStart (hCommand.trans hPrefix) (by decide))
        (by decide)

variable {node : ClusterStorageNodeInventory}

theorem stopNodeResult_of_execute {primarySanId arrayName : String} {mode : ClusterMdRecoveryMode}
    {report : MdArrayNodeStateReport}
    (h : (stopNodeResult primarySanId arrayName mode node report).participation = .execute) :
    report.state = .active ∧ (stopNodeResult primarySanId arrayName mode node report).command =
      some ("mdadm --stop " ++ report.arrayPath.getD s!"/dev/{arrayName}") := by
  unfold stopNodeResult at h ⊢
  dsimp only at h ⊢
  split at h
  · cases h
  · rename_i hFree
    split at h
    · rename_i hStops
      rw [if_neg hFree, if_pos hStops]
      simp only [Bool.and_eq_true, beq_iff_eq] at hStops
      exact ⟨hStops.2, rfl⟩
    · cases h

theorem arrayPath_of_active {arrayName : String} {uuid : Option String}
    (h : (classifyMdArrayNodeState node arrayName uuid).state = .active) :
    ∃ arr, findActiveArray node.mdArrays (trimString arrayName) uuid = some arr ∧
      (classifyMdArrayNodeState node arrayName uuid).arrayPath = some arr.path := by
  unfold classifyMdArrayNodeState at h ⊢
  dsimp only at h ⊢
  split at h
  · cases h
  · rename_i hReady
    rw [if_neg hReady]
    split at h
    · cases h
    · rename_i hTools
      rw [if_neg hTools]
      cases hActive : findActiveArray node.mdArrays (trimString arrayName) uuid with
      | some arr => exact ⟨arr, rfl, rfl⟩
      | none =>
        simp only [hActive] at h
        split at h
        · cases h
        · split at h
          · cases h
          · split at h <;> cases h

theorem stop_shownAs_iff {name : String} {path : String} :
    ShownAs (((stopCommand name).toOption.toList).map String.toList)
        ("mdadm --stop " ++ path).toList ↔
      isValidMdArrayName name = true ∧ path = s!"/dev/{name}" := by
  have hStop : "mdadm --stop ".toList ≠ [] := by decide
  unfold stopCommand sanitizeArrayName
  split
  · rename_i hName
    have hCommand : (s!"mdadm --stop /dev/{name}").toList =
        "mdadm --stop ".toList ++ (s!"/dev/{name}").toList := by
      rw [← String.toList_append, ← String.append_assoc]
      rfl
    show ShownAs [(s!"mdadm --stop /dev/{name}").toList] _ ↔ _
    rw [shownAs_singleton, hCommand, String.toList_append, List.append_cancel_left_eq,
      String.toList_inj, and_iff_right hName]
  · rename_i hName
    refine iff_of_false (fun h => ?_) fun h => hName h.1
    have hEmpty := shownAs_nil h
    rw [String.toList_append] at hEmpty
    exact hStop (List.append_eq_nil_iff.mp hEmpty).1

theorem assembleCommand_eq {name command : String} {targetName : Option String}
    (h : buildMdAssembleCommand (targetName.getD name) members = .ok command) :
    assembleCommand name targetName members = .ok command := by
  have hBuild := h
  unfold buildMdAssembleCommand at h
  obtain ⟨arrayName, hName, h⟩ := bind_eq_ok.mp h
  obtain ⟨memberPaths, hPaths, h⟩ := bind_eq_ok.mp h
  have hSame : arrayName = targetName.getD name := by
    unfold sanitizeArrayName at hName
    split at hName
    · exact (Except.ok.inj hName).symm
    · cases hName
  -- The paths are put into the command as they come out of the first pass.
  have hAgain : memberPaths.mapM sanitizeMemberPath = .ok memberPaths := by
    rw [mapM_eq_ok, List.forall₂_same]
    intro path hPath
    obtain ⟨member, -, hMember⟩ := exists_of_forall₂_right (mapM_eq_ok.mp hPaths) hPath
    exact sanitizeMemberPath_self (sanitizeMemberPath_eq_ok hMember).1
  subst hSame
  refine bind_eq_ok.mpr ⟨_, hName, bind_eq_ok.mpr ⟨memberPaths, hPaths, ?_⟩⟩
  exact bind_eq_ok.mpr ⟨_, hName, bind_eq_ok.mpr ⟨memberPaths, hAgain, h⟩⟩

theorem command_cleanupNodeResult {primarySanId : String} {sourceMembers : List String}
    {mappings : List ClusterDiskMapping} {nodePreflight : Option RaidPreflightResult}
    {commandBuilder : List String → String}
    (h : (cleanupNodeResult node primarySanId sourceMembers mappings nodePreflight
      commandBuilder).participation = .execute) :
    (cleanupNodeResult node primarySanId sourceMembers mappings nodePreflight
      commandBuilder).command =
        some (commandBuilder (membersForNode node primarySanId sourceMembers mappings)) := by
  unfold cleanupNodeResult membersForNode at *
  dsimp only at *
  split at h
  · cases h
  · rename_i hSsh
    rw [if_neg hSsh]
    split at h
    · cases h
    · rename_i hGap
      rw [if_neg hGap]
      split at h
      · cases h
      · rename_i hFree
        rw [if_neg hFree]
        split at h
        · cases h
        · cases h
        · rfl

section

variable [Host] {cluster : Cluster} {result : ClusterMdNodeResult}
  {node : ClusterStorageNodeInventory} (answers : Nat → PartitionAnswers)

theorem stop_runsAsShown_iff {req : StopMdPlanRequest} {plan : ClusterMdPlan ClusterMdRecoveryMode}
    (h : buildStopMdClusterExecutionPlan cluster req = .ok plan)
    (hResult : result ∈ plan.nodeResults) (hExecute : result.participation = .execute)
    (hNode : node ∈ cluster.nodes) (hId : node.sanId = result.sanId) :
    (ClusterMdRequest.stop req).RunsAsShown answers result ↔
      (ClusterMdRequest.stop req).NamesPaths cluster node := by
  obtain ⟨name, hName, -⟩ := parts_of_buildStopMdClusterExecutionPlan h
  obtain ⟨-, -, -, hResults, -⟩ := buildStopMdClusterExecutionPlan_eq_ok h
  obtain rfl := normalizeMdArrayName_eq_ok hName
  rw [hResults] at hResult
  obtain ⟨other, hOther, rfl⟩ := List.mem_map.mp hResult
  obtain rfl := Cluster.eq_of_sanId hNode ((orderNodes_perm _ _).subset hOther)
    (hId.trans sanId_stopNodeResult)
  obtain ⟨hActive, hCommand⟩ := stopNodeResult_of_execute hExecute
  obtain ⟨arr, hArr, hPath⟩ := arrayPath_of_active hActive
  have hReport : (req.report node).arrayPath = some arr.path := hPath
  rw [hReport, Option.getD_some] at hCommand
  have hIssued : ∀ result, (ClusterMdRequest.stop req).issued answers result =
      (stopCommand (trimString req.arrayName)).toOption.toList := by
    intro result
    show ((normalizeMdArrayName req.arrayName >>= stopCommand).toOption).toList = _
    rw [hName]
    rfl
  have hShown := @stop_shownAs_iff (trimString req.arrayName) arr.path
  unfold ClusterMdRequest.RunsAsShown
  rw [hIssued, hCommand]
  constructor
  · rintro ⟨text, hText, h⟩
    obtain rfl := Option.some.inj hText
    obtain ⟨hValid, hSame⟩ := hShown.mp h
    refine ⟨hValid, fun found hFound => ?_⟩
    rw [Option.some.inj (hFound.symm.trans hArr), hSame]
  · rintro ⟨hValid, hSame⟩
    exact ⟨_, rfl, hShown.mpr ⟨hValid, hSame arr hArr⟩⟩

theorem assemble_runsAsShown {req : AssembleMdArrayRequest}
    {recoveryMode : Option ClusterMdRecoveryMode} {plan : ClusterMdPlan ClusterMdRecoveryMode}
    (h : buildAssembleMdClusterExecutionPlan cluster req recoveryMode = .ok plan)
    (hResult : result ∈ plan.nodeResults) (hExecute : result.participation = .execute) :
    (ClusterMdRequest.assemble req recoveryMode).RunsAsShown answers result := by
  obtain ⟨run, -, -, -, hResults, -⟩ := buildAssembleMdClusterExecutionPlan_eq_ok h
  obtain ⟨node, -, hOn⟩ := exists_of_forall₂_right hResults hResult
  obtain ⟨command, hBuilt, hCommand⟩ := hOn.command hExecute
  rw [← hOn.members hExecute] at hBuilt
  refine ⟨command, hCommand, ?_⟩
  rw [ClusterMdRequest.issued, assembleCommand_eq hBuilt]
  exact .one _

/-- What a removal of metadata runs on and shows, in terms of the request and the inventories. -/
theorem cleanup_of_execute (kind : CleanupKind) {clusterExecution : ClusterMdExecutionRequest}
    (payload : Payload) {recoveryMode : Option ClusterMdRecoveryMode}
    {plan : ClusterMdPlan (Option ClusterMdRecoveryMode)}
    (hCleanup : isCleanupClusterAction kind.action)
    (hSelected : (cleanupPreflight kind clusterExecution payload).selectedPaths = payload.members)
    (h : buildCleanupClusterExecutionPlan cluster kind clusterExecution payload.members payload
      recoveryMode = .ok plan) (hResult : result ∈ plan.nodeResults)
    (hExecute : result.participation = .execute) (hNode : node ∈ cluster.nodes)
    (hId : node.sanId = result.sanId) :
    ∃ source ∈ cluster.nodes, source.sanId = clusterExecution.primarySanId ∧
      result.members = (cleanupPreflight kind clusterExecution payload).membersOn source node ∧
      result.members ≠ [] ∧ result.command = some (kind.commandBuilder result.members) := by
  obtain ⟨run, -, hResults, -⟩ := buildCleanupClusterExecutionPlan_eq_ok hCleanup h
  rw [hResults] at hResult
  obtain ⟨other, hOther, rfl⟩ := List.mem_map.mp hResult
  obtain rfl := Cluster.eq_of_sanId hNode ((orderNodes_perm _ _).subset hOther)
    (hId.trans sanId_cleanupNodeResult)
  have hMembers := cleanupNodeResult_of_execute hExecute
  have hFound := membersForNode_result run hNode
  rw [hSelected] at hFound
  refine ⟨run.source, run.mem, run.sanId, hMembers.trans hFound, ?_, ?_⟩
  · rw [hMembers]
    exact (cleanupNodeResult_execute_iff.mp hExecute).2.2.1
  · rw [hMembers]
    exact command_cleanupNodeResult hExecute

theorem zero_runsAsShown_iff {req : ZeroMdSuperblocksRequest}
    {plan : ClusterMdPlan (Option ClusterMdRecoveryMode)}
    (h : buildZeroMdClusterExecutionPlan cluster req = .ok plan)
    (hResult : result ∈ plan.nodeResults) (hExecute : result.participation = .execute)
    (hNode : node ∈ cluster.nodes) (hId : node.sanId = result.sanId) :
    (ClusterMdRequest.zero req).RunsAsShown answers result ↔
      (ClusterMdRequest.zero req).NamesPaths cluster node := by
  obtain ⟨_, -, hPlan⟩ := bind_eq_ok.mp h
  have hFacts := cleanup_of_execute zeroCleanup req.payload rfl rfl hPlan
    hResult hExecute hNode hId
  obtain ⟨source, hSource, hPrimary, hMembers, -, hCommand⟩ := hFacts
  have hIff := zero_shownAs_iff result.members
  unfold ClusterMdRequest.RunsAsShown
  rw [hCommand]
  constructor
  · rintro ⟨text, hText, h⟩ other hOther hOtherId
    obtain rfl := Cluster.eq_of_sanId hSource hOther (hPrimary.trans hOtherId.symm)
    obtain rfl := Option.some.inj hText
    exact hMembers ▸ hIff.mp h
  · intro h
    exact ⟨_, rfl, hIff.mpr (hMembers ▸ h source hSource hPrimary)⟩

theorem wipe_not_runsAsShown {req : WipeMdSignaturesRequest} {mdadmExamine : List (String × Bool)}
    {plan : ClusterMdPlan (Option ClusterMdRecoveryMode)}
    (h : buildWipeMdClusterExecutionPlan cluster req = .ok plan)
    (hResult : result ∈ plan.nodeResults) (hExecute : result.participation = .execute)
    (hNode : node ∈ cluster.nodes) (hId : node.sanId = result.sanId) :
    ¬ (ClusterMdRequest.wipe req mdadmExamine).RunsAsShown answers result := by
  have hFacts := cleanup_of_execute wipeCleanup req.payload rfl rfl h
    hResult hExecute hNode hId
  obtain ⟨-, -, -, -, hSome, hCommand⟩ := hFacts
  obtain ⟨member, members, hMembers⟩ := List.exists_cons_of_ne_nil hSome
  rintro ⟨text, hText, h⟩
  rw [hCommand] at hText
  obtain rfl := Option.some.inj hText
  rw [hMembers] at h
  refine wipe_not_shownAs ?_ h
  refine List.forall_mem_map.mpr fun command hIssued => ?_
  obtain ⟨⟨m, i⟩, -, issued, hWiped, hMem⟩ := exists_of_mem_issuedUntil hIssued
  exact startsCleanup_of_wipedMember hWiped hMem

/-- The commands that are run on a node are those that the plan shows for it exactly if the request
names what it is about by path; a removal of signatures never runs what it shows. -/
theorem commands_shown_iff {request : ClusterMdRequest} {results : List ClusterMdNodeResult}
    (h : request.nodeResults cluster = .ok results) (hResult : result ∈ results)
    (hExecute : result.participation = .execute) (hNode : node ∈ cluster.nodes)
    (hId : node.sanId = result.sanId) :
    request.RunsAsShown answers result ↔ request.NamesPaths cluster node := by
  cases request with
  | stop req =>
    obtain ⟨plan, hPlan, rfl⟩ := map_eq_ok.mp h
    exact stop_runsAsShown_iff answers hPlan hResult hExecute hNode hId
  | assemble req recoveryMode =>
    obtain ⟨plan, hPlan, rfl⟩ := map_eq_ok.mp h
    exact iff_of_true (assemble_runsAsShown answers hPlan hResult hExecute) trivial
  | zero req =>
    obtain ⟨plan, hPlan, rfl⟩ := map_eq_ok.mp h
    exact zero_runsAsShown_iff answers hPlan hResult hExecute hNode hId
  | wipe req mdadmExamine =>
    obtain ⟨plan, hPlan, rfl⟩ := map_eq_ok.mp h
    exact iff_of_false (wipe_not_runsAsShown answers hPlan hResult hExecute hNode hId) id

end

def sharedZero : ClusterMdRequest :=
  .zero { members := ["/dev/sda1"], clusterExecution := { primarySanId := "a" } }

def wipeSharedReq : WipeMdSignaturesRequest :=
  { members := ["/dev/sda1"], clusterExecution := { primarySanId := "a" } }

def sharedAnswers : Nat → PartitionAnswers := (cleanedAnswers 0).cleaning.partition

theorem exists_executing {results : Except HttpError (List ClusterMdNodeResult)} {sanId : String}
    (h : (results.toOption.bind (·.head?)).map (fun r => (r.sanId, r.participation)) =
      some (sanId, .execute)) :
    ∃ found result, results = .ok found ∧ result ∈ found ∧ result.participation = .execute ∧
      result.sanId = sanId := by
  cases results with
  | error error => cases h
  | ok found =>
    obtain ⟨result, hHead, hResult⟩ := Option.map_eq_some_iff.mp h
    have hMem : found.head? = some result := hHead
    exact ⟨found, result, rfl, List.mem_of_mem_head? hMem, congrArg Prod.snd hResult,
      congrArg Prod.fst hResult⟩

theorem commands_shown_iff_sharedMember :
    ∃ node ∈ sharedMemberCluster.nodes, ∃ results result,
      @ClusterMdRequest.nodeResults anyHost sharedMemberCluster sharedZero = .ok results ∧
      result ∈ results ∧ node.sanId = result.sanId ∧
      (@ClusterMdRequest.RunsAsShown anyHost.toCaseMapping sharedAnswers result sharedZero ↔
        @ClusterMdRequest.NamesPaths anyHost.toCaseMapping sharedMemberCluster node
          sharedZero) := by
  obtain ⟨results, result, hResults, hMem, hExecute, hId⟩ := @exists_executing
    (@ClusterMdRequest.nodeResults anyHost sharedMemberCluster sharedZero) "a" (by decide +kernel)
  refine ⟨_, List.mem_cons_self, results, result, hResults, hMem, hId.symm, ?_⟩
  exact @commands_shown_iff anyHost _ _ _ sharedAnswers _ _ hResults hMem hExecute
    List.mem_cons_self
    hId.symm

/-- The plan shows `wipefs -a`, which is never what is run. -/
theorem sharedMember_wipe_not_shown :
    ∃ results, @ClusterMdRequest.nodeResults anyHost sharedMemberCluster
        (.wipe wipeSharedReq []) = .ok results ∧
      ∃ result ∈ results, result.participation = .execute ∧
        ¬ @ClusterMdRequest.RunsAsShown anyHost.toCaseMapping sharedAnswers result
          (.wipe wipeSharedReq []) := by
  obtain ⟨results, result, hResults, hMem, hExecute, hId⟩ := @exists_executing
    (@ClusterMdRequest.nodeResults anyHost sharedMemberCluster (.wipe wipeSharedReq [])) "a"
    (by decide +kernel)
  refine ⟨results, hResults, result, hMem, hExecute, ?_⟩
  have hWipe : (@buildWipeMdClusterExecutionPlan anyHost sharedMemberCluster wipeSharedReq).map
      (·.nodeResults) = .ok results := hResults
  obtain ⟨plan, hPlan, rfl⟩ := map_eq_ok.mp hWipe
  exact @wipe_not_runsAsShown anyHost _ _ _ sharedAnswers _ _ _ hPlan hMem hExecute
    List.mem_cons_self
    hId.symm

end EsosWebui.Raid
