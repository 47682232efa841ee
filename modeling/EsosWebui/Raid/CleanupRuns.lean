import EsosWebui.Js.Arrays
import EsosWebui.Raid.MdCleaning

/-! Execution of a plan for removing metadata: its confirmation, what is run on each of its
nodes, and the outcome that is reported. -/
namespace EsosWebui.Raid

open Js

/-- What the two cleanups differ in when they are run. -/
structure Cleaner where
  action : ClusterStorageAction
  validate : List String → List RaidBlockDevice → List MdArray → List String
  clean : CleaningAnswers → List String → Except HttpError ZeroMdSuperblocksResponse
  /-- The commands that change a member. -/
  memberCommands : PartitionAnswers → String → List String

def zeroCleaner : Cleaner where
  action := .zeroMdSuperblocks
  validate := validateZeroSuperblockMembers
  clean := zeroMdSuperblocks
  memberCommands _ member :=
    match sanitizeMemberPath member with
    | .ok devPath => [zeroSuperblockCommand devPath false]
    | .error _ => []

def wipeCleaner [CaseMapping] (selection : WipeSelection) : Cleaner where
  action := .wipeMdSignatures
  validate := validateWipeSignatureMembers
  clean := wipeMdSignatures selection
  memberCommands answers member :=
    match sanitizeMemberPath member with
    | .ok devPath =>
      let remainingTypes := selection.remainingTypes answers devPath member
      if remainingTypes = [] then []
      else
        ((buildAdvancedCleanupCommands devPath remainingTypes
          (selection.examineDetected devPath member)).toOption).getD []
    | .error _ => []

structure NodeCleaningAnswers where
  ready : Bool := true
  overview : Except NodeError (List RaidBlockDevice × List MdArray)
  cleaning : CleaningAnswers

def cleanNode (cleaner : Cleaner) (answers : NodeCleaningAnswers) (members : List String) :
    Except NodeError ZeroMdSuperblocksResponse := do
  throwIf (!answers.ready) (HttpError.thrown ⟨503, "SSH non connecté"⟩)
  let (blockDevices, mdArrays) ← answers.overview
  match cleaner.validate members blockDevices mdArrays with
  | blocker :: _ => .error (HttpError.thrown ⟨400, blocker⟩)
  | [] => (cleaner.clean answers.cleaning members).mapError HttpError.thrown

def cleanOnNode (cleaner : Cleaner) (answers : Nat → NodeCleaningAnswers) : RunOnNode :=
  fun position node =>
    (cleanNode cleaner (answers position) node.members).map fun response =>
      { stdout := response.stdout }

/-- A plan is confirmed by its phrase; one that leaves nodes out also by its token and by
`degradedOk`. -/
def confirmCleanup [Host] (clusterExecution : ClusterMdExecutionRequest)
    (confirmation : Option String) (plan : ClusterMdPlan (Option ClusterMdRecoveryMode)) :
    Except HttpError Unit := do
  if !isCleanupSymmetricExecution plan.recoveryMode then
    validateDegradedClusterExecution clusterExecution
      (plan.recoveryMode.getD .cleanupMappedOnly) plan.recoveryAssessment plan.planToken
  else if isSet clusterExecution.planToken then
    validateClusterMdPlanToken clusterExecution.planToken plan.planToken
  let phrase := plan.confirmationPhrase
  throwIf (confirmation ≠ some phrase) ⟨400, s!"Confirmation invalide (attendu : \"{phrase}\")"⟩

structure ClusterCleanupResult where
  ok : Bool
  results : List ZeroMdSuperblockPartitionResult
  warnings : List String
  stdout : String
  commands : List String
  clusterExecution : ClusterMdExecutionResult

/-- What a run throws, with the state of the nodes once something was run. -/
abbrev ClusterMdError := HttpError × Option ClusterMdExecutionResult

def ranResponses (cleaner : Cleaner) (answers : Nat → NodeCleaningAnswers)
    (nodes : List ClusterMdNodeResult) (ran : List Nat) : List ZeroMdSuperblocksResponse :=
  ran.zipIdx.filterMap fun (ref, position) =>
    (cleanNode cleaner (answers position) (nodeAt nodes ref).members).toOption

def commandLines (node : ClusterMdNodeResult) : List String :=
  (((node.command.getD "").toList.splitOn '\n').map String.ofList).filter (· != "")

def nodeStdout (node : ClusterMdNodeResult) : String :=
  let label := node.label
  let stdout := node.stdout.getD ""
  s!"[{label}]\n{stdout}"

def cleanupReport (cleaner : Cleaner) (answers : Nat → NodeCleaningAnswers)
    (plan : ClusterMdPlan (Option ClusterMdRecoveryMode)) (ran : List Nat)
    (clusterResult : ClusterMdExecutionResult) : ClusterCleanupResult :=
  let responses := ranResponses cleaner answers plan.nodeResults ran
  { ok := clusterResult.nodeResults.all (·.status == .success)
    results := responses.flatMap (·.results)
    warnings := unique (plan.recoveryAssessment.warnings ++ responses.flatMap (·.warnings))
    stdout := join "\n" (clusterResult.nodeResults.map nodeStdout)
    commands := plan.nodeResults.flatMap commandLines
    clusterExecution := clusterResult }

def executeCleanup (cleaner : Cleaner) (primarySanId : String)
    (plan : ClusterMdPlan (Option ClusterMdRecoveryMode))
    (answers : Nat → NodeCleaningAnswers) : ClusterMdExecution :=
  executeNodes (cleanOnNode cleaner answers) cleaner.action primarySanId plan.nodeResults true

def runClusterCleanup [Host] (cleaner : Cleaner) (clusterExecution : ClusterMdExecutionRequest)
    (confirmation : Option String) (plan : ClusterMdPlan (Option ClusterMdRecoveryMode))
    (answers : Nat → NodeCleaningAnswers) : Except ClusterMdError ClusterCleanupResult := do
  (confirmCleanup clusterExecution confirmation plan).mapError fun error => (error, none)
  let execution := executeCleanup cleaner clusterExecution.primarySanId plan answers
  let clusterResult ← execution.outcome.mapError fun (error, result) => (error, some result)
  return cleanupReport cleaner answers plan execution.ran clusterResult

/-- `advanced` is `body.mode === 'advanced'`. -/
def runClusterZeroMdSuperblocks [Host] (cluster : Cluster) (advanced : Bool)
    (req : ZeroMdSuperblocksRequest) (confirmation : Option String)
    (answers : Nat → NodeCleaningAnswers) : Except ClusterMdError ClusterCleanupResult := do
  (throwIf advanced ⟨400, "Utilisez wipe-signatures pour le nettoyage avancé cluster"⟩).mapError
    fun error => (error, none)
  let plan ← (buildZeroMdClusterExecutionPlan cluster req).mapError fun error => (error, none)
  runClusterCleanup zeroCleaner req.clusterExecution confirmation plan answers

def WipeMdSignaturesRequest.selection (req : WipeMdSignaturesRequest)
    (mdadmExamine : List (String × Bool)) : WipeSelection :=
  { remainingSignatureTypes := req.remainingSignatureTypes, mdadmExamine }

def runClusterWipeMdSignatures [Host] (cluster : Cluster) (req : WipeMdSignaturesRequest)
    (mdadmExamine : List (String × Bool)) (confirmation : Option String)
    (answers : Nat → NodeCleaningAnswers) : Except ClusterMdError ClusterCleanupResult := do
  let plan ← (buildWipeMdClusterExecutionPlan cluster req).mapError fun error => (error, none)
  runClusterCleanup (wipeCleaner (req.selection mdadmExamine)) req.clusterExecution confirmation
    plan answers

/-- No command that changes a member of a node fails. -/
def CommandsSucceed (cleaner : Cleaner) (answers : CleaningAnswers) (members : List String) :
    Prop :=
  ∀ entry ∈ members.zipIdx,
    ∀ command ∈ cleaner.memberCommands (answers.partition entry.2) entry.1,
      ((answers.partition entry.2).step command).exitCode = 0

instance (cleaner : Cleaner) (answers : CleaningAnswers) (members : List String) :
    Decidable (CommandsSucceed cleaner answers members) :=
  inferInstanceAs (Decidable (∀ _ ∈ _, _))

/-- The cleanup of a node succeeds: its result is ok for all partitions, and no command failed. -/
def NodeCleaned (cleaner : Cleaner) (answers : NodeCleaningAnswers) (members : List String) :
    Prop :=
  (∃ response, cleanNode cleaner answers members = .ok response ∧ response.ok = true ∧
    ∀ r ∈ response.results, r.failed = false) ∧
  CommandsSucceed cleaner answers.cleaning members

instance (cleaner : Cleaner) (answers : NodeCleaningAnswers) (members : List String) :
    Decidable (NodeCleaned cleaner answers members) :=
  match h : cleanNode cleaner answers members with
  | .ok response =>
    decidable_of_iff ((response.ok = true ∧ ∀ r ∈ response.results, r.failed = false) ∧
      CommandsSucceed cleaner answers.cleaning members) (by simp [NodeCleaned, h])
  | .error _ => isFalse (by simp [NodeCleaned, h])

def AllCleaned (cleaner : Cleaner) (answers : Nat → NodeCleaningAnswers)
    (nodes : List ClusterMdNodeResult) : Prop :=
  ∀ entry ∈ (executionOrder nodes).zipIdx,
    NodeCleaned cleaner (answers entry.2) (nodeAt nodes entry.1).members

instance (cleaner : Cleaner) (answers : Nat → NodeCleaningAnswers)
    (nodes : List ClusterMdNodeResult) : Decidable (AllCleaned cleaner answers nodes) :=
  inferInstanceAs (Decidable (∀ _ ∈ _, _))

/-- A run says ok exactly if the cleanup succeeded on every node that is executed. -/
def ReportsCleaned (cleaner : Cleaner) (answers : Nat → NodeCleaningAnswers)
    (nodes : List ClusterMdNodeResult) (run : Except ClusterMdError ClusterCleanupResult) :
    Prop :=
  (∃ result, run = .ok result ∧ result.ok = true) ↔ AllCleaned cleaner answers nodes

theorem succeeds_or_stops (runOnNode : RunOnNode) (nodes : List ClusterMdNodeResult) :
    (∀ entry ∈ (executionOrder nodes).zipIdx,
      Succeeds runOnNode (nodeAt nodes entry.1) entry.2) ∨
    ∃ before failed after, executionOrder nodes = before ++ failed :: after ∧
      (∀ entry ∈ before.zipIdx, Succeeds runOnNode (nodeAt nodes entry.1) entry.2) ∧
      ¬ Succeeds runOnNode (nodeAt nodes failed) before.length := by
  rcases forall_or_exists_first
      (fun entry : Nat × Nat => Succeeds runOnNode (nodeAt nodes entry.1) entry.2)
      (executionOrder nodes).zipIdx with hAll | ⟨pre, entry, post, hSplit, hPre, hFails⟩
  · exact Or.inl hAll
  · right
    obtain ⟨before, rest, hOrder, rfl, hRest⟩ := List.zipIdx_eq_append_iff.mp hSplit
    obtain ⟨failed, after, rfl, rfl, -⟩ := List.zipIdx_eq_cons_iff.mp hRest.symm
    exact ⟨before, failed, after, hOrder, hPre, by simpa using hFails⟩

section

variable {runOnNode : RunOnNode} {action : ClusterStorageAction} {primarySanId : String}
  {nodes : List ClusterMdNodeResult}

theorem mem_executionOrder_iff {ref : Nat} {node : ClusterMdNodeResult}
    (h : nodes[ref]? = some node) : ref ∈ executionOrder nodes ↔ node.participation = .execute := by
  have hRef : ref < nodes.length := (List.getElem?_eq_some_iff.mp h).1
  simp [executionOrder, refsToExecute, read_load h, hRef]

theorem all_success_iff {results : List ClusterMdNodeResult}
    (h : Reported nodes results (executionOrder nodes) none) :
    results.all (·.status == .success) = true ↔
      ∀ node ∈ nodes, node.participation = .execute := by
  rw [List.all_eq_true]
  constructor
  · intro hAll node hNode
    obtain ⟨ref, hRef, rfl⟩ := List.mem_iff_getElem.mp hNode
    have hIn : ref < results.length := h.length ▸ hRef
    have hAt := List.getElem?_eq_getElem hRef
    have hReported := h.each ref _ _ hAt (List.getElem?_eq_getElem hIn)
    have hSuccess := beq_iff_eq.mp (hAll _ (List.getElem_mem hIn))
    exact (mem_executionOrder_iff hAt).mp (hReported.success_iff.mp hSuccess)
  · intro hAll result hResult
    obtain ⟨ref, hIn, rfl⟩ := List.mem_iff_getElem.mp hResult
    have hRef : ref < nodes.length := h.length ▸ hIn
    have hAt := List.getElem?_eq_getElem hRef
    have hReported := h.each ref _ _ hAt (List.getElem?_eq_getElem hIn)
    rw [beq_iff_eq, hReported.success_iff, mem_executionOrder_iff hAt]
    exact hAll _ (List.getElem_mem hRef)

variable (runOnNode action primarySanId) in
theorem every_success_iff (hPlanned : PlannedNodes nodes) (named : Bool) :
    (∃ result, (executeNodes runOnNode action primarySanId nodes named).outcome = .ok result ∧
      result.nodeResults.all (·.status == .success) = true) ↔
    (∀ node ∈ nodes, node.participation = .execute) ∧
      ∀ entry ∈ (executionOrder nodes).zipIdx,
        Succeeds runOnNode (nodeAt nodes entry.1) entry.2 := by
  rcases succeeds_or_stops runOnNode nodes with
    hAll | ⟨before, failed, after, hOrder, hBefore, hFails⟩
  · obtain ⟨result, hOk, -, -, hReported⟩ :=
      (finished_of_succeeds runOnNode action primarySanId hPlanned named hAll).outcome
    rw [← all_success_iff hReported, hOk]
    constructor
    · rintro ⟨_, ⟨rfl⟩, hSuccess⟩
      exact ⟨hSuccess, hAll⟩
    · exact fun h => ⟨result, rfl, h.1⟩
  · obtain ⟨error, result, hError, -⟩ :=
      (stoppedAt_of_fails runOnNode action primarySanId hPlanned named hOrder hBefore
        hFails).outcome
    rw [hError]
    constructor
    · rintro ⟨_, ⟨⟩, _⟩
    · intro h
      refine absurd (h.2 (failed, before.length) ?_) hFails
      rw [hOrder, List.zipIdx_append, List.zipIdx_cons, Nat.zero_add]
      exact List.mem_append_right _ List.mem_cons_self

end

section

variable {cleaner : Cleaner} {answers : Nat → NodeCleaningAnswers}

theorem succeeds_of_cleaned {node : ClusterMdNodeResult} {position : Nat}
    (hCommand : isSet node.command)
    (h : NodeCleaned cleaner (answers position) node.members) :
    Succeeds (cleanOnNode cleaner answers) node position := by
  obtain ⟨⟨response, hClean, -⟩, -⟩ := h
  refine ⟨hCommand, { stdout := response.stdout }, ?_⟩
  change (cleanNode cleaner (answers position) node.members).map _ = _
  rw [hClean]
  rfl

variable [Host] {clusterExecution : ClusterMdExecutionRequest} {confirmation : Option String}
  {plan : ClusterMdPlan (Option ClusterMdRecoveryMode)}

variable (answers) in
theorem runClusterCleanup_eq_ok_iff {result : ClusterCleanupResult}
    (hConfirmed : confirmCleanup clusterExecution confirmation plan = .ok ()) :
    runClusterCleanup cleaner clusterExecution confirmation plan answers = .ok result ↔
      ∃ clusterResult,
        (executeCleanup cleaner clusterExecution.primarySanId plan answers).outcome =
          .ok clusterResult ∧
        cleanupReport cleaner answers plan
          (executeCleanup cleaner clusterExecution.primarySanId plan answers).ran
          clusterResult = result := by
  unfold runClusterCleanup
  rw [hConfirmed]
  constructor
  · intro h
    obtain ⟨_, -, h⟩ := bind_eq_ok.mp h
    obtain ⟨clusterResult, hOutcome, h⟩ := bind_eq_ok.mp h
    exact ⟨clusterResult, mapError_eq_ok.mp hOutcome, pure_eq_ok.mp h⟩
  · rintro ⟨clusterResult, hOutcome, rfl⟩
    exact bind_eq_ok.mpr ⟨(), rfl, bind_eq_ok.mpr ⟨clusterResult, mapError_eq_ok.mpr hOutcome, rfl⟩⟩

theorem runClusterCleanup_ok_iff (hPlanned : PlannedNodes plan.nodeResults)
    (hConfirmed : confirmCleanup clusterExecution confirmation plan = .ok ()) :
    (∃ result, runClusterCleanup cleaner clusterExecution confirmation plan answers = .ok result ∧
      result.ok = true) ↔
    (∀ node ∈ plan.nodeResults, node.participation = .execute) ∧
      ∀ entry ∈ (executionOrder plan.nodeResults).zipIdx,
        Succeeds (cleanOnNode cleaner answers) (nodeAt plan.nodeResults entry.1) entry.2 := by
  rw [← every_success_iff (cleanOnNode cleaner answers) cleaner.action
    clusterExecution.primarySanId hPlanned true]
  constructor
  · rintro ⟨result, hRun, hOk⟩
    obtain ⟨clusterResult, hOutcome, rfl⟩ := (runClusterCleanup_eq_ok_iff answers hConfirmed).mp hRun
    exact ⟨clusterResult, hOutcome, hOk⟩
  · rintro ⟨clusterResult, hOutcome, hOk⟩
    exact ⟨_, (runClusterCleanup_eq_ok_iff answers hConfirmed).mpr ⟨clusterResult, hOutcome, rfl⟩, hOk⟩

end

section

variable {node : ClusterStorageNodeInventory} {primarySanId : String}
  {sourceMembers : List String} {mappings : List ClusterDiskMapping}
  {nodePreflight : Option RaidPreflightResult} {commandBuilder : List String → String}

theorem command_of_execute
    (h : (cleanupNodeResult node primarySanId sourceMembers mappings nodePreflight
      commandBuilder).participation = .execute) :
    ∃ member members,
      (cleanupNodeResult node primarySanId sourceMembers mappings nodePreflight
        commandBuilder).command = some (commandBuilder (member :: members)) := by
  unfold cleanupNodeResult at *
  dsimp only at *
  split at h
  · cases h
  · rename_i hSsh
    rw [if_neg hSsh]
    split at h
    · cases h
    · rename_i hGap
      rw [if_neg hGap]
      split at h
      · cases h
      · rename_i hFree
        rw [if_neg hFree]
        split at h
        · cases h
        · cases h
        · cases hMembers : (resolveMembersForNode node primarySanId sourceMembers mappings).1 with
          | nil => simp [hMembers] at hGap
          | cons member members => exact ⟨member, members, rfl⟩

end

theorem isSet_join_cons {line : String} (hLine : line ≠ "") (lines : List String) :
    isSet (some (join "\n" (line :: lines))) = true := by
  cases lines with
  | nil => simpa [isSet, join] using hLine
  | cons next lines => simp [isSet, join, String.intercalate_cons_cons]

theorem isSet_commands (member : String) (members : List String) :
    isSet (some (zeroCommands (member :: members))) = true ∧
      isSet (some (wipeCommands (member :: members))) = true :=
  ⟨isSet_join_cons (by simp [toString]) _, isSet_join_cons (by simp [toString]) _⟩

theorem isSet_command_of_execute [Host] {cluster : Cluster} {kind : CleanupKind}
    {clusterExecution : ClusterMdExecutionRequest} {payload : Payload}
    {plan : ClusterMdPlan (Option ClusterMdRecoveryMode)}
    {recoveryModeInput : Option ClusterMdRecoveryMode}
    (hCleanup : isCleanupClusterAction kind.action)
    (hBuilder : ∀ member members, isSet (some (kind.commandBuilder (member :: members))) = true)
    (h : buildCleanupClusterExecutionPlan cluster kind clusterExecution payload.members payload
      recoveryModeInput = .ok plan) :
    ∀ result ∈ plan.nodeResults, result.participation = .execute →
      isSet result.command = true := by
  obtain ⟨run, -, hResults, -⟩ := buildCleanupClusterExecutionPlan_eq_ok hCleanup h
  intro result hResult hExecute
  rw [hResults] at hResult
  obtain ⟨node, -, rfl⟩ := List.mem_map.mp hResult
  obtain ⟨member, members, hCommand⟩ := command_of_execute hExecute
  rw [hCommand]
  exact hBuilder member members

/-- What is reported of a cleanup that leaves nodes out: never ok, also when the cleanup
succeeded on every node that is executed. -/
structure DegradedOutcome (cleaner : Cleaner) (answers : Nat → NodeCleaningAnswers)
    (nodes : List ClusterMdNodeResult) (run : Except ClusterMdError ClusterCleanupResult) :
    Prop where
  reports_iff : ReportsCleaned cleaner answers nodes run ↔ ¬ AllCleaned cleaner answers nodes
  cleaned : AllCleaned cleaner answers nodes → ∃ result, run = .ok result ∧ result.ok = false ∧
    Reported nodes result.clusterExecution.nodeResults (executionOrder nodes) none

theorem degradedOutcome_of_skipped [Host] {cleaner : Cleaner}
    {clusterExecution : ClusterMdExecutionRequest} {confirmation : Option String}
    {plan : ClusterMdPlan (Option ClusterMdRecoveryMode)} (hPlanned : PlannedNodes plan.nodeResults)
    (hCommand : ∀ result ∈ plan.nodeResults, result.participation = .execute →
      isSet result.command = true)
    (hConfirmed : confirmCleanup clusterExecution confirmation plan = .ok ())
    (hSkipped : ∃ node ∈ plan.nodeResults, node.participation = .skip)
    (answers : Nat → NodeCleaningAnswers) :
    DegradedOutcome cleaner answers plan.nodeResults
      (runClusterCleanup cleaner clusterExecution confirmation plan answers) := by
  obtain ⟨skipped, hMem, hSkip⟩ := hSkipped
  have hNotOk : ¬ ∃ result,
      runClusterCleanup cleaner clusterExecution confirmation plan answers = .ok result ∧
        result.ok = true := by
    rw [runClusterCleanup_ok_iff hPlanned hConfirmed]
    rintro ⟨hAll, -⟩
    exact absurd (hSkip.symm.trans (hAll skipped hMem)) nofun
  refine ⟨?_, ?_⟩
  · unfold ReportsCleaned
    rw [iff_false_left hNotOk]
  · intro hCleaned
    have hSucceeds : ∀ entry ∈ (executionOrder plan.nodeResults).zipIdx,
        Succeeds (cleanOnNode cleaner answers) (nodeAt plan.nodeResults entry.1) entry.2 := by
      intro entry hEntry
      have hOrder := List.fst_mem_of_mem_zipIdx hEntry
      have hAt := List.getElem?_eq_getElem (lt_of_mem_executionOrder hOrder)
      have hNode : nodeAt plan.nodeResults entry.1 = _ := read_load hAt
      refine succeeds_of_cleaned ?_ (hCleaned entry hEntry)
      rw [hNode]
      exact hCommand _ (List.mem_of_getElem? hAt) ((mem_executionOrder_iff hAt).mp hOrder)
    obtain ⟨clusterResult, hOutcome, -, -, hReported⟩ :=
      (finished_of_succeeds (cleanOnNode cleaner answers) cleaner.action
        clusterExecution.primarySanId hPlanned true hSucceeds).outcome
    have hRun := (runClusterCleanup_eq_ok_iff answers hConfirmed).mpr
      ⟨clusterResult, hOutcome, rfl⟩
    refine ⟨_, hRun, ?_, hReported⟩
    rw [← Bool.not_eq_true]
    exact fun hOk => hNotOk ⟨_, hRun, hOk⟩

/-- A confirmed cleanup that leaves nodes out reports its outcome as it is exactly if the cleanup
fails on some node that is executed: where it succeeds on all of them, the nodes left out turn
the outcome into a failure. -/
theorem degraded_cleanup_outcome [Host] (cluster : Cluster)
    (answers : Nat → NodeCleaningAnswers) (confirmation : Option String) :
    (∀ req plan, buildZeroMdClusterExecutionPlan cluster req = .ok plan →
      confirmCleanup req.clusterExecution confirmation plan = .ok () →
      (∃ node ∈ plan.nodeResults, node.participation = .skip) →
      DegradedOutcome zeroCleaner answers plan.nodeResults
        (runClusterZeroMdSuperblocks cluster false req confirmation answers)) ∧
    ∀ req mdadmExamine plan, buildWipeMdClusterExecutionPlan cluster req = .ok plan →
      confirmCleanup req.clusterExecution confirmation plan = .ok () →
      (∃ node ∈ plan.nodeResults, node.participation = .skip) →
      DegradedOutcome (wipeCleaner (req.selection mdadmExamine)) answers plan.nodeResults
        (runClusterWipeMdSignatures cluster req mdadmExamine confirmation answers) := by
  obtain ⟨-, -, hZero, hWipe⟩ := plannedNodes_of_plan cluster
  constructor
  · intro req plan hPlan hConfirmed hSkipped
    have hRun : runClusterZeroMdSuperblocks cluster false req confirmation answers =
        runClusterCleanup zeroCleaner req.clusterExecution confirmation plan answers := by
      unfold runClusterZeroMdSuperblocks
      rw [hPlan]
      rfl
    obtain ⟨_, -, hBuilt⟩ := bind_eq_ok.mp hPlan
    rw [hRun]
    exact degradedOutcome_of_skipped (hZero req plan hPlan)
      (@isSet_command_of_execute _ cluster zeroCleanup _ req.payload _ _ rfl
        (fun member members => (isSet_commands member members).1) hBuilt)
      hConfirmed hSkipped answers
  · intro req mdadmExamine plan hPlan hConfirmed hSkipped
    have hRun : runClusterWipeMdSignatures cluster req mdadmExamine confirmation answers =
        runClusterCleanup (wipeCleaner (req.selection mdadmExamine)) req.clusterExecution
          confirmation plan answers := by
      unfold runClusterWipeMdSignatures
      rw [hPlan]
      rfl
    rw [hRun]
    exact degradedOutcome_of_skipped (hWipe req plan hPlan)
      (@isSet_command_of_execute _ cluster wipeCleanup _ req.payload _ _ rfl
        (fun member members => (isSet_commands member members).2) hPlan)
      hConfirmed hSkipped answers

def cleanedAnswers (_position : Nat) : NodeCleaningAnswers where
  overview :=
    .ok ([{ name := "sda1", path := "/dev/sda1", type := .part, hasMdSuperblock := true }], [])
  cleaning :=
    { partition := fun _ =>
        { step := fun _ => { exitCode := 0, readCode := some 0 }
          baseline :=
            { mdMetadataRemoved := false, remainingSignatureTypes := ["linux_raid_member"] }
          diagnostics := { mdMetadataRemoved := true } } }

abbrev digestHost (digest : String) : Host :=
  { hostWith [] with sha256 := fun _ => digest }

abbrev zeroHost : Host :=
  digestHost "0ee231fbcabac31ca60fecc8af753ed511e91e02d7580c57660e97c250af9515"

/-- The digest of the payload of the wiping plan for the three nodes. -/
abbrev wipeHost : Host :=
  digestHost "3ca4e5a45653fc6a5b9d0959f34801b22b6c53843d143a1bd786cb6d04566f08"

/-- A confirmed request for two of three nodes; the third one cannot be reached. -/
def reachableRequest (planToken : String) : ClusterMdExecutionRequest :=
  { primarySanId := "a", degradedOk := true, planToken := some planToken }

def reachableZeroRequest : ZeroMdSuperblocksRequest :=
  { members := ["/dev/sda1"], clusterExecution := reachableRequest "0ee231fbcabac31c" }

def reachableWipeRequest : WipeMdSignaturesRequest :=
  { members := ["/dev/sda1"], clusterExecution := reachableRequest "3ca4e5a45653fc6a" }

/-- What is checked of a plan before a run that leaves nodes out. -/
def confirmsDegraded [Host] (clusterExecution : ClusterMdExecutionRequest)
    (built : Except HttpError (ClusterMdPlan (Option ClusterMdRecoveryMode))) : Bool :=
  built.toOption.any fun plan =>
    (confirmCleanup clusterExecution (some cleanupReachableConfirmation) plan).isOk &&
      plan.nodeResults.any (·.participation == .skip)

theorem exists_of_confirmsDegraded [Host] {clusterExecution : ClusterMdExecutionRequest}
    {built : Except HttpError (ClusterMdPlan (Option ClusterMdRecoveryMode))}
    (h : confirmsDegraded clusterExecution built) :
    ∃ plan, built = .ok plan ∧
      confirmCleanup clusterExecution (some cleanupReachableConfirmation) plan = .ok () ∧
      ∃ node ∈ plan.nodeResults, node.participation = .skip := by
  cases built with
  | error _ => cases h
  | ok plan =>
    obtain ⟨hConfirmed, hSkipped⟩ := Bool.and_eq_true_iff.mp h
    obtain ⟨_, hConfirmed⟩ := exists_of_isOk hConfirmed
    exact ⟨plan, rfl, hConfirmed, by simpa using hSkipped⟩

theorem degraded_cleanup_outcome_sharedMember :
    (∃ plan, @buildZeroMdClusterExecutionPlan zeroHost sharedMemberCluster reachableZeroRequest =
        .ok plan ∧
      DegradedOutcome zeroCleaner cleanedAnswers plan.nodeResults
        (@runClusterZeroMdSuperblocks zeroHost sharedMemberCluster false reachableZeroRequest
          (some cleanupReachableConfirmation) cleanedAnswers)) ∧
    ∃ plan, @buildWipeMdClusterExecutionPlan wipeHost sharedMemberCluster reachableWipeRequest =
        .ok plan ∧
      DegradedOutcome (@wipeCleaner wipeHost.toCaseMapping (reachableWipeRequest.selection []))
        cleanedAnswers plan.nodeResults
        (@runClusterWipeMdSignatures wipeHost sharedMemberCluster reachableWipeRequest []
          (some cleanupReachableConfirmation) cleanedAnswers) := by
  constructor
  · obtain ⟨plan, hPlan, hConfirmed, hSkipped⟩ := @exists_of_confirmsDegraded zeroHost
      reachableZeroRequest.clusterExecution (@buildZeroMdClusterExecutionPlan zeroHost sharedMemberCluster reachableZeroRequest)
      (by decide +kernel)
    exact ⟨plan, hPlan, (@degraded_cleanup_outcome zeroHost _ _ _).1 _ _ hPlan hConfirmed hSkipped⟩
  · obtain ⟨plan, hPlan, hConfirmed, hSkipped⟩ := @exists_of_confirmsDegraded wipeHost
      reachableWipeRequest.clusterExecution (@buildWipeMdClusterExecutionPlan wipeHost sharedMemberCluster reachableWipeRequest)
      (by decide +kernel)
    exact ⟨plan, hPlan, (@degraded_cleanup_outcome wipeHost _ _ _).2 _ _ _ hPlan hConfirmed hSkipped⟩

/-- Both nodes that can be reached are cleaned, but the run does not say ok. -/
theorem sharedMember_cleaned_not_ok :
    ∃ plan, @buildZeroMdClusterExecutionPlan zeroHost sharedMemberCluster reachableZeroRequest =
        .ok plan ∧
      @confirmCleanup zeroHost reachableZeroRequest.clusterExecution
        (some cleanupReachableConfirmation) plan = .ok () ∧
      (∃ node ∈ plan.nodeResults, node.participation = .skip) ∧
      ¬ ReportsCleaned zeroCleaner cleanedAnswers plan.nodeResults
        (@runClusterZeroMdSuperblocks zeroHost sharedMemberCluster false reachableZeroRequest
          (some cleanupReachableConfirmation) cleanedAnswers) := by
  obtain ⟨plan, hPlan, hConfirmed, hSkipped⟩ := @exists_of_confirmsDegraded zeroHost
      reachableZeroRequest.clusterExecution (@buildZeroMdClusterExecutionPlan zeroHost sharedMemberCluster reachableZeroRequest)
    (by decide +kernel)
  refine ⟨plan, hPlan, hConfirmed, hSkipped, ?_⟩
  have hCleaned : (@buildZeroMdClusterExecutionPlan zeroHost sharedMemberCluster
      reachableZeroRequest).toOption.any (fun plan =>
        decide (AllCleaned zeroCleaner cleanedAnswers plan.nodeResults)) = true := by
    decide +kernel
  have hNotOk : ((@runClusterZeroMdSuperblocks zeroHost sharedMemberCluster false
      reachableZeroRequest (some cleanupReachableConfirmation) cleanedAnswers).toOption.any
        (·.ok)) = false := by
    decide +kernel
  rw [hPlan] at hCleaned
  intro hReports
  obtain ⟨result, hRun, hOk⟩ := hReports.mpr (by simpa [Except.toOption] using hCleaned)
  rw [hRun] at hNotOk
  exact absurd hOk (by simpa [Except.toOption] using hNotOk)

end EsosWebui.Raid
