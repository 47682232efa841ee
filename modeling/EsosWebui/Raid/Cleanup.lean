import EsosWebui.Raid.NodeState

/-! Removal of MD metadata on the nodes of a cluster: what each node takes part
with, and whether all of them, some or none can be cleaned. -/
namespace EsosWebui.Raid

open Js

def cleanupReachableConfirmation : String := "CLEAN REACHABLE NODES"

inductive CleanupSkipReason where
  | unreachable
  | mappingMissing
  | mappingAmbiguous
  | noMetadata
  | nodePreflightBlocked

def humanCleanupSkipReason (reason : CleanupSkipReason) : String :=
  match reason with
  | .unreachable => "Ignoré — SSH indisponible"
  | .mappingMissing => "Mapping partition manquant ou incomplet"
  | .mappingAmbiguous => "Mapping partition ambigu — sélection manuelle requise"
  | .noMetadata => "Aucune métadonnée MD éligible sur les partitions mappées"
  | .nodePreflightBlocked => "Préflight nœud bloquant"

def isCleanupClusterAction (action : ClusterStorageAction) : Bool :=
  action == .zeroMdSuperblocks || action == .wipeMdSignatures

def expectedClusterCleanupConfirmation (recoveryMode : Option ClusterMdRecoveryMode) : String :=
  if recoveryMode = some .cleanupMappedOnly then cleanupReachableConfirmation
  else mdZeroMetadataConfirmation

def expectedClusterWipeCleanupConfirmation (recoveryMode : Option ClusterMdRecoveryMode) :
    String :=
  if recoveryMode = some .cleanupMappedOnly then cleanupReachableConfirmation
  else mdAdvancedCleanupConfirmation

def isCleanupSymmetricExecution (recoveryMode : Option ClusterMdRecoveryMode) : Bool :=
  recoveryMode != some .cleanupMappedOnly

def orderNodes (nodes : List ClusterStorageNodeInventory) (primarySanId : String) :
    List ClusterStorageNodeInventory :=
  nodes.filter (·.sanId == primarySanId) ++ nodes.filter (·.sanId != primarySanId)

def findMapping (mappings : List ClusterDiskMapping) (sourcePath targetSanId : String) :
    Option ClusterDiskMapping :=
  mappings.find? fun m => m.sourcePath == sourcePath && m.targetSanId == targetSanId

def mappedTarget (mappings : List ClusterDiskMapping) (sourcePath targetSanId : String) :
    Option String :=
  ((findMapping mappings sourcePath targetSanId).bind (·.targetPath)).filter (· != "")

/-- Why a source device has no counterpart on a peer. -/
def mappingIssue (mappings : List ClusterDiskMapping) (sourcePath targetSanId : String) :
    CleanupSkipReason :=
  match findMapping mappings sourcePath targetSanId with
  | some mapping =>
    if mapping.confidence = .none ∧ mapping.candidates.length > 0 then .mappingAmbiguous
    else .mappingMissing
  | none => .mappingMissing

def resolveMembersForNode (node : ClusterStorageNodeInventory) (primarySanId : String)
    (sourceMembers : List String) (mappings : List ClusterDiskMapping) :
    List String × Option CleanupSkipReason :=
  if node.sanId = primarySanId then (sourceMembers, none)
  else
    let unmapped := sourceMembers.filter fun sourcePath =>
      (mappedTarget mappings sourcePath node.sanId).isNone
    (sourceMembers.filterMap fun sourcePath => mappedTarget mappings sourcePath node.sanId,
      unmapped.head?.map fun sourcePath => mappingIssue mappings sourcePath node.sanId)

/-- A character of a pattern in lower case against one of a text, ignoring case. -/
def sameLetter (p c : Char) : Bool :=
  c == p || (p.isLower && c == p.toUpper) || (p == 'é' && c == 'É')

/-- What follows a literal at the start of a text, ignoring case. -/
def afterLetters : Text → Text → Option Text
  | [], text => some text
  | p :: pattern, c :: text => if sameLetter p c then afterLetters pattern text else none
  | _ :: _, [] => none

/-- A text that contains a literal, ignoring case. -/
def includesLetters (text : Text) (pattern : String) : Bool :=
  text.tails.any fun rest => (afterLetters pattern.toList rest).isSome

/-- `superblock|métadonnée|metadata|aucun.*md`, ignoring case. -/
def isNoMetadataBlocker (blocker : String) : Bool :=
  let text := blocker.toList
  includesLetters text "superblock" || includesLetters text "métadonnée" ||
    includesLetters text "metadata" ||
    text.tails.any fun rest => (afterLetters "aucun".toList rest).any fun rest =>
      includesLetters (rest.takeWhile (!isLineTerminator ·)) "md"

/-- `actif|active|monté|mounted`, ignoring case. -/
def isActiveMdOnMemberBlocker (blocker : String) : Bool :=
  ["actif", "active", "monté", "mounted"].any (includesLetters blocker.toList)

def classifyNodePreflight (nodePreflight : Option RaidPreflightResult) :
    Participation × String :=
  match nodePreflight with
  | none => (.skip, humanCleanupSkipReason .mappingMissing)
  | some nodePreflight =>
    let blockers := nodePreflight.blockers
    let orBlocked (error : String) : String :=
      if error = "" then humanCleanupSkipReason .nodePreflightBlocked else error
    if nodePreflight.ok then (.execute, "")
    else if blockers.all isNoMetadataBlocker then
      (.skip, humanCleanupSkipReason .noMetadata)
    else if blockers.any isActiveMdOnMemberBlocker then
      (.blocked, orBlocked (join "; " (blockers.filter isActiveMdOnMemberBlocker)))
    else (.blocked, orBlocked (join "; " blockers))

def cleanupNodeResult (node : ClusterStorageNodeInventory) (primarySanId : String)
    (sourceMembers : List String) (mappings : List ClusterDiskMapping)
    (nodePreflight : Option RaidPreflightResult) (commandBuilder : List String → String) :
    ClusterMdNodeResult :=
  let result : ClusterMdNodeResult :=
    { sanId := node.sanId
      label := node.label
      role := node.role
      source := if node.sanId = primarySanId then .primary else .peer
      participation := .skip
      status := .skipped }
  if !node.sshReady then
    { result with skipReason := some (humanCleanupSkipReason .unreachable) }
  else
    let (members, issue) := resolveMembersForNode node primarySanId sourceMembers mappings
    if issue.isSome || members.length == 0 || members.any (· == "") then
      { result with skipReason := some (humanCleanupSkipReason (issue.getD .mappingMissing)) }
    else if node.mdArrays.any fun arr => arr.members.any fun m => m.path.any members.contains then
      { result with
        members
        devices := members
        participation := .blocked
        status := .pending
        error := some
          "Tableau MD encore actif sur un membre — arrêtez le tableau avant le nettoyage" }
    else
      match classifyNodePreflight nodePreflight with
      | (.skip, reason) =>
        { result with
          members
          devices := members
          skipReason := some reason }
      | (.blocked, error) =>
        { result with
          members
          devices := members
          participation := .blocked
          status := .pending
          error := some error }
      | (.execute, _) =>
        { result with
          members
          devices := members
          participation := .execute
          status := .pending
          command := some (commandBuilder members) }

def buildCleanupNodeResults (nodes : List ClusterStorageNodeInventory) (primarySanId : String)
    (sourceMembers : List String) (mappings : List ClusterDiskMapping)
    (perNodePreflights : List (String × RaidPreflightResult))
    (commandBuilder : List String → String) : List ClusterMdNodeResult :=
  (orderNodes nodes primarySanId).map fun node =>
    cleanupNodeResult node primarySanId sourceMembers mappings
      (perNodePreflights.lookup node.sanId) commandBuilder

def zeroCommands (members : List String) : String :=
  join "\n" (members.map fun m => s!"mdadm --zero-superblock {m}")

def wipeCommands (members : List String) : String :=
  join "\n" (members.map fun m => s!"wipefs -a {m}; mdadm --zero-superblock --force {m}")

/-- The nodes that a plan runs something on. -/
def nodesToExecute (nodeResults : List ClusterMdNodeResult) : List ClusterMdNodeResult :=
  nodeResults.filter (·.participation == .execute)

def buildCleanupRecoveryAssessment (action : ClusterStorageAction) (primarySanId : String)
    (sourceMembers : List String) (nodes : List ClusterStorageNodeInventory)
    (mappings : List ClusterDiskMapping)
    (perNodePreflights : List (String × RaidPreflightResult)) : ClusterMdRecoveryAssessment :=
  let commandBuilder := if action = .wipeMdSignatures then wipeCommands else zeroCommands
  let nodeResults := buildCleanupNodeResults nodes primarySanId sourceMembers mappings
    perNodePreflights commandBuilder
  let executeCount := (nodesToExecute nodeResults).length
  let totalNodes := nodeResults.length
  let skipped := totalNodes - executeCount
  let primaryResult := nodeResults.find? (·.sanId == primarySanId)
  let okSymmetric := executeCount == totalNodes && totalNodes > 0
  let okDegraded := executeCount > 0
  let mode : Option ClusterMdRecoveryMode :=
    if okSymmetric then none else if okDegraded then some .cleanupMappedOnly else none
  { hardBlockers :=
      if executeCount = 0 then
        "Aucun nœud nettoyable pour ce cluster" ::
          match primaryResult with
          | some primary =>
            if primary.participation = .blocked then
              let label := primary.label
              let error := primary.error.getD "nœud primaire bloqué"
              [s!"{label} : {error}"]
            else []
          | none => []
      else []
    warnings :=
      if 0 < executeCount ∧ executeCount < totalNodes then
        [s!"{skipped} nœud(s) ignoré(s) — nettoyage limité aux nœuds joignables " ++
          "avec mapping valide"]
      else []
    allowedRecoveryModes := mode.toList
    recommendedRecoveryMode := mode
    okSymmetric
    okDegraded }

def resolveCleanupRecoveryMode (assessment : ClusterMdRecoveryAssessment)
    (requested : Option ClusterMdRecoveryMode) :
    Except HttpError (Option ClusterMdRecoveryMode) :=
  if assessment.okSymmetric then .ok none
  else
    let mode := requested.or assessment.recommendedRecoveryMode
    if mode = some .cleanupMappedOnly ∧
        assessment.allowedRecoveryModes.contains .cleanupMappedOnly then .ok mode
    else
      match mode.filter (· != .cleanupMappedOnly) with
      | some other =>
        let name := other.name
        .error ⟨400, s!"recoveryMode {name} non autorisé pour le nettoyage cluster"⟩
      | none =>
        if assessment.okDegraded &&
            assessment.allowedRecoveryModes.contains .cleanupMappedOnly then
          .ok (some .cleanupMappedOnly)
        else .error ⟨400, "Mode recovery nettoyage invalide"⟩

theorem cleanup_hardBlockers_of_okDegraded {action : ClusterStorageAction} {primarySanId : String}
    {sourceMembers : List String} {nodes : List ClusterStorageNodeInventory}
    {mappings : List ClusterDiskMapping} {perNodePreflights : List (String × RaidPreflightResult)}
    (h : (buildCleanupRecoveryAssessment action primarySanId sourceMembers nodes mappings
      perNodePreflights).okDegraded) :
    (buildCleanupRecoveryAssessment action primarySanId sourceMembers nodes mappings
      perNodePreflights).hardBlockers = [] := by
  simp only [buildCleanupRecoveryAssessment, decide_eq_true_eq] at h ⊢
  exact if_neg (Nat.ne_of_gt h)

theorem orderNodes_perm (nodes : List ClusterStorageNodeInventory) (primarySanId : String) :
    (orderNodes nodes primarySanId).Perm nodes :=
  List.filter_append_perm (fun n : ClusterStorageNodeInventory => n.sanId == primarySanId) nodes

theorem head_orderNodes {nodes : List ClusterStorageNodeInventory} {primarySanId : String}
    (h : primarySanId ∈ nodes.map (·.sanId)) :
    ((orderNodes nodes primarySanId).map (·.sanId)).head? = some primarySanId := by
  obtain ⟨node, hNode, hId⟩ := List.mem_map.mp h
  have hMem : node ∈ nodes.filter (·.sanId == primarySanId) := by simp [hNode, hId]
  cases hPrimary : nodes.filter (·.sanId == primarySanId) with
  | nil => rw [hPrimary] at hMem; cases hMem
  | cons first rest =>
    have hFirst : first ∈ nodes.filter (·.sanId == primarySanId) := hPrimary ▸ List.mem_cons_self
    have hSame : first.sanId = primarySanId := by simpa using (List.mem_filter.mp hFirst).2
    rw [orderNodes, hPrimary]
    simp [hSame]

end EsosWebui.Raid
