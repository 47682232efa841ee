import EsosWebui.Js.Strings

/-! The logical drive that is taken for the one that was just created, and then renamed. -/
namespace EsosWebui.Raid.VolumeCreation

open Js

inductive CliTool where
  | storcli
  | perccli
  | megaCli64
  | arcconf
  | none
  deriving DecidableEq

def CliTool.name : CliTool → Text
  | .storcli => "storcli".toList
  | .perccli => "perccli".toList
  | .megaCli64 => "MegaCli64".toList
  | .arcconf => "arcconf".toList
  | .none => "none".toList

inductive HwRaidLevel where
  | raid0
  | raid1
  | raid5
  | raid6
  | raid10
  | raid50
  | raid60
  | unknown
  deriving DecidableEq

structure HardwareRaidLogicalDrive where
  id : Text
  raidLevel : HwRaidLevel

structure HardwareRaidController where
  id : Text
  cliTool : CliTool
  cliPath : Option Text := none
  logicalDrives : List HardwareRaidLogicalDrive

structure CreateHardwareLogicalDriveRequest where
  controllerId : Text
  raidLevel : HwRaidLevel

structure Verification where
  verified : Bool
  createdVirtualDriveId : Option Text := none
  message : Option Text := none

def uncertainIdMessage : Text := "Volume détecté par niveau RAID (ID incertain)".toList

def noNewVolumeMessage : Text :=
  "Aucun nouveau volume logique détecté après rafraîchissement du contrôleur".toList

def createdBy (ld : Option HardwareRaidLogicalDrive) (message : Option Text := none) :
    Verification where
  verified := true
  createdVirtualDriveId := ld.map (·.id)
  message := message

/-- The id that the number printed by the command stands for. -/
def candidateId (controllerId : Text) (parsedVdNum : Option Text) : Option Text :=
  (parsedVdNum.filter (· ≠ [])).map fun num => controllerId ++ "/vd".toList ++ num

def ids (lds : List HardwareRaidLogicalDrive) : List Text := lds.map (·.id)

def newDrives (before after : List HardwareRaidLogicalDrive) : List HardwareRaidLogicalDrive :=
  after.filter (·.id ∉ ids before)

def ofLevel (raidLevel : HwRaidLevel) (lds : List HardwareRaidLogicalDrive) :
    List HardwareRaidLogicalDrive :=
  lds.filter (·.raidLevel = raidLevel)

def verifyHwLogicalDriveCreated (before after : List HardwareRaidLogicalDrive)
    (raidLevel : HwRaidLevel) (controllerId : Text) (parsedVdNum : Option Text) : Verification :=
  match (candidateId controllerId parsedVdNum).filter (· ∈ ids after) with
  | some id => { verified := true, createdVirtualDriveId := some id }
  | none =>
    let newLds := newDrives before after
    if newLds.length > 0 then
      createdBy ((newLds.find? (·.raidLevel = raidLevel)).or newLds.head?)
    else if after.length > before.length then
      createdBy ((after.find? (·.id ∉ ids before)).or after.getLast?)
    else if (ofLevel raidLevel after).length > (ofLevel raidLevel before).length then
      createdBy (ofLevel raidLevel after).getLast? (some uncertainIdMessage)
    else { verified := false, message := some noNewVolumeMessage }

def supportsHwVdNamePostCreate (cliTool : CliTool) : Bool :=
  cliTool = .perccli || cliTool = .storcli

/-- `/\/vd(\d+)$/i`, or else `/\/v(\d+)$/i` -/
def parseHardwareLdIdToVdIndex (ldId : Text) : Option Text :=
  let digits := ldId.rtakeWhile Char.isDigit
  let front := (ldId.rdropWhile Char.isDigit).map Char.toLower
  if digits ≠ [] ∧ (endsWith front "/vd".toList || endsWith front "/v".toList) then some digits
  else none

def shellQuoteCliPath (cli : Text) : Text :=
  cli.flatMap fun c => if c = '\'' then "'\\''".toList else [c]

def buildHwSetVdNameCommand (cli ctrlIndex vdIndex name : Text) : Text :=
  shellQuoteCliPath cli ++ " /c".toList ++ ctrlIndex ++ "/v".toList ++ vdIndex ++
    " set name=".toList ++ name

/-- The command that renames the drive, if one is run. -/
def tryApplyHwVdNameAfterCreate (ctrl : HardwareRaidController)
    (createdVirtualDriveId name : Text) : Option Text :=
  if supportsHwVdNamePostCreate ctrl.cliTool then
    (parseHardwareLdIdToVdIndex createdVirtualDriveId).map fun vdIndex =>
      buildHwSetVdNameCommand (ctrl.cliPath.getD ctrl.cliTool.name) ctrl.id vdIndex name
  else none

/-- What follows once the command that creates the drive has succeeded. -/
structure CreateResult where
  ok : Bool
  createdVirtualDriveId : Option Text
  verificationMessage : Option Text
  /-- The drive that is renamed, with the command. -/
  renamed : Option (Text × Text) := none

def afterLds (controllers : List HardwareRaidController) (controllerId : Text) :
    List HardwareRaidLogicalDrive :=
  ((controllers.find? (·.id = controllerId)).map (·.logicalDrives)).getD []

def applyOptionalVolumeName (ctrl : HardwareRaidController)
    (createdVirtualDriveId requestedVolumeName : Option Text) : Option (Text × Text) := do
  let name ← requestedVolumeName.filter (· ≠ [])
  let id ← createdVirtualDriveId.filter (· ≠ [])
  let command ← tryApplyHwVdNameAfterCreate ctrl id name
  return (id, command)

/-- `ctrl` is the controller before, `controllers` are those after. -/
def executeHwLogicalDriveCreate (ctrl : HardwareRaidController)
    (body : CreateHardwareLogicalDriveRequest) (requestedVolumeName parsedVdNum : Option Text)
    (controllers : List HardwareRaidController) : CreateResult :=
  let verification := verifyHwLogicalDriveCreated ctrl.logicalDrives
    (afterLds controllers body.controllerId) body.raidLevel ctrl.id parsedVdNum
  let canVerify := ctrl.cliTool ≠ .none
  let createdVirtualDriveId := verification.createdVirtualDriveId.or
    ((parsedVdNum.filter (· ≠ [])).map fun num => ctrl.id ++ "/vd".toList ++ num)
  if canVerify ∧ verification.verified = false then
    { ok := false
      createdVirtualDriveId := createdVirtualDriveId
      verificationMessage := verification.message }
  else
    { ok := true
      createdVirtualDriveId := createdVirtualDriveId
      verificationMessage := verification.message
      renamed := applyOptionalVolumeName ctrl createdVirtualDriveId requestedVolumeName }

section

variable (before after : List HardwareRaidLogicalDrive) (raidLevel : HwRaidLevel)
  (controllerId : Text) (parsedVdNum : Option Text)

/-- The drive that is reported as created, and renamed, is a new one. -/
structure ReportsNewDrive : Prop where
  verified : ∀ v, verifyHwLogicalDriveCreated before after raidLevel controllerId parsedVdNum = v →
    v.verified = true → ∀ id ∈ v.createdVirtualDriveId, id ∈ ids after ∧ id ∉ ids before
  unverified : newDrives before after = [] →
    (verifyHwLogicalDriveCreated before after raidLevel controllerId parsedVdNum).verified = false
  renamed : ∀ (ctrl : HardwareRaidController) (body : CreateHardwareLogicalDriveRequest)
    (requestedVolumeName : Option Text) (controllers : List HardwareRaidController),
    ctrl.logicalDrives = before → ctrl.id = controllerId → body.raidLevel = raidLevel →
    afterLds controllers body.controllerId = after →
    ∀ renamed ∈ (executeHwLogicalDriveCreate ctrl body requestedVolumeName parsedVdNum
      controllers).renamed, renamed.1 ∉ ids before

/-- The printed number is that of no drive that was there, and without a new drive there are not
more drives than before, also of the level. -/
structure NoOldDriveMistaken : Prop where
  number : ∀ id ∈ candidateId controllerId parsedVdNum, id ∈ ids after → id ∉ ids before
  counts : newDrives before after = [] → after.length ≤ before.length ∧
    (ofLevel raidLevel after).length ≤ (ofLevel raidLevel before).length

variable {before after raidLevel controllerId parsedVdNum}

theorem newDrives_eq_nil_iff :
    newDrives before after = [] ↔ ∀ id ∈ ids after, id ∈ ids before := by
  rw [newDrives, List.filter_eq_nil_iff]
  simp [ids]

theorem mem_newDrives {ld : HardwareRaidLogicalDrive} :
    ld ∈ newDrives before after ↔ ld ∈ after ∧ ld.id ∉ ids before := by
  rw [newDrives, List.mem_filter, decide_eq_true_iff]

variable (raidLevel) in
theorem exists_new_found (h : newDrives before after ≠ []) :
    ∃ ld ∈ newDrives before after,
      ((newDrives before after).find? (·.raidLevel = raidLevel)).or (newDrives before after).head? =
        some ld := by
  cases hFind : (newDrives before after).find? (·.raidLevel = raidLevel) with
  | some ld => exact ⟨ld, List.mem_of_find?_eq_some hFind, rfl⟩
  | none =>
    cases hNew : newDrives before after with
    | nil => exact absurd hNew h
    | cons ld rest => exact ⟨ld, List.mem_cons_self, rfl⟩

theorem verifyHwLogicalDriveCreated_cases :
    (∃ id ∈ candidateId controllerId parsedVdNum, id ∈ ids after ∧
      verifyHwLogicalDriveCreated before after raidLevel controllerId parsedVdNum =
        { verified := true, createdVirtualDriveId := some id }) ∨
    (∀ id ∈ candidateId controllerId parsedVdNum, id ∉ ids after) ∧
      ((∃ ld ∈ newDrives before after,
          verifyHwLogicalDriveCreated before after raidLevel controllerId parsedVdNum =
            createdBy (some ld)) ∨
        newDrives before after = [] ∧
          ((verifyHwLogicalDriveCreated before after raidLevel controllerId
              parsedVdNum).verified = false ↔
            after.length ≤ before.length ∧
              (ofLevel raidLevel after).length ≤ (ofLevel raidLevel before).length)) := by
  rw [verifyHwLogicalDriveCreated]
  split
  next id hNumber =>
    obtain ⟨hCandidate, hAfter⟩ := Option.filter_eq_some_iff.mp hNumber
    exact Or.inl ⟨id, hCandidate, of_decide_eq_true hAfter, rfl⟩
  next hNumber =>
    have hNone : ∀ id ∈ candidateId controllerId parsedVdNum, id ∉ ids after := by
      intro id hId hAfter
      exact Option.filter_eq_none_iff.mp hNumber id hId (decide_eq_true hAfter)
    refine Or.inr ⟨hNone, ?_⟩
    dsimp only
    split
    next hNew =>
      obtain ⟨ld, hMem, hFound⟩ := exists_new_found raidLevel (List.ne_nil_of_length_pos hNew)
      exact Or.inl ⟨ld, hMem, congrArg createdBy hFound⟩
    next hNew =>
      refine Or.inr ⟨List.length_eq_zero_iff.mp (Nat.eq_zero_of_not_pos hNew), ?_⟩
      split
      next hMore => exact iff_of_false (fun h => by cases h) fun h => absurd h.1 (by omega)
      next hMore =>
        split
        next hLevel => exact iff_of_false (fun h => by cases h) fun h => absurd h.2 (by omega)
        next hLevel => exact iff_of_true rfl ⟨by omega, by omega⟩

theorem NoOldDriveMistaken.verified
    (h : NoOldDriveMistaken before after raidLevel controllerId parsedVdNum)
    (hVerified : (verifyHwLogicalDriveCreated before after raidLevel controllerId
      parsedVdNum).verified) :
    ∃ id, (verifyHwLogicalDriveCreated before after raidLevel controllerId
        parsedVdNum).createdVirtualDriveId = some id ∧ id ∈ ids after ∧ id ∉ ids before := by
  rcases verifyHwLogicalDriveCreated_cases with ⟨id, hCandidate, hAfter, hVerify⟩ | ⟨-, hRest⟩
  · rw [hVerify]
    exact ⟨id, rfl, hAfter, h.number id hCandidate hAfter⟩
  · rcases hRest with ⟨ld, hNew, hVerify⟩ | ⟨hNoNew, hCounts⟩
    · rw [hVerify]
      obtain ⟨hMem, hBefore⟩ := mem_newDrives.mp hNew
      exact ⟨ld.id, rfl, List.mem_map_of_mem hMem, hBefore⟩
    · rw [hCounts.mpr (h.counts hNoNew)] at hVerified
      cases hVerified

theorem NoOldDriveMistaken.renamed
    (h : NoOldDriveMistaken before after raidLevel controllerId parsedVdNum)
    {ctrl : HardwareRaidController} {body : CreateHardwareLogicalDriveRequest}
    {requestedVolumeName : Option Text} {controllers : List HardwareRaidController}
    (hBefore : ctrl.logicalDrives = before) (hController : ctrl.id = controllerId)
    (hLevel : body.raidLevel = raidLevel)
    (hAfter : afterLds controllers body.controllerId = after) :
    ∀ renamed ∈ (executeHwLogicalDriveCreate ctrl body requestedVolumeName parsedVdNum
      controllers).renamed, renamed.1 ∉ ids before := by
  intro renamed hRenamed
  subst hBefore hController hLevel hAfter
  simp only [executeHwLogicalDriveCreate] at hRenamed
  split at hRenamed
  · cases hRenamed
  next hOk =>
    obtain ⟨name, -, hRenamed⟩ := Option.bind_eq_some_iff.mp hRenamed
    obtain ⟨id, hId, hRenamed⟩ := Option.bind_eq_some_iff.mp hRenamed
    obtain ⟨command, hCommand, hRenamed⟩ := Option.bind_eq_some_iff.mp hRenamed
    cases hRenamed
    -- only tools that can rename a drive get here, and those can verify
    have hTool : ctrl.cliTool ≠ .none := by
      intro hTool
      rw [tryApplyHwVdNameAfterCreate, hTool, if_neg (by decide)] at hCommand
      cases hCommand
    obtain ⟨created, hCreated, -, hNew⟩ :=
      h.verified (eq_true_of_ne_false fun hNot => hOk ⟨hTool, hNot⟩)
    rw [hCreated, Option.some_or] at hId
    obtain ⟨hId, -⟩ := Option.filter_eq_some_iff.mp hId
    obtain rfl := Option.some.inj hId
    exact hNew

theorem reportsNewDrive_iff :
    ReportsNewDrive before after raidLevel controllerId parsedVdNum ↔
      NoOldDriveMistaken before after raidLevel controllerId parsedVdNum := by
  constructor
  · intro h
    constructor
    · intro id hCandidate hAfter
      have hFilter : (candidateId controllerId parsedVdNum).filter (· ∈ ids after) = some id :=
        Option.filter_eq_some_iff.mpr ⟨hCandidate, decide_eq_true hAfter⟩
      have hVerify : verifyHwLogicalDriveCreated before after raidLevel controllerId parsedVdNum =
          { verified := true, createdVirtualDriveId := some id } := by
        rw [verifyHwLogicalDriveCreated, hFilter]
      exact (h.verified _ hVerify rfl id rfl).2
    · intro hNoNew
      have hUnverified := h.unverified hNoNew
      rcases verifyHwLogicalDriveCreated_cases with ⟨id, -, -, hVerify⟩ | ⟨-, hRest⟩
      · rw [hVerify] at hUnverified
        cases hUnverified
      · rcases hRest with ⟨ld, hNew, -⟩ | ⟨-, hCounts⟩
        · rw [hNoNew] at hNew
          cases hNew
        · exact hCounts.mp hUnverified
  · intro h
    refine ⟨?_, ?_, fun _ _ _ _ => h.renamed⟩
    · rintro v rfl hVerified id hId
      obtain ⟨created, hCreated, hNew⟩ := h.verified hVerified
      obtain rfl := Option.some.inj (hCreated.symm.trans hId)
      exact hNew
    · intro hNoNew
      by_contra hVerified
      obtain ⟨id, -, hAfter, hBefore⟩ := h.verified (eq_true_of_ne_false hVerified)
      exact hBefore (newDrives_eq_nil_iff.mp hNoNew id hAfter)

end

def oldDrive : HardwareRaidLogicalDrive := ⟨"0/vd0".toList, .raid1⟩

/-- A printed number of an old drive is believed. -/
theorem old_drive_reported :
    ¬ ∀ (before after : List HardwareRaidLogicalDrive) (raidLevel : HwRaidLevel)
        (controllerId : Text) (parsedVdNum : Option Text),
      ReportsNewDrive before after raidLevel controllerId parsedVdNum := by
  intro hAll
  have hUnverified := (hAll [oldDrive] [oldDrive] .raid5 "0".toList (some "0".toList)).unverified
    (by decide)
  revert hUnverified
  decide

end EsosWebui.Raid.VolumeCreation
