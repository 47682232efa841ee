import EsosWebui.Raid.CreateCommands
import EsosWebui.Raid.AdvancedCleanup

/-! The validation of a creation, and the command that is built from the same request. -/
namespace EsosWebui.Raid

open Js

/-- The request as the actions take it. -/
def Payload.createPayload (req : Payload) : MdCreatePayload :=
  { name := req.name.getD "", level := req.level.getD "", devices := req.devices
    chunkKb := req.chunkKb.getD 0, raidDevices := req.raidDevices }

/-- A selected path names a device that may be a member. -/
def IsEligible [CaseMapping] (blockDevices : List RaidBlockDevice) (dev : String) : Prop :=
  ∃ info, findCreateDevice blockDevices dev = some info ∧
    getMdEligibilityReasonsForDevice info = []

/-- What the validation asks for: of the values of the request, and of the inventory. -/
structure MeetsCreateRules [CaseMapping] (req : Payload) (blockDevices : List RaidBlockDevice)
    (mdArrays : List MdArray) : Prop where
  values : CreateValues (req.name.getD "") (req.level.getD "") req.devices (req.chunkKb.getD 0)
  counted : ∀ count ∈ req.raidDevices, count = req.devices.length
  noPartitioning : req.createPartitions = false
  noAssumption : req.assumePartitionsReady = false
  newArray : ∀ arr ∈ mdArrays,
    arr.name ≠ req.name.getD "" ∧ arr.path ≠ "/dev/" ++ req.name.getD ""
  newDevice : ∀ dev ∈ blockDevices, dev.path ≠ "/dev/" ++ req.name.getD ""
  nodup : req.devices.Nodup
  eligible : ∀ dev ∈ req.devices, IsEligible blockDevices dev
  enough : minDevices (req.level.getD "") ≤ req.devices.length
  even : req.level.getD "" = "10" → req.devices.length % 2 = 0

theorem unless_eq_nil_iff {c : Prop} [Decidable c] {message : String} :
    (if c then [] else [message]) = [] ↔ c := by
  split <;> simp_all

theorem when_eq_nil_iff {c : Prop} [Decidable c] {message : String} :
    (if c then [message] else []) = [] ↔ ¬ c := by
  split <;> simp_all

section

variable [CaseMapping] {req : Payload} {blockDevices : List RaidBlockDevice}
  {mdArrays : List MdArray}

theorem createDeviceBlockers_eq_nil_iff {seen devices : List String} :
    createDeviceBlockers blockDevices seen devices = [] ↔
      (∀ dev ∈ devices, isSafeDevicePath dev = true ∧ dev ∉ seen ∧ IsEligible blockDevices dev) ∧
        devices.Nodup := by
  induction devices generalizing seen with
  | nil => simp [createDeviceBlockers]
  | cons dev devices ih =>
    unfold createDeviceBlockers
    split
    · rename_i hUnsafe
      refine iff_of_false (List.cons_ne_nil _ _) fun hAll => ?_
      rw [(hAll.1 dev List.mem_cons_self).1] at hUnsafe
      cases hUnsafe
    · rename_i hSafe
      split
      · rename_i hSeen
        refine iff_of_false (List.cons_ne_nil _ _) fun hAll => ?_
        exact (hAll.1 dev List.mem_cons_self).2.1 (by simpa using hSeen)
      · rename_i hNew
        have hHere : isSafeDevicePath dev = true ∧ dev ∉ seen := by
          simp only [Bool.not_eq_true, Bool.not_eq_false', List.contains_eq_mem,
            decide_eq_false_iff_not] at hSafe hNew
          exact ⟨hSafe, hNew⟩
        rw [List.append_eq_nil_iff, List.map_eq_nil_iff, ih, List.forall_mem_cons,
          List.nodup_cons]
        cases hFound : findCreateDevice blockDevices dev with
        | none =>
          refine iff_of_false (fun hNil => List.cons_ne_nil _ _ hNil.1) fun hAll => ?_
          obtain ⟨info, hInfo, -⟩ := hAll.1.1.2.2
          rw [hFound] at hInfo
          cases hInfo
        | some info =>
          have hEligible : IsEligible blockDevices dev ↔
              getMdEligibilityReasonsForDevice info = [] := by
            simp [IsEligible, hFound]
          rw [hEligible]
          constructor
          · rintro ⟨hReasons, hAll, hNodup⟩
            refine ⟨⟨⟨hHere.1, hHere.2, hReasons⟩, fun other hOther => ?_⟩, ?_, hNodup⟩
            · obtain ⟨hOtherSafe, hOtherNew, hOtherEligible⟩ := hAll other hOther
              exact ⟨hOtherSafe, List.not_mem_of_not_mem_cons hOtherNew, hOtherEligible⟩
            · exact fun hAgain => (hAll dev hAgain).2.1 List.mem_cons_self
          · rintro ⟨⟨⟨-, -, hReasons⟩, hAll⟩, hOnce, hNodup⟩
            refine ⟨hReasons, fun other hOther => ?_, hNodup⟩
            obtain ⟨hOtherSafe, hOtherNew, hOtherEligible⟩ := hAll other hOther
            refine ⟨hOtherSafe, fun hIn => ?_, hOtherEligible⟩
            rcases List.mem_cons.mp hIn with rfl | hIn
            · exact hOnce hOther
            · exact hOtherNew hIn

/-- The validation finds nothing when all rules are met; only then the command is built. -/
theorem exists_blockers (req : Payload) (blockDevices : List RaidBlockDevice)
    (mdArrays : List MdArray) : ∃ (blockers warnings : List String),
      (validateMdCreateRequest req blockDevices mdArrays = do
        let commandPreview ←
          if blockers = [] then
            (buildMdCreateCommand (req.name.getD "") (req.level.getD "") req.devices
              (req.chunkKb.getD 0)).map some
          else pure none
        return { blockers := unique blockers, warnings, impactedDevices := req.devices
                 commandPreview }) ∧
      (blockers = [] ↔ MeetsCreateRules req blockDevices mdArrays) := by
  unfold validateMdCreateRequest
  refine ⟨_, _, rfl, ?_⟩
  simp only [List.append_eq_nil_iff, unless_eq_nil_iff, when_eq_nil_iff]
  constructor
  · rintro ⟨⟨⟨⟨⟨⟨⟨⟨⟨hName, hLevel⟩, hChunk⟩, hCounted⟩, hParts⟩, hAssume⟩, hNew⟩, hDevices⟩,
      hNonempty⟩, hEnough⟩
    obtain ⟨hEach, hNodup⟩ := createDeviceBlockers_eq_nil_iff.mp hDevices
    have hNamed : req.name.getD "" ≠ "" := fun hNil => by
      rw [hNil] at hName
      cases hName
    rw [if_neg hNamed, List.append_eq_nil_iff, when_eq_nil_iff, when_eq_nil_iff] at hNew
    rw [if_pos hLevel, List.append_eq_nil_iff, when_eq_nil_iff, when_eq_nil_iff] at hEnough
    refine
      { values := ⟨hName, hLevel, ?_, hNonempty, fun dev hDev => (hEach dev hDev).1⟩
        counted := ?_
        noPartitioning := Bool.not_eq_true _ ▸ hParts
        noAssumption := Bool.not_eq_true _ ▸ hAssume
        newArray := fun arr hArr => ?_
        newDevice := fun dev hDev hPath => ?_
        nodup := hNodup
        eligible := fun dev hDev => (hEach dev hDev).2.2
        enough := Nat.le_of_not_lt hEnough.1
        even := fun hTen => by_contra fun hOdd => hEnough.2 ⟨hTen, hOdd⟩ }
    · cases hKb : req.chunkKb with
      | none => simp [hKb] at hChunk
      | some chunkKb => simpa [hKb] using hChunk
    · intro count hCount
      rw [Option.mem_def] at hCount
      simpa [hCount] using hCounted
    · have hNone := hNew.1
      rw [List.any_eq_true] at hNone
      constructor
      · intro hSame
        exact hNone ⟨arr, hArr, Bool.or_eq_true_iff.mpr (Or.inl (beq_iff_eq.mpr hSame))⟩
      · intro hSame
        exact hNone ⟨arr, hArr, Bool.or_eq_true_iff.mpr (Or.inr (beq_iff_eq.mpr hSame))⟩
    · exact hNew.2 (List.any_eq_true.mpr ⟨dev, hDev, beq_iff_eq.mpr hPath⟩)
  · intro h
    have hDevices : createDeviceBlockers blockDevices [] req.devices = [] :=
      createDeviceBlockers_eq_nil_iff.mpr ⟨fun dev hDev =>
        ⟨h.values.safe dev hDev, List.not_mem_nil, h.eligible dev hDev⟩, h.nodup⟩
    refine ⟨⟨⟨⟨⟨⟨⟨⟨⟨h.values.name, h.values.level⟩, ?_⟩, ?_⟩, ?_⟩, ?_⟩, ?_⟩, hDevices⟩,
      h.values.nonempty⟩, ?_⟩
    · have hKb := h.values.chunkKb
      cases hChunk : req.chunkKb with
      | none =>
        rw [hChunk] at hKb
        exact absurd hKb (by decide)
      | some chunkKb =>
        rw [hChunk] at hKb
        exact if_pos hKb
    · cases hCount : req.raidDevices with
      | none => rfl
      | some count => exact if_pos (h.counted count hCount)
    · rw [h.noPartitioning]
      exact Bool.false_ne_true
    · rw [h.noAssumption]
      exact Bool.false_ne_true
    · split
      · rfl
      · rw [List.append_eq_nil_iff, when_eq_nil_iff, when_eq_nil_iff]
        constructor
        · intro hAny
          obtain ⟨arr, hArr, hSame⟩ := List.any_eq_true.mp hAny
          rcases Bool.or_eq_true_iff.mp hSame with hSame | hSame
          · exact (h.newArray arr hArr).1 (beq_iff_eq.mp hSame)
          · exact (h.newArray arr hArr).2 (beq_iff_eq.mp hSame)
        · intro hAny
          obtain ⟨dev, hDev, hSame⟩ := List.any_eq_true.mp hAny
          exact h.newDevice dev hDev (beq_iff_eq.mp hSame)
    · rw [if_pos h.values.level, List.append_eq_nil_iff, when_eq_nil_iff, when_eq_nil_iff]
      exact ⟨Nat.not_lt_of_le h.enough, fun hOdd => hOdd.2 (h.even hOdd.1)⟩

end

section

variable [CaseMapping] {req : Payload} {blockDevices : List RaidBlockDevice}
  {mdArrays : List MdArray}

theorem sanitizeMdMemberDevices_of_meets (h : MeetsCreateRules req blockDevices mdArrays) :
    sanitizeMdMemberDevices req.devices = .ok req.devices := by
  have hSafe : req.devices.mapM sanitizeDevicePath = .ok (req.devices.map id) :=
    mapM_ok fun dev hDev => if_pos (h.values.safe dev hDev)
  rw [List.map_id] at hSafe
  refine bind_eq_ok.mpr ⟨(), throwIf_eq_ok.mpr h.values.nonempty, ?_⟩
  refine bind_eq_ok.mpr ⟨_, hSafe, bind_eq_ok.mpr ⟨(), throwIf_eq_ok.mpr ?_, rfl⟩⟩
  rw [unique_of_nodup h.nodup]
  exact not_not.mpr rfl

theorem assertMdMemberCount_of_meets (h : MeetsCreateRules req blockDevices mdArrays) :
    assertMdMemberCount (req.level.getD "") req.devices.length = .ok () := by
  refine bind_eq_ok.mpr ⟨(), throwIf_eq_ok.mpr (Nat.not_lt_of_le h.enough), ?_⟩
  exact throwIf_eq_ok.mpr fun hOdd => hOdd.2 (h.even hOdd.1)

theorem normalizeMdCreatePayload_of_meets (h : MeetsCreateRules req blockDevices mdArrays) :
    normalizeMdCreatePayload req.createPayload = .ok req.createPayload := by
  have hCounted : ¬ req.raidDevices.getD req.devices.length ≠ req.devices.length := by
    cases hCount : req.raidDevices with
    | none => exact not_not.mpr rfl
    | some count => exact not_not.mpr (h.counted count hCount)
  refine bind_eq_ok.mpr ⟨_, if_pos h.values.name, ?_⟩
  refine bind_eq_ok.mpr ⟨_, if_pos h.values.level, ?_⟩
  refine bind_eq_ok.mpr ⟨_, sanitizeMdMemberDevices_of_meets h, ?_⟩
  refine bind_eq_ok.mpr ⟨_, assertMdMemberCount_of_meets h, ?_⟩
  refine bind_eq_ok.mpr ⟨(), throwIf_eq_ok.mpr hCounted, ?_⟩
  exact bind_eq_ok.mpr ⟨_, if_pos h.values.chunkKb, rfl⟩

/-- The words that the command of a request is to consist of. -/
def Payload.arguments (req : Payload) : List String :=
  createArguments (req.name.getD "") (req.level.getD "") req.devices (req.chunkKb.getD 0)

theorem buildMdCreateCommand_of_meets (h : MeetsCreateRules req blockDevices mdArrays) :
    buildMdCreateCommand (req.name.getD "") (req.level.getD "") req.devices
      (req.chunkKb.getD 0) =
      (assertRenderedMdCreateCommand (join " " req.arguments) req.devices.length).map
        fun _ => join " " req.arguments := by
  have hBind {α β : Type} {x : Except HttpError α} {a : α} (hx : x = .ok a)
      (f : α → Except HttpError β) : (x >>= f) = f a := by
    rw [hx]
    rfl
  refine (hBind (if_pos h.values.name) _).trans ?_
  refine (hBind (if_pos h.values.level) _).trans ?_
  refine (hBind (sanitizeMdMemberDevices_of_meets h) _).trans ?_
  refine (hBind (if_pos h.values.chunkKb) _).trans ?_
  refine (hBind (assertMdMemberCount_of_meets h) _).trans ?_
  dsimp only
  rw [renderedMdCreateCommand_eq _ _ _ _ h.values.nonempty, Payload.arguments]
  cases assertRenderedMdCreateCommand _ req.devices.length <;> rfl

theorem assertExecutable_of_meets (h : MeetsCreateRules req blockDevices mdArrays) :
    assertExecutableMdCreateCommand (join " " req.arguments) req.devices = .ok () := by
  have hWords : words (join " " req.arguments).toList = req.arguments.map String.toList :=
    words_createArguments h.values
  have hNone : req.devices.find? (fun member =>
      !(words (join " " req.arguments).toList).contains member.toList) = none := by
    apply List.find?_eq_none.mpr
    intro dev hDev
    have hMem : dev ∈ req.arguments := List.mem_append_right _ hDev
    rw [hWords, List.contains_iff_mem.mpr (List.mem_map_of_mem hMem)]
    exact Bool.false_ne_true
  refine bind_eq_ok.mpr ⟨(), throwIf_eq_ok.mpr h.values.nonempty, ?_⟩
  refine bind_eq_ok.mpr ⟨(), throwIf_eq_ok.mpr ?_, ?_⟩
  · exact not_not.mpr (statedMembers_createArguments h.values)
  · rw [hNone]
    rfl

theorem trimString_arguments (h : MeetsCreateRules req blockDevices mdArrays) :
    trimString (join " " req.arguments) = join " " req.arguments := by
  have hWords : ∀ w ∈ req.arguments.map String.toList, IsWord w := by
    intro w hw
    have hRead : words (join " " req.arguments).toList = req.arguments.map String.toList :=
      words_createArguments h.values
    exact isWord_of_mem_words (hRead ▸ hw)
  have hTrim := trim_intercalate hWords
  have hText : (join " " req.arguments).toList =
      [' '].intercalate (req.arguments.map String.toList) := toList_join " " req.arguments
  rw [← hText] at hTrim
  rw [trimString, hTrim, String.ofList_toList]

theorem createCommand_of_meets (h : MeetsCreateRules req blockDevices mdArrays)
    (hMembers : ∀ dev ∈ req.devices, looksLikeArray dev = false) {planned : Option String}
    (hPlanned : planned = none ∨ planned = some (join " " req.arguments)) :
    createCommand req.createPayload planned =
      .ok (req.name.getD "", join " " req.arguments) := by
  have hRendered : assertRenderedMdCreateCommand (join " " req.arguments) req.devices.length =
      .ok () := (assertRendered_eq_ok_iff h.values).mpr hMembers
  have hBuilt := buildMdCreateCommand_of_meets h
  rw [hRendered] at hBuilt
  have hStated : ¬ (occurs raidDevicesLabel (·.all isSpace) (join " " req.arguments).toList ||
      (firstDigits raidDevicesLabel (join " " req.arguments).toList).isNone) = true := by
    have hFound : (firstDigits raidDevicesLabel (join " " req.arguments).toList).isNone =
        false := by
      have hCount : statedMembers (join " " req.arguments) = some req.devices.length :=
        statedMembers_createArguments h.values
      obtain ⟨digits, hDigits, -⟩ := Option.map_eq_some_iff.mp hCount
      rw [hDigits]
      rfl
    have hNotLeftOut : occurs raidDevicesLabel (·.all isSpace) (join " " req.arguments).toList =
        false := occurs_createArguments h.values
    rw [hFound, hNotLeftOut]
    exact Bool.false_ne_true
  refine bind_eq_ok.mpr ⟨_, normalizeMdCreatePayload_of_meets h, ?_⟩
  refine bind_eq_ok.mpr ⟨_, if_pos h.values.name, ?_⟩
  refine bind_eq_ok.mpr ⟨_, hBuilt, ?_⟩
  refine bind_eq_ok.mpr ⟨_, assertExecutable_of_meets h, ?_⟩
  have hDone : (throwIf (occurs raidDevicesLabel (·.all isSpace) (join " " req.arguments).toList ||
      (firstDigits raidDevicesLabel (join " " req.arguments).toList).isNone)
      (⟨400, mdCreateEmptyMembersMessage⟩ : HttpError) >>= fun _ =>
        pure (req.name.getD "", join " " req.arguments)) =
      .ok (req.name.getD "", join " " req.arguments) :=
    bind_eq_ok.mpr ⟨(), throwIf_eq_ok.mpr hStated, rfl⟩
  rcases hPlanned with rfl | rfl
  · exact hDone
  · rw [Option.map_some, trimString_arguments h]
    refine bind_eq_ok.mpr ⟨(), throwIf_eq_ok.mpr (not_not.mpr rfl), ?_⟩
    exact bind_eq_ok.mpr ⟨(), assertExecutable_of_meets h, hDone⟩

/-- The command is built from the request, says what it asks for, and is run when the array is
created, with and without a plan that holds it. -/
structure Agreed (req : Payload) (command : String) : Prop where
  normalized : normalizeMdCreatePayload req.createPayload = .ok req.createPayload
  built : buildMdCreateCommand (req.name.getD "") (req.level.getD "") req.devices
    (req.chunkKb.getD 0) = .ok command
  worded : words command.toList = req.arguments.map String.toList
  accepted : ∀ (planned : Option String) (shell : RemoteShell) (output : RemoteOutput),
    (planned = none ∨ planned = some command) →
    shell (wrapCommand command) = .ok output → checkAssembled "--create" output.stdout = .ok () →
    (createMdArrayFromPlan true shell req.createPayload planned).map MdCommandResult.command =
      .ok command

/-- The validation does not throw, and a request without blockers has its command. -/
def BuildsWhatItAccepts (req : Payload) (blockDevices : List RaidBlockDevice)
    (mdArrays : List MdArray) : Prop :=
  ∃ validation, validateMdCreateRequest req blockDevices mdArrays = .ok validation ∧
    (validation.blockers = [] → ∃ command, validation.commandPreview = some command ∧
      Agreed req command)

theorem createMdArrayFromPlan_of_meets (h : MeetsCreateRules req blockDevices mdArrays)
    (hMembers : ∀ dev ∈ req.devices, looksLikeArray dev = false) {planned : Option String}
    {shell : RemoteShell} {output : RemoteOutput}
    (hPlanned : planned = none ∨ planned = some (join " " req.arguments))
    (hRun : shell (wrapCommand (join " " req.arguments)) = .ok output)
    (hDone : checkAssembled "--create" output.stdout = .ok ()) :
    (createMdArrayFromPlan true shell req.createPayload planned).map MdCommandResult.command =
      .ok (join " " req.arguments) := by
  have hCommand : checked (createCommand req.createPayload planned) =
      .ok (req.name.getD "", join " " req.arguments) :=
    mapError_eq_ok.mpr (createCommand_of_meets h hMembers hPlanned)
  have hResult : createMdArrayFromPlan true shell req.createPayload planned = .ok
      { stdout := firstChars 2000 output.stdout
        command := join " " req.arguments
        persisted := (shell (persistCommand (req.name.getD ""))).toOption.any fun persistOut =>
          occurs "PERSIST_OK".toList (fun _ => true) persistOut.stdout } := by
    refine bind_eq_ok.mpr ⟨(), rfl, bind_eq_ok.mpr ⟨_, hCommand, ?_⟩⟩
    refine bind_eq_ok.mpr ⟨output, mapError_eq_ok.mpr hRun, ?_⟩
    refine bind_eq_ok.mpr ⟨(), ?_, ?_⟩
    · exact hDone
    · exact pure_eq_ok.mpr rfl
  rw [hResult, Except.map]

theorem membersSeen_of_buildsWhatItAccepts (h : MeetsCreateRules req blockDevices mdArrays)
    (hBuilds : BuildsWhatItAccepts req blockDevices mdArrays) :
    ∀ dev ∈ req.devices, looksLikeArray dev = false := by
  obtain ⟨blockers, warnings, hEq, hRules⟩ := exists_blockers req blockDevices mdArrays
  obtain ⟨validation, hValid, -⟩ := hBuilds
  rw [hEq, if_pos (hRules.mpr h), buildMdCreateCommand_of_meets h] at hValid
  obtain ⟨preview, hPreview, -⟩ := bind_eq_ok.mp hValid
  obtain ⟨command, hBuilt, -⟩ := map_eq_ok.mp hPreview
  obtain ⟨_, hRendered, -⟩ := map_eq_ok.mp hBuilt
  exact (assertRendered_eq_ok_iff h.values).mp hRendered

/-- The validation and the command agree unless all rules are met by a request with a member that
the check of the rendered command takes for the array. -/
theorem buildsWhatItAccepts_iff (req : Payload) (blockDevices : List RaidBlockDevice)
    (mdArrays : List MdArray) : BuildsWhatItAccepts req blockDevices mdArrays ↔
      (MeetsCreateRules req blockDevices mdArrays →
        ∀ dev ∈ req.devices, looksLikeArray dev = false) := by
  constructor
  · exact fun hBuilds hMeets => membersSeen_of_buildsWhatItAccepts hMeets hBuilds
  · intro hMembers
    obtain ⟨blockers, warnings, hEq, hRules⟩ := exists_blockers req blockDevices mdArrays
    by_cases hNil : blockers = []
    · have hMeets := hRules.mp hNil
      have hRendered : assertRenderedMdCreateCommand (join " " req.arguments)
          req.devices.length = .ok () :=
        (assertRendered_eq_ok_iff hMeets.values).mpr (hMembers hMeets)
      have hBuilt := buildMdCreateCommand_of_meets hMeets
      rw [hRendered] at hBuilt
      rw [BuildsWhatItAccepts, hEq, if_pos hNil, hBuilt]
      refine ⟨_, rfl, fun _ => ⟨join " " req.arguments, rfl, ?_⟩⟩
      exact
        { normalized := normalizeMdCreatePayload_of_meets hMeets
          built := hBuilt
          worded := words_createArguments hMeets.values
          accepted := fun planned shell output hPlanned hRun hDone =>
            createMdArrayFromPlan_of_meets hMeets (hMembers hMeets) hPlanned hRun hDone }
    · rw [BuildsWhatItAccepts, hEq, if_neg hNil]
      exact ⟨_, rfl, fun hNone => absurd (unique_eq_nil_iff.mp hNone) hNil⟩

end

def arrayPartition (name path : String) : RaidBlockDevice :=
  { name, path, type := .part, partitionTypeCode := some "0xfd" }

/-- Partitions of arrays meet all rules, and their paths are not counted as members. -/
theorem array_partitions_throw :
    ¬ ∀ (host : CaseMapping) (req : Payload) (blockDevices : List RaidBlockDevice)
        (mdArrays : List MdArray), @BuildsWhatItAccepts host req blockDevices mdArrays := by
  intro hAll
  let host : CaseMapping := asciiCaseMapping.toCaseMapping
  have hMeets : MeetsCreateRules
      { name := some "md0", level := some "1", devices := ["/dev/md5p1", "/dev/md6p1"]
        chunkKb := some 64 }
      [arrayPartition "md5p1" "/dev/md5p1", arrayPartition "md6p1" "/dev/md6p1"] [] :=
    { values := ⟨by decide, by decide, by decide, by decide, by decide⟩
      counted := by decide
      noPartitioning := rfl
      noAssumption := rfl
      newArray := by decide
      newDevice := by decide
      nodup := by decide
      eligible := List.forall_mem_cons.mpr
        ⟨⟨arrayPartition "md5p1" "/dev/md5p1", by decide, by decide⟩,
          List.forall_mem_singleton.mpr
            ⟨arrayPartition "md6p1" "/dev/md6p1", by decide, by decide⟩⟩
      enough := by decide
      even := by decide }
  have hSeen := membersSeen_of_buildsWhatItAccepts hMeets (hAll _ _ _ _) "/dev/md5p1"
    List.mem_cons_self
  exact absurd hSeen (by decide)

end EsosWebui.Raid
