import EsosWebui.Raid.MetadataCleanups

/-! Whether a removal of MD metadata that is reported successful was carried out and verified. -/
namespace EsosWebui.Raid

open Js

namespace MetadataCleanup

variable [CaseMapping] {member devPath : String}

def lastProbes (runs : PartitionRuns) (commands : List String) : String → CommandRun :=
  if commands = [] then runs.baseline else runs.after

/-- Each command of a member ended with code 0, and each probe that the node has ran to its end
and showed no MD signature. -/
def ReallyDone (runs : PartitionRuns) (devPath : String) (commands : List String) : Prop :=
  (∀ command ∈ commands, (runs.command command).exitCode = 0) ∧
    ∀ k : MetadataProbe, (k = .blkid → runs.blkidAvailable = true) →
      (lastProbes runs commands (k.command devPath)).Completed ∧
        k.shows (lastProbes runs commands (k.command devPath)).printed = false

/-- A code other than 0 is read for a command, or a signature is seen in a probe's output. -/
def Noticed (runs : PartitionRuns) (devPath : String) (commands : List String) : Prop :=
  (∃ command ∈ commands, (runs.answers devPath).readCode command ≠ 0) ∨
    ∃ k : MetadataProbe, k.detects (lastProbes runs commands (k.command devPath)) = true

/-- A command fails while the code 0 is read for it, or a probe that the node has is lost or
shows a signature that is not seen. -/
def Overlooked (runs : PartitionRuns) (devPath : String) (commands : List String) : Prop :=
  (∃ command ∈ commands, (runs.command command).exitCode ≠ 0 ∧
      (runs.answers devPath).readCode command = 0) ∨
    ∃ k : MetadataProbe, (k = .blkid → runs.blkidAvailable = true) ∧
      (¬(lastProbes runs commands (k.command devPath)).Completed ∨
        k.shows (lastProbes runs commands (k.command devPath)).printed = true ∧
          k.detects (lastProbes runs commands (k.command devPath)) = false)

def nodeAnswers (writeEnabled : Bool) (runs : Nat → PartitionRuns) (members : List String) :
    CleaningAnswers where
  writeEnabled
  partition i := (runs i).answers (memberPath ((members[i]?).getD ""))

theorem reallyDone_iff_of_not_noticed {runs : PartitionRuns} {commands : List String}
    (h : ¬Noticed runs devPath commands) :
    ReallyDone runs devPath commands ↔ ¬Overlooked runs devPath commands := by
  rw [Noticed, not_or] at h
  obtain ⟨hCodes, hProbes⟩ := h
  rw [ReallyDone, Overlooked, not_or]
  apply and_congr
  · constructor
    · rintro hDone ⟨command, hCommand, hFailed, -⟩
      exact hFailed (hDone command hCommand)
    · intro hNone command hCommand
      by_contra hFailed
      have hRead : (runs.answers devPath).readCode command = 0 := by
        by_contra hCode
        exact hCodes ⟨command, hCommand, hCode⟩
      exact hNone ⟨command, hCommand, hFailed, hRead⟩
  · constructor
    · rintro hDone ⟨k, hAvailable, hLost | ⟨hShows, -⟩⟩
      · exact hLost (hDone k hAvailable).1
      · exact Bool.false_ne_true ((hDone k hAvailable).2.symm.trans hShows)
    · intro hNone k hAvailable
      constructor
      · by_contra hLost
        exact hNone ⟨k, hAvailable, Or.inl hLost⟩
      · rw [Bool.eq_false_iff]
        intro hShows
        apply hNone ⟨k, hAvailable, Or.inr ⟨hShows, ?_⟩⟩
        rw [Bool.eq_false_iff]
        exact fun hDetects => hProbes ⟨k, hDetects⟩

theorem not_noticed_nil {cleanup : MetadataCleanup} {runs : PartitionRuns}
    (h : cleanup.sent (runs.answers (memberPath member)) member = .ok []) :
    ¬Noticed runs (memberPath member) [] := by
  cases cleanup with
  | zero =>
    obtain ⟨devPath, -, h⟩ := bind_eq_ok.mp h
    cases pure_eq_ok.mp h
  | wipe selection =>
    obtain ⟨devPath, hPath, h⟩ := bind_eq_ok.mp h
    have hSame : memberPath member = devPath := by
      rw [memberPath, hPath]
      rfl
    rw [hSame] at h ⊢
    dsimp only at h
    split at h
    next hNone =>
      have hBaseline : (runs.answers devPath).baseline.remainingSignatureTypes = [] := by
        rw [WipeSelection.remainingTypes] at hNone
        split at hNone
        · exact hNone
        next hPreset => exact absurd hNone hPreset
      have hUnseen := remainingSignatureTypes_eq_nil_iff.mp hBaseline
      rintro (⟨_, hCommand, -⟩ | ⟨k, hDetects⟩)
      · cases hCommand
      · exact Bool.false_ne_true ((hUnseen k).symm.trans hDetects)
    next hSome =>
      obtain ⟨built, hBuilt, h⟩ := bind_eq_ok.mp h
      exact absurd (List.map_eq_nil_iff.mp (pure_eq_ok.mp h))
        (buildAdvancedCleanupCommands_ne_nil hBuilt)

theorem not_noticed_iff {runs : PartitionRuns} {commands : List String} (hSome : commands ≠ []) :
    ¬Noticed runs devPath commands ↔ Passes (runs.answers devPath) commands := by
  simp only [Noticed, not_or, lastProbes, if_neg hSome, Passes, PartitionRuns.answers,
    mdMetadataRemoved_iff, not_exists, not_and, not_not, Bool.not_eq_true]

theorem partition_nodeAnswers (writeEnabled : Bool) (runs : Nat → PartitionRuns)
    {members : List String} {entry : String × Nat} (h : entry ∈ members.zipIdx) :
    (nodeAnswers writeEnabled runs members).partition entry.2 =
      (runs entry.2).answers (memberPath entry.1) := by
  show (runs entry.2).answers (memberPath ((members[entry.2]?).getD "")) = _
  rw [List.mem_zipIdx_iff_getElem?.mp h, Option.getD_some]

def Accepts (cleanup : MetadataCleanup) (writeEnabled : Bool) (runs : Nat → PartitionRuns)
    (members : List String) : Prop :=
  writeEnabled = true ∧
  (∀ entry ∈ members.zipIdx, ∃ commands,
    cleanup.sent ((runs entry.2).answers (memberPath entry.1)) entry.1 = .ok commands) ∧
  ∃ entry ∈ members.zipIdx, ∃ commands ≠ [],
    cleanup.sent ((runs entry.2).answers (memberPath entry.1)) entry.1 = .ok commands

theorem run_ok_iff_not_noticed {cleanup : MetadataCleanup} {writeEnabled : Bool}
    {runs : Nat → PartitionRuns} {members : List String} :
    (∃ response, cleanup.run (nodeAnswers writeEnabled runs members) members = .ok response) ↔
      Accepts cleanup writeEnabled runs members ∧
      ∀ entry ∈ members.zipIdx, ∀ commands,
        cleanup.sent ((runs entry.2).answers (memberPath entry.1)) entry.1 = .ok commands →
          ¬Noticed (runs entry.2) (memberPath entry.1) commands := by
  rw [run_ok_iff_sent, Accepts]
  constructor
  · rintro ⟨hWrite, hSent, first, hFirst, commands, hCommands, hFirstSent⟩
    rw [partition_nodeAnswers _ _ hFirst] at hFirstSent
    refine ⟨⟨hWrite, ?_, first, hFirst, commands, hCommands, hFirstSent⟩, ?_⟩
    · intro entry hEntry
      obtain ⟨commands, hSent, -⟩ := hSent entry hEntry
      rw [partition_nodeAnswers _ _ hEntry] at hSent
      exact ⟨commands, hSent⟩
    · intro entry hEntry commands hEntrySent
      obtain ⟨same, hSame, hPasses⟩ := hSent entry hEntry
      rw [partition_nodeAnswers _ _ hEntry] at hSame hPasses
      cases hEntrySent.symm.trans hSame
      by_cases hNone : commands = []
      · subst hNone
        exact not_noticed_nil hEntrySent
      · exact (not_noticed_iff hNone).mpr (hPasses hNone)
  · rintro ⟨⟨hWrite, hSent, first, hFirst, commands, hCommands, hFirstSent⟩, hUnseen⟩
    refine ⟨hWrite, ?_, first, hFirst, commands, hCommands, ?_⟩
    · intro entry hEntry
      obtain ⟨commands, hEntrySent⟩ := hSent entry hEntry
      rw [partition_nodeAnswers _ _ hEntry]
      exact ⟨commands, hEntrySent, fun hSome =>
        (not_noticed_iff hSome).mp (hUnseen entry hEntry commands hEntrySent)⟩
    · rw [partition_nodeAnswers _ _ hFirst]
      exact hFirstSent

def lostRun : CommandRun where
  exitCode := 1
  stderr := "SSH: command timeout".toList
  cut := some 0
  rejected := true

/-- `wipefs` fails on the node, and then all probes time out. -/
def failingRuns (_position : Nat) : PartitionRuns where
  command _ :=
    { exitCode := 1, printed := "wipefs: error: /dev/sda1: probing initialization failed".toList }
  baseline _ := lostRun
  after _ := lostRun

def wipeSda1 : MetadataCleanup :=
  .wipe { remainingSignatureTypes := [("/dev/sda1", ["linux_raid_member"])] }

end MetadataCleanup

end EsosWebui.Raid
