import EsosWebui.Js.Text
import Mathlib.Algebra.Order.Field.Basic
import Mathlib.Algebra.Order.Ring.Rat
import Mathlib.Data.List.Pairwise
import Mathlib.Logic.Function.Basic

/-! The throughput history of the statistics: the last snapshots of each key, the rates between
them, and the points that are shown. The rates are exact. -/
namespace EsosWebui.Monitoring

open Js

def maxPoints : Nat := 12

structure SessionSnapshot where
  capturedAt : ℚ
  target : Text
  initiator : Text
  driver : Text
  lunsCount : Nat
  readKb : ℚ
  writeKb : ℚ

structure DeviceSnapshot where
  capturedAt : ℚ
  device : Text
  handler : Text
  readKb : ℚ
  writeKb : ℚ
  readOps : ℚ
  writeOps : ℚ

structure DiskStatSnapshot where
  capturedAt : ℚ
  device : Text
  readsCompleted : ℚ
  sectorsRead : ℚ
  writesCompleted : ℚ
  sectorsWritten : ℚ
  iosInProgress : Nat

structure ThroughputPoint where
  t : ℚ
  readKbps : ℚ
  writeKbps : ℚ

/-- A rate in KB/s; a counter that was reset and a time that does not pass give none. -/
def calcDelta (curr prev dtMs : ℚ) : ℚ :=
  if dtMs ≤ 0 then 0
  else
    let delta := curr - prev
    if delta < 0 then 0 else delta / dtMs * 1000

/-- `Math.round(value)` -/
def mathRound (value : ℚ) : ℤ := (value + 1 / 2).floor

/-- What the three stores differ in. -/
structure SnapshotKind (σ : Type) where
  /-- The fields that the key of a snapshot is made of. -/
  fields : σ → List Text
  capturedAt : σ → ℚ
  readKb : σ → ℚ
  writeKb : σ → ℚ
  readOps : σ → ℚ := fun _ => 0
  writeOps : σ → ℚ := fun _ => 0

/-- What one snapshot gives, before the rates are rounded. -/
structure Measurement (σ : Type) where
  snap : σ
  readKbps : ℚ
  writeKbps : ℚ
  readOps : ℚ
  writeOps : ℚ
  history : List ThroughputPoint

namespace SnapshotKind

variable {σ : Type} (kind : SnapshotKind σ)

def identity (sanId : Text) (snap : σ) : List Text := sanId :: kind.fields snap

def key (sanId : Text) (snap : σ) : Text := ['|'].intercalate (kind.identity sanId snap)

def rateSince (counter : σ → ℚ) (prev : Option σ) (snap : σ) : ℚ :=
  match prev with
  | some prev =>
    calcDelta (counter snap) (counter prev) (kind.capturedAt snap - kind.capturedAt prev)
  | none => 0

def point (prev : Option σ) (snap : σ) : ThroughputPoint :=
  { t := kind.capturedAt snap
    readKbps := kind.rateSince kind.readKb prev snap
    writeKbps := kind.rateSince kind.writeKb prev snap }

def sparkHistory (arr : List σ) : List ThroughputPoint :=
  arr.mapIdx fun i snap => kind.point (if i = 0 then none else arr[i - 1]?) snap

def pushHistory (history : List σ) (snap : σ) : List σ :=
  let history := history ++ [snap]
  if history.length > maxPoints + 1 then history.tail else history

/-- `history.slice(-MAX_POINTS)` -/
def shown (history : List σ) : List σ := history.drop (history.length - maxPoints)

def measure (history : List σ) (snap : σ) : Measurement σ :=
  let prev := history.getLast?
  { snap
    readKbps := kind.rateSince kind.readKb prev snap
    writeKbps := kind.rateSince kind.writeKb prev snap
    readOps := kind.rateSince kind.readOps prev snap
    writeOps := kind.rateSince kind.writeOps prev snap
    history := kind.sparkHistory (shown (pushHistory history snap)) }

def pushSnapshot (store : Text → List σ) (sanId : Text) (snap : σ) :
    (Text → List σ) × Measurement σ :=
  let key := kind.key sanId snap
  let history := store key
  (Function.update store key (pushHistory history snap), kind.measure history snap)

/-- The loop over the snapshots of one call. -/
def pushSnapshots (store : Text → List σ) (sanId : Text) :
    List σ → (Text → List σ) × List (Measurement σ)
  | [] => (store, [])
  | snap :: snapshots =>
    let pushed := kind.pushSnapshot store sanId snap
    let rest := pushSnapshots pushed.1 sanId snapshots
    (rest.1, pushed.2 :: rest.2)

end SnapshotKind

def sessionKind : SnapshotKind SessionSnapshot where
  fields s := [s.driver, s.target, s.initiator]
  capturedAt s := s.capturedAt
  readKb s := s.readKb
  writeKb s := s.writeKb

def deviceKind : SnapshotKind DeviceSnapshot where
  fields d := [d.handler, d.device]
  capturedAt d := d.capturedAt
  readKb d := d.readKb
  writeKb d := d.writeKb
  readOps d := d.readOps
  writeOps d := d.writeOps

def diskStatKind : SnapshotKind DiskStatSnapshot where
  fields d := [d.device]
  capturedAt d := d.capturedAt
  readKb d := d.sectorsRead * (1 / 2)
  writeKb d := d.sectorsWritten * (1 / 2)
  readOps d := d.readsCompleted
  writeOps d := d.writesCompleted

structure SessionThroughput where
  target : Text
  initiator : Text
  lunsCount : Nat
  readKbTotal : ℚ
  writeKbTotal : ℚ
  readKbPerSec : ℤ
  writeKbPerSec : ℤ
  history : List ThroughputPoint

structure DeviceThroughput where
  device : Text
  handler : Text
  readKbTotal : ℚ
  writeKbTotal : ℚ
  readKbPerSec : ℤ
  writeKbPerSec : ℤ
  readOpsPerSec : ℤ
  writeOpsPerSec : ℤ
  history : List ThroughputPoint

structure DiskStatThroughput where
  device : Text
  readKbPerSec : ℤ
  writeKbPerSec : ℤ
  readOpsPerSec : ℤ
  writeOpsPerSec : ℤ
  iosInProgress : Nat
  history : List ThroughputPoint

def sessionKey (s : SessionSnapshot) (sanId : Text) : Text := sessionKind.key sanId s

def deviceKey (d : DeviceSnapshot) (sanId : Text) : Text := deviceKind.key sanId d

def diskKey (d : DiskStatSnapshot) (sanId : Text) : Text := diskStatKind.key sanId d

def defaultSanId : Text := "__default__".toList

def pushSessionSnapshots (store : Text → List SessionSnapshot) (snapshots : List SessionSnapshot)
    (sanId : Option Text) : (Text → List SessionSnapshot) × List SessionThroughput :=
  let pushed := sessionKind.pushSnapshots store (sanId.getD defaultSanId) snapshots
  (pushed.1, pushed.2.map fun m =>
    { target := m.snap.target
      initiator := m.snap.initiator
      lunsCount := m.snap.lunsCount
      readKbTotal := m.snap.readKb
      writeKbTotal := m.snap.writeKb
      readKbPerSec := mathRound m.readKbps
      writeKbPerSec := mathRound m.writeKbps
      history := m.history })

def pushDeviceSnapshots (store : Text → List DeviceSnapshot) (snapshots : List DeviceSnapshot)
    (sanId : Option Text) : (Text → List DeviceSnapshot) × List DeviceThroughput :=
  let pushed := deviceKind.pushSnapshots store (sanId.getD defaultSanId) snapshots
  (pushed.1, pushed.2.map fun m =>
    { device := m.snap.device
      handler := m.snap.handler
      readKbTotal := m.snap.readKb
      writeKbTotal := m.snap.writeKb
      readKbPerSec := mathRound m.readKbps
      writeKbPerSec := mathRound m.writeKbps
      readOpsPerSec := mathRound m.readOps
      writeOpsPerSec := mathRound m.writeOps
      history := m.history })

def pushDiskStatSnapshots (store : Text → List DiskStatSnapshot)
    (snapshots : List DiskStatSnapshot) (sanId : Option Text) :
    (Text → List DiskStatSnapshot) × List DiskStatThroughput :=
  let pushed := diskStatKind.pushSnapshots store (sanId.getD defaultSanId) snapshots
  (pushed.1, pushed.2.map fun m =>
    { device := m.snap.device
      readKbPerSec := mathRound m.readKbps
      writeKbPerSec := mathRound m.writeKbps
      readOpsPerSec := mathRound m.readOps
      writeOpsPerSec := mathRound m.writeOps
      iosInProgress := m.snap.iosInProgress
      history := m.history })

namespace SnapshotKind

variable {σ : Type} (kind : SnapshotKind σ)

def storeAfter (pushes : List (Text × σ)) : Text → List σ :=
  pushes.foldl (fun store push => (kind.pushSnapshot store push.1 push.2).1) fun _ => []

def measured (sofar : List (Text × σ)) (push : Text × σ) : Measurement σ :=
  (kind.pushSnapshot (kind.storeAfter sofar) push.1 push.2).2

/-- The pushes of the same SAN and fields. -/
def ownPushes (push : Text × σ) (pushes : List (Text × σ)) : List (Text × σ) :=
  pushes.filter fun other => kind.identity other.1 other.2 = kind.identity push.1 push.2

/-- The snapshots of the same SAN and fields. -/
def ownSnapshots (push : Text × σ) (pushes : List (Text × σ)) : List σ :=
  (kind.ownPushes push pushes).map Prod.snd

def keySnapshots (key : Text) (pushes : List (Text × σ)) : List σ :=
  (pushes.filter fun push => kind.key push.1 push.2 = key).map Prod.snd

/-- The throughput that a push returns after these ones is what its snapshots say. -/
structure PushConsistent (sofar : List (Text × σ)) (push : Text × σ) : Prop where
  /-- A shown point whose predecessor is among the last `maxPoints + 1` has the rate between the
  two. -/
  carries : ∀ i prev snap, (kind.ownSnapshots push (sofar ++ [push]))[i]? = some prev →
    (kind.ownSnapshots push (sofar ++ [push]))[i + 1]? = some snap →
    (kind.ownSnapshots push (sofar ++ [push])).length ≤ i + (maxPoints + 1) →
    (kind.measured sofar push).history[i + 1 -
      ((kind.ownSnapshots push (sofar ++ [push])).length - maxPoints)]? =
        some (kind.point (some prev) snap)
  newest : ∃ newest, (kind.measured sofar push).history.getLast? = some newest ∧
    newest.readKbps = (kind.measured sofar push).readKbps ∧
    newest.writeKbps = (kind.measured sofar push).writeKbps
  bounded : (kind.measured sofar push).history.length ≤ maxPoints
  inOrder : ((kind.keySnapshots (kind.key push.1 push.2) (sofar ++ [push])).map
      kind.capturedAt).Pairwise (· ≤ ·) →
    ((kind.measured sofar push).history.map ThroughputPoint.t).Pairwise (· ≤ ·)
  nonneg : 0 ≤ (kind.measured sofar push).readKbps ∧ 0 ≤ (kind.measured sofar push).writeKbps ∧
    0 ≤ (kind.measured sofar push).readOps ∧ 0 ≤ (kind.measured sofar push).writeOps ∧
    ∀ p ∈ (kind.measured sofar push).history, 0 ≤ p.readKbps ∧ 0 ≤ p.writeKbps
  /-- Only the pushes of the same SAN and fields count. -/
  independent : kind.measured sofar push = kind.measured (kind.ownPushes push sofar) push

def HistoryConsistent (pushes : List (Text × σ)) : Prop :=
  ∀ sofar push, sofar ++ [push] <+: pushes → kind.PushConsistent sofar push

/-- No two SANs or fields have one key. -/
def KeysDistinct (pushes : List (Text × σ)) : Prop :=
  ∀ p ∈ pushes, ∀ q ∈ pushes, kind.key p.1 p.2 = kind.key q.1 q.2 →
    kind.identity p.1 p.2 = kind.identity q.1 q.2

/-- Nothing is counted between two snapshots, or no time passes. -/
def Idle (prev snap : σ) : Prop :=
  kind.capturedAt snap ≤ kind.capturedAt prev ∨
    (kind.readKb snap ≤ kind.readKb prev ∧ kind.writeKb snap ≤ kind.writeKb prev)

/-- Between a snapshot and the next one nothing is counted, unless fewer than `maxPoints - 1`
follow. -/
def PastIdle (pushes : List (Text × σ)) : Prop :=
  ∀ push ∈ pushes, ∀ i prev snap, (kind.ownSnapshots push pushes)[i]? = some prev →
    (kind.ownSnapshots push pushes)[i + 1]? = some snap →
    i + (maxPoints + 1) ≤ (kind.ownSnapshots push pushes).length → kind.Idle prev snap

end SnapshotKind

section

variable {σ : Type} {kind : SnapshotKind σ}

theorem calcDelta_nonneg (curr prev dtMs : ℚ) : 0 ≤ calcDelta curr prev dtMs := by
  unfold calcDelta
  split
  · exact le_refl 0
  · rename_i hTime
    dsimp only
    split
    · exact le_refl 0
    · rename_i hDelta
      have hRate := div_nonneg (not_lt.mp hDelta) (not_le.mp hTime).le
      exact mul_nonneg hRate (by norm_num)

theorem calcDelta_eq_zero_iff {curr prev dtMs : ℚ} :
    calcDelta curr prev dtMs = 0 ↔ dtMs ≤ 0 ∨ curr ≤ prev := by
  unfold calcDelta
  by_cases hTime : dtMs ≤ 0
  · simp [hTime]
  · rw [if_neg hTime]
    dsimp only
    by_cases hDelta : curr - prev < 0
    · simp [hDelta, (sub_neg.mp hDelta).le]
    · have hNe : dtMs ≠ 0 := (not_le.mp hTime).ne'
      have hPos : curr ≤ prev ↔ curr - prev = 0 := by
        rw [sub_eq_zero]
        exact ⟨fun h => le_antisymm h (sub_nonneg.mp (not_lt.mp hDelta)), fun h => h.le⟩
      simp [hDelta, hTime, hNe, hPos]

theorem rateSince_nonneg (counter : σ → ℚ) (prev : Option σ) (snap : σ) :
    0 ≤ kind.rateSince counter prev snap := by
  cases prev with
  | none => exact le_refl 0
  | some prev => exact calcDelta_nonneg _ _ _

/-- A point without its predecessor is right just where nothing was counted. -/
theorem point_none_eq_iff {prev snap : σ} :
    kind.point none snap = kind.point (some prev) snap ↔ kind.Idle prev snap := by
  simp only [SnapshotKind.point, SnapshotKind.rateSince, ThroughputPoint.mk.injEq, true_and,
    SnapshotKind.Idle]
  rw [eq_comm, calcDelta_eq_zero_iff, eq_comm (a := (0 : ℚ)), calcDelta_eq_zero_iff, sub_nonpos]
  tauto

/-- The snapshots of a key that are kept. -/
def retained (all : List σ) : List σ := all.drop (all.length - (maxPoints + 1))

theorem pushHistory_retained (all : List σ) (snap : σ) :
    SnapshotKind.pushHistory (retained all) snap = retained (all ++ [snap]) := by
  unfold SnapshotKind.pushHistory retained
  by_cases hFew : all.length ≤ maxPoints
  · have hKept : all.length - (maxPoints + 1) = 0 := by omega
    have hNext : (all ++ [snap]).length - (maxPoints + 1) = 0 := by simp; omega
    rw [hKept, hNext]
    simp only [List.drop_zero, List.length_append, List.length_singleton]
    rw [if_neg (by omega)]
  · have hLength : (all.drop (all.length - (maxPoints + 1)) ++ [snap]).length = maxPoints + 2 := by
      simp
      omega
    simp only [hLength]
    rw [if_pos (by omega), List.tail_append_of_ne_nil, List.tail_drop]
    · rw [List.drop_append_of_le_length (by simp)]
      congr 2
      simp
      omega
    · intro hNil
      have := congrArg List.length hNil
      simp at this
      omega

theorem shown_retained (all : List σ) :
    SnapshotKind.shown (retained all) = all.drop (all.length - maxPoints) := by
  unfold SnapshotKind.shown retained
  rw [List.drop_drop, List.length_drop]
  congr 1
  omega

theorem keySnapshots_concat_self (sofar : List (Text × σ)) (push : Text × σ) :
    kind.keySnapshots (kind.key push.1 push.2) (sofar ++ [push]) =
      kind.keySnapshots (kind.key push.1 push.2) sofar ++ [push.2] := by
  simp [SnapshotKind.keySnapshots]

theorem storeAfter_concat (sofar : List (Text × σ)) (push : Text × σ) :
    kind.storeAfter (sofar ++ [push]) =
      Function.update (kind.storeAfter sofar) (kind.key push.1 push.2)
        (SnapshotKind.pushHistory (kind.storeAfter sofar (kind.key push.1 push.2)) push.2) := by
  simp [SnapshotKind.storeAfter, SnapshotKind.pushSnapshot]

theorem storeAfter_eq (pushes : List (Text × σ)) (key : Text) :
    kind.storeAfter pushes key = retained (kind.keySnapshots key pushes) := by
  induction pushes using List.reverseRecOn with
  | nil => rfl
  | append_singleton sofar push ih =>
    rw [storeAfter_concat]
    by_cases hKey : kind.key push.1 push.2 = key
    · subst hKey
      rw [keySnapshots_concat_self, Function.update_self, ih, pushHistory_retained]
    · rw [Function.update_of_ne (Ne.symm hKey), ih]
      simp [SnapshotKind.keySnapshots, hKey]

theorem measured_eq (sofar : List (Text × σ)) (push : Text × σ) :
    kind.measured sofar push =
      kind.measure (retained (kind.keySnapshots (kind.key push.1 push.2) sofar)) push.2 := by
  rw [SnapshotKind.measured, SnapshotKind.pushSnapshot, storeAfter_eq]

theorem history_eq (sofar : List (Text × σ)) (push : Text × σ) :
    (kind.measured sofar push).history =
      kind.sparkHistory ((kind.keySnapshots (kind.key push.1 push.2) (sofar ++ [push])).drop
        ((kind.keySnapshots (kind.key push.1 push.2) (sofar ++ [push])).length - maxPoints)) := by
  rw [measured_eq, keySnapshots_concat_self, SnapshotKind.measure, pushHistory_retained,
    shown_retained]

theorem sparkHistory_getElem? (arr : List σ) (j : Nat) : (kind.sparkHistory arr)[j]? =
    arr[j]?.map fun snap => kind.point (if j = 0 then none else arr[j - 1]?) snap := by
  simp [SnapshotKind.sparkHistory, List.getElem?_mapIdx]

theorem shown_point {all : List σ} {i : Nat} {prev snap : σ} (hPrev : all[i]? = some prev)
    (hSnap : all[i + 1]? = some snap) (hKept : all.length ≤ i + (maxPoints + 1)) :
    (kind.sparkHistory (all.drop (all.length - maxPoints)))[i + 1 - (all.length - maxPoints)]? =
      some (kind.point (if all.length = i + (maxPoints + 1) then none else some prev) snap) := by
  have hLt := (List.getElem?_eq_some_iff.mp hSnap).1
  rw [sparkHistory_getElem?, List.getElem?_drop, List.getElem?_drop]
  have hIndex : all.length - maxPoints + (i + 1 - (all.length - maxPoints)) = i + 1 := by omega
  rw [hIndex, hSnap, Option.map_some]
  by_cases hFirst : all.length = i + (maxPoints + 1)
  · rw [if_pos hFirst, if_pos (by omega)]
  · rw [if_neg hFirst, if_neg (by unfold maxPoints at *; omega)]
    have hBefore : all.length - maxPoints + (i + 1 - (all.length - maxPoints) - 1) = i := by
      unfold maxPoints at *
      omega
    rw [hBefore, hPrev]

theorem getLast?_retained (all : List σ) : (retained all).getLast? = all.getLast? := by
  cases all using List.reverseRecOn with
  | nil => rfl
  | append_singleton init last =>
    rw [retained, List.drop_append_of_le_length (by simp)]
    simp

theorem getLast?_history (sofar : List (Text × σ)) (push : Text × σ) :
    (kind.measured sofar push).history.getLast? =
      some (kind.point (kind.keySnapshots (kind.key push.1 push.2) sofar).getLast? push.2) := by
  rw [history_eq, keySnapshots_concat_self]
  generalize kind.keySnapshots (kind.key push.1 push.2) sofar = all
  rw [List.drop_append_of_le_length (by simp [maxPoints])]
  cases all using List.reverseRecOn with
  | nil => rfl
  | append_singleton init last =>
    rw [List.drop_append_of_le_length (by simp [maxPoints])]
    simp [SnapshotKind.sparkHistory]

theorem length_history_le (sofar : List (Text × σ)) (push : Text × σ) :
    (kind.measured sofar push).history.length ≤ maxPoints := by
  rw [history_eq, SnapshotKind.sparkHistory, List.length_mapIdx, List.length_drop]
  omega

theorem map_t_sparkHistory (arr : List σ) :
    (kind.sparkHistory arr).map ThroughputPoint.t = arr.map kind.capturedAt := by
  refine List.ext_getElem? fun j => ?_
  rw [List.getElem?_map, sparkHistory_getElem?, List.getElem?_map, Option.map_map]
  rfl

theorem nonneg_of_mem_sparkHistory {arr : List σ} {p : ThroughputPoint}
    (h : p ∈ kind.sparkHistory arr) : 0 ≤ p.readKbps ∧ 0 ≤ p.writeKbps := by
  obtain ⟨i, -, rfl⟩ := List.mem_mapIdx.mp h
  exact ⟨rateSince_nonneg _ _ _, rateSince_nonneg _ _ _⟩

theorem key_eq_of_identity_eq {p q : Text × σ}
    (h : kind.identity p.1 p.2 = kind.identity q.1 q.2) :
    kind.key p.1 p.2 = kind.key q.1 q.2 := congrArg ['|'].intercalate h

theorem ownSnapshots_concat_self (sofar : List (Text × σ)) (push : Text × σ) :
    kind.ownSnapshots push (sofar ++ [push]) = kind.ownSnapshots push sofar ++ [push.2] := by
  simp [SnapshotKind.ownSnapshots, SnapshotKind.ownPushes]

theorem keySnapshots_eq_own {pushes sofar : List (Text × σ)} {push : Text × σ}
    (hKeys : kind.KeysDistinct pushes) (hPush : push ∈ pushes) (hSub : sofar ⊆ pushes) :
    kind.keySnapshots (kind.key push.1 push.2) sofar = kind.ownSnapshots push sofar := by
  unfold SnapshotKind.keySnapshots SnapshotKind.ownSnapshots SnapshotKind.ownPushes
  refine congrArg (List.map Prod.snd) (List.filter_congr fun other hOther => ?_)
  exact decide_eq_decide.mpr
    ⟨hKeys other (hSub hOther) push hPush, key_eq_of_identity_eq⟩

theorem keySnapshots_ownPushes (sofar : List (Text × σ)) (push : Text × σ) :
    kind.keySnapshots (kind.key push.1 push.2) (kind.ownPushes push sofar) =
      kind.ownSnapshots push sofar := by
  unfold SnapshotKind.keySnapshots SnapshotKind.ownSnapshots
  rw [List.filter_eq_self.mpr fun other hOther => ?_]
  have hIdentity := (List.mem_filter.mp hOther).2
  exact decide_eq_true (key_eq_of_identity_eq (of_decide_eq_true hIdentity))

theorem pushConsistent_of {sofar : List (Text × σ)} {push : Text × σ}
    (hOwn : kind.keySnapshots (kind.key push.1 push.2) sofar = kind.ownSnapshots push sofar)
    (hIdle : ∀ i prev snap, (kind.ownSnapshots push (sofar ++ [push]))[i]? = some prev →
      (kind.ownSnapshots push (sofar ++ [push]))[i + 1]? = some snap →
      (kind.ownSnapshots push (sofar ++ [push])).length = i + (maxPoints + 1) →
      kind.Idle prev snap) :
    kind.PushConsistent sofar push := by
  have hAll : kind.keySnapshots (kind.key push.1 push.2) (sofar ++ [push]) =
      kind.ownSnapshots push (sofar ++ [push]) := by
    rw [keySnapshots_concat_self, hOwn, ownSnapshots_concat_self]
  constructor
  case carries =>
    intro i prev snap hPrev hSnap hKept
    rw [history_eq, hAll, shown_point hPrev hSnap hKept]
    split
    · rename_i hFirst
      rw [point_none_eq_iff.mpr (hIdle i prev snap hPrev hSnap hFirst)]
    · rfl
  case newest =>
    refine ⟨_, getLast?_history sofar push, ?_⟩
    rw [measured_eq]
    simp only [SnapshotKind.measure, getLast?_retained, SnapshotKind.point, and_self]
  case bounded => exact length_history_le sofar push
  case inOrder =>
    intro hTimes
    rw [history_eq, map_t_sparkHistory]
    exact hTimes.sublist ((List.drop_sublist _ _).map _)
  case nonneg =>
    refine ⟨rateSince_nonneg _ _ _, rateSince_nonneg _ _ _, rateSince_nonneg _ _ _,
      rateSince_nonneg _ _ _, fun p hP => ?_⟩
    rw [history_eq] at hP
    exact nonneg_of_mem_sparkHistory hP
  case independent => rw [measured_eq, measured_eq, keySnapshots_ownPushes, hOwn]

theorem identity_eq_of_independent {sofar : List (Text × σ)} {push other : Text × σ}
    (h : kind.measured sofar push = kind.measured (kind.ownPushes push sofar) push)
    (hSofar : kind.KeysDistinct sofar) (hOther : other ∈ sofar)
    (hKey : kind.key other.1 other.2 = kind.key push.1 push.2) :
    kind.identity other.1 other.2 = kind.identity push.1 push.2 := by
  by_contra hNe
  -- the others with this key have one identity, so the push is the first of its own
  have hNone : kind.ownPushes push sofar = [] := by
    refine List.filter_eq_nil_iff.mpr fun own hOwn => ?_
    intro hIdentity
    have hIdentity := of_decide_eq_true hIdentity
    have hSame := hSofar own hOwn other hOther ((key_eq_of_identity_eq hIdentity).trans hKey.symm)
    exact hNe (hSame.symm.trans hIdentity)
  have hMem : other.2 ∈ kind.keySnapshots (kind.key push.1 push.2) sofar :=
    List.mem_map_of_mem (List.mem_filter.mpr ⟨hOther, decide_eq_true hKey⟩)
  have hLength := congrArg (fun m => m.history.length) h
  simp only [history_eq, SnapshotKind.sparkHistory, List.length_mapIdx, List.length_drop,
    keySnapshots_concat_self, hNone, List.length_append, List.length_singleton] at hLength
  have hPos := List.length_pos_of_mem hMem
  have hNil : (kind.keySnapshots (kind.key push.1 push.2) []).length = 0 := rfl
  unfold maxPoints at hLength
  omega

theorem keysDistinct_of_consistent {pushes : List (Text × σ)}
    (h : kind.HistoryConsistent pushes) : kind.KeysDistinct pushes := by
  induction pushes using List.reverseRecOn with
  | nil => exact fun p hP => absurd hP List.not_mem_nil
  | append_singleton sofar push ih =>
    have hSofar := ih fun before next hPrefix => h before next (hPrefix.trans ⟨[push], rfl⟩)
    have hLast := (h sofar push (List.prefix_refl _)).independent
    intro p hP q hQ hKey
    rw [List.mem_append, List.mem_singleton] at hP hQ
    rcases hP with hP | rfl
    · rcases hQ with hQ | rfl
      · exact hSofar p hP q hQ hKey
      · exact identity_eq_of_independent hLast hSofar hP hKey
    · rcases hQ with hQ | rfl
      · exact (identity_eq_of_independent hLast hSofar hQ hKey.symm).symm
      · rfl

theorem ownPushes_append (push : Text × σ) (first second : List (Text × σ)) :
    kind.ownPushes push (first ++ second) =
      kind.ownPushes push first ++ kind.ownPushes push second := List.filter_append _ _

/-- The moment at which the push of this number among the own ones is made. -/
theorem exists_prefix_of_own {pushes : List (Text × σ)} {push : Text × σ} {n : Nat}
    (h : n < (kind.ownSnapshots push pushes).length) :
    ∃ sofar next, sofar ++ [next] <+: pushes ∧
      kind.identity next.1 next.2 = kind.identity push.1 push.2 ∧
      (kind.ownSnapshots push sofar).length = n := by
  induction pushes using List.reverseRecOn with
  | nil => simp [SnapshotKind.ownSnapshots, SnapshotKind.ownPushes] at h
  | append_singleton sofar last ih =>
    by_cases hBefore : n < (kind.ownSnapshots push sofar).length
    · obtain ⟨before, next, hPrefix, hNext⟩ := ih hBefore
      exact ⟨before, next, hPrefix.trans ⟨[last], rfl⟩, hNext⟩
    · refine ⟨sofar, last, List.prefix_refl _, ?_⟩
      by_cases hOwn : kind.identity last.1 last.2 = kind.identity push.1 push.2
      · refine ⟨hOwn, ?_⟩
        simp [SnapshotKind.ownSnapshots, SnapshotKind.ownPushes, hOwn] at h hBefore ⊢
        omega
      · simp [SnapshotKind.ownSnapshots, SnapshotKind.ownPushes, hOwn] at h hBefore
        omega

theorem ownSnapshots_congr {push next : Text × σ}
    (h : kind.identity next.1 next.2 = kind.identity push.1 push.2) (pushes : List (Text × σ)) :
    kind.ownSnapshots next pushes = kind.ownSnapshots push pushes := by
  unfold SnapshotKind.ownSnapshots SnapshotKind.ownPushes
  rw [h]

theorem ownSnapshots_isPrefix {sofar pushes : List (Text × σ)} (h : sofar <+: pushes)
    (push : Text × σ) : kind.ownSnapshots push sofar <+: kind.ownSnapshots push pushes := by
  obtain ⟨rest, rfl⟩ := h
  rw [SnapshotKind.ownSnapshots, SnapshotKind.ownSnapshots, ownPushes_append, List.map_append]
  exact List.prefix_append _ _

theorem getElem?_ownSnapshots {sofar pushes : List (Text × σ)} (h : sofar <+: pushes)
    {push : Text × σ} {i : Nat} (hLt : i < (kind.ownSnapshots push sofar).length) :
    (kind.ownSnapshots push pushes)[i]? = (kind.ownSnapshots push sofar)[i]? := by
  obtain ⟨rest, hRest⟩ := ownSnapshots_isPrefix h push
  rw [← hRest, List.getElem?_append_left hLt]

theorem idle_of_consistent {sofar : List (Text × σ)} {push : Text × σ}
    (h : kind.PushConsistent sofar push)
    (hOwn : kind.keySnapshots (kind.key push.1 push.2) sofar = kind.ownSnapshots push sofar)
    {i : Nat} {prev snap : σ} (hPrev : (kind.ownSnapshots push (sofar ++ [push]))[i]? = some prev)
    (hSnap : (kind.ownSnapshots push (sofar ++ [push]))[i + 1]? = some snap)
    (hLength : (kind.ownSnapshots push (sofar ++ [push])).length = i + (maxPoints + 1)) :
    kind.Idle prev snap := by
  have hCarries := h.carries i prev snap hPrev hSnap hLength.le
  have hAll : kind.keySnapshots (kind.key push.1 push.2) (sofar ++ [push]) =
      kind.ownSnapshots push (sofar ++ [push]) := by
    rw [keySnapshots_concat_self, hOwn, ownSnapshots_concat_self]
  rw [history_eq, hAll, shown_point hPrev hSnap hLength.le, if_pos hLength] at hCarries
  exact point_none_eq_iff.mp (Option.some.inj hCarries)

theorem consistent_iff (kind : SnapshotKind σ) (pushes : List (Text × σ)) :
    kind.HistoryConsistent pushes ↔ kind.KeysDistinct pushes ∧ kind.PastIdle pushes := by
  have hOwn (hKeys : kind.KeysDistinct pushes) {sofar : List (Text × σ)} {push : Text × σ}
      (hPrefix : sofar ++ [push] <+: pushes) :
      kind.keySnapshots (kind.key push.1 push.2) sofar = kind.ownSnapshots push sofar :=
    keySnapshots_eq_own hKeys (hPrefix.subset (by simp)) fun x hX =>
      hPrefix.subset (List.mem_append_left _ hX)
  constructor
  · intro hLaw
    have hKeys := keysDistinct_of_consistent hLaw
    refine ⟨hKeys, fun push hPush i prev snap hPrev hSnap hMany => ?_⟩
    have hLt : i + maxPoints < (kind.ownSnapshots push pushes).length := by omega
    obtain ⟨sofar, next, hPrefix, hIdentity, hCount⟩ := exists_prefix_of_own hLt
    have hSame := ownSnapshots_congr hIdentity
    have hLength : (kind.ownSnapshots next (sofar ++ [next])).length = i + (maxPoints + 1) := by
      rw [ownSnapshots_concat_self, hSame, List.length_append, hCount, List.length_singleton]
      omega
    rw [← hSame] at hPrev hSnap
    rw [getElem?_ownSnapshots hPrefix (by rw [hLength]; omega)] at hPrev
    rw [getElem?_ownSnapshots hPrefix (by rw [hLength, maxPoints]; omega)] at hSnap
    exact idle_of_consistent (hLaw sofar next hPrefix) (hOwn hKeys hPrefix) hPrev hSnap hLength
  · rintro ⟨hKeys, hIdle⟩ sofar push hPrefix
    refine pushConsistent_of (hOwn hKeys hPrefix) fun i prev snap hPrev hSnap hLength => ?_
    rw [← getElem?_ownSnapshots hPrefix (by rw [hLength]; omega)] at hPrev
    rw [← getElem?_ownSnapshots hPrefix (by rw [hLength, maxPoints]; omega)] at hSnap
    refine hIdle push (hPrefix.subset (by simp)) i prev snap hPrev hSnap ?_
    rw [← hLength]
    exact (ownSnapshots_isPrefix hPrefix push).length_le

end

section

variable {σ : Type} {kind : SnapshotKind σ}

theorem pushSnapshots_eq (sofar : List (Text × σ)) (sanId : Text) (snapshots : List σ) :
    (kind.pushSnapshots (kind.storeAfter sofar) sanId snapshots).1 =
        kind.storeAfter (sofar ++ snapshots.map (Prod.mk sanId)) ∧
      ∀ i, (kind.pushSnapshots (kind.storeAfter sofar) sanId snapshots).2[i]? =
        snapshots[i]?.map fun snap =>
          kind.measured (sofar ++ (snapshots.take i).map (Prod.mk sanId)) (sanId, snap) := by
  induction snapshots generalizing sofar with
  | nil => exact ⟨by simp [SnapshotKind.pushSnapshots], fun i => by rfl⟩
  | cons snap snapshots ih =>
    have hNext := ih (sofar ++ [(sanId, snap)])
    rw [storeAfter_concat] at hNext
    simp only [List.append_assoc, List.singleton_append] at hNext
    refine ⟨hNext.1, fun i => ?_⟩
    cases i with
    | zero =>
      simp only [List.getElem?_cons_zero, List.take_zero, List.map_nil, List.append_nil,
        Option.map_some, SnapshotKind.pushSnapshots]
      rfl
    | succ i => exact hNext.2 i

end

theorem history_consistent_iff (sessions : List (Text × SessionSnapshot))
    (devices : List (Text × DeviceSnapshot)) (disks : List (Text × DiskStatSnapshot)) :
    (sessionKind.HistoryConsistent sessions ↔
      sessionKind.KeysDistinct sessions ∧ sessionKind.PastIdle sessions) ∧
    (deviceKind.HistoryConsistent devices ↔
      deviceKind.KeysDistinct devices ∧ deviceKind.PastIdle devices) ∧
    (diskStatKind.HistoryConsistent disks ↔
      diskStatKind.KeysDistinct disks ∧ diskStatKind.PastIdle disks) :=
  ⟨consistent_iff _ _, consistent_iff _ _, consistent_iff _ _⟩

/-- A session that reads steadily, every ten seconds, for `maxPoints + 1` snapshots. -/
def steadySession : List (Text × SessionSnapshot) :=
  (List.range (maxPoints + 1)).map fun n =>
    ("san".toList,
      { capturedAt := 10000 * n
        target := ['t']
        initiator := ['i']
        driver := ['d']
        lunsCount := 1
        readKb := 100 * n
        writeKb := 0 })

/-- Its oldest shown point has no rate, although the snapshot before is kept. -/
theorem steadySession_not_consistent : ¬ sessionKind.HistoryConsistent steadySession := by
  rw [consistent_iff]
  rintro ⟨-, hIdle⟩
  have hFirst := hIdle _ (List.mem_cons_self ..) 0 _ _ rfl rfl (by decide)
  revert hFirst
  norm_num [SnapshotKind.Idle, sessionKind]

end EsosWebui.Monitoring
