import EsosWebui.Js.Arrays
import EsosWebui.Js.OrderedMap

/-! The pool of SSH connections, one manager for each SAN, and the creations that its callers
share. A creation has no `await`: its promise is settled when it is made, and only the callback
that takes it out of the table of creations runs later, as a microtask. -/
namespace EsosWebui.Ssh

open Js

structure PooledManager (γ : Type) where
  sanId : Text
  config : γ
  destroyed : Bool := false

/-- The pool, with every manager that it has started; a manager is known by its number. -/
structure SshPool (γ : Type) where
  managers : List (PooledManager γ) := []
  pool : OrderedMap Text Nat := .empty
  /-- The promises of the creations, as settled: fulfilled with a manager, or rejected. -/
  creating : OrderedMap Text (Option Nat) := .empty
  /-- The callbacks `creating.delete(sanId)` that wait to run. -/
  microtasks : List Text := []

inductive PoolEvent (γ : Type) where
  /-- With the credentials of the SAN, when there are any. -/
  | getOrCreate (sanId : Text) (san : Option γ)
  | get (sanId : Text)
  | remove (sanId : Text)
  | destroyAll
  | microtask

section

variable {γ : Type}

def PooledManager.destroy (manager : PooledManager γ) : PooledManager γ :=
  { manager with destroyed := true }

/-- `mgr.destroy()` for the managers with these numbers. -/
def destroyEach (managers : List (PooledManager γ)) (ids : List Nat) : List (PooledManager γ) :=
  ids.foldl (fun managers id => managers.modify id PooledManager.destroy) managers

namespace SshPool

variable (s : SshPool γ)

def create (sanId : Text) : Option γ → SshPool γ × Option Nat
  | some config =>
    ({ s with
        managers := s.managers ++ [{ sanId, config }]
        pool := s.pool.set sanId s.managers.length }, some s.managers.length)
  | none => (s, none)

/-- The pool after the call, and what the call resolves to; `none` when it rejects. -/
def getOrCreate (sanId : Text) (san : Option γ) : SshPool γ × Option Nat :=
  match s.pool.get sanId with
  | some existing => (s, some existing)
  | none =>
    match s.creating.get sanId with
    | some promise => (s, promise)
    | none =>
      let created := s.create sanId san
      ({ created.1 with
          creating := created.1.creating.set sanId created.2
          microtasks := created.1.microtasks ++ [sanId] }, created.2)

def remove (sanId : Text) : SshPool γ :=
  match s.pool.get sanId with
  | some manager =>
    { s with managers := destroyEach s.managers [manager], pool := s.pool.delete sanId }
  | none => s

def destroyAll : SshPool γ :=
  { s with
    managers := destroyEach s.managers (s.pool.entries.map Prod.snd)
    pool := .empty
    creating := .empty }

/-- The oldest callback runs. -/
def microtask : SshPool γ :=
  match s.microtasks with
  | sanId :: rest => { s with creating := s.creating.delete sanId, microtasks := rest }
  | [] => s

def step : PoolEvent γ → SshPool γ
  | .getOrCreate sanId san => (s.getOrCreate sanId san).1
  | .get _ => s
  | .remove sanId => s.remove sanId
  | .destroyAll => s.destroyAll
  | .microtask => s.microtask

end SshPool

def poolAfter (events : List (PoolEvent γ)) : SshPool γ := events.foldl SshPool.step {}

/-- The manager of this number was started, for this SAN, and not destroyed. -/
def SshPool.Live (s : SshPool γ) (id : Nat) (sanId : Text) : Prop :=
  ∃ config, s.managers[id]? = some ⟨sanId, config, false⟩

variable (events : List (PoolEvent γ))

structure OneLivePerSan : Prop where
  unique : ∀ sofar, sofar <+: events → ∀ sanId i j,
    (poolAfter sofar).Live i sanId → (poolAfter sofar).Live j sanId → i = j
  pooled : ∀ sofar, sofar <+: events → ∀ sanId id,
    (poolAfter sofar).Live id sanId → (poolAfter sofar).pool.get sanId = some id
  /-- What a call resolves to had not been destroyed when the call was made. -/
  resolves : ∀ sofar sanId san, sofar ++ [.getOrCreate sanId san] <+: events →
    ∀ id ∈ ((poolAfter sofar).getOrCreate sanId san).2,
      ∀ manager ∈ (poolAfter sofar).managers[id]?, manager.destroyed = false

/-- A SAN that is out of the pool is not asked for while its fulfilled creation is in the table. -/
def NoStaleCreation : Prop :=
  ∀ sofar sanId san, sofar ++ [.getOrCreate sanId san] <+: events →
    (poolAfter sofar).pool.get sanId = none →
      ∀ id, (poolAfter sofar).creating.get sanId ≠ some (some id)

end

/-- A pool entry is live, a live manager is a pool entry, and what a creation is fulfilled with was
started for its SAN. -/
structure PoolConsistent {γ : Type} (s : SshPool γ) : Prop where
  live : ∀ sanId id, s.pool.get sanId = some id → s.Live id sanId
  pooled : ∀ sanId id, s.Live id sanId → s.pool.get sanId = some id
  created : ∀ sanId id, s.creating.get sanId = some (some id) →
    ∃ manager, s.managers[id]? = some manager ∧ manager.sanId = sanId

section

variable {γ : Type} {s : SshPool γ} {sanId : Text} {san : Option γ} {id : Nat}

theorem destroyEach_getElem? {managers : List (PooledManager γ)} {ids : List Nat} :
    (destroyEach managers ids)[id]? = managers[id]?.map fun manager =>
      if id ∈ ids then manager.destroy else manager := by
  induction ids generalizing managers with
  | nil => simp [destroyEach]
  | cons first ids ih =>
    have hCons : destroyEach managers (first :: ids) =
        destroyEach (managers.modify first PooledManager.destroy) ids := rfl
    rw [hCons, ih, List.getElem?_modify]
    cases managers[id]? with
    | none => rfl
    | some manager =>
      by_cases hFirst : id = first
      · subst hFirst
        by_cases hMem : id ∈ ids <;> simp [hMem, PooledManager.destroy]
      · by_cases hMem : id ∈ ids <;> simp [hFirst, Ne.symm hFirst, hMem]

theorem live_destroyEach {ids : List Nat} {pool : OrderedMap Text Nat}
    {creating : OrderedMap Text (Option Nat)} :
    ({ s with managers := destroyEach s.managers ids, pool, creating } : SshPool γ).Live id sanId ↔
      s.Live id sanId ∧ id ∉ ids := by
  simp only [SshPool.Live, destroyEach_getElem?, Option.map_eq_some_iff]
  constructor
  · rintro ⟨config, manager, hManager, hDestroyed⟩
    by_cases hMem : id ∈ ids
    · rw [if_pos hMem] at hDestroyed
      cases congrArg PooledManager.destroyed hDestroyed
    · rw [if_neg hMem] at hDestroyed
      exact ⟨⟨config, hDestroyed ▸ hManager⟩, hMem⟩
  · rintro ⟨⟨config, hManager⟩, hMem⟩
    exact ⟨config, _, hManager, if_neg hMem⟩

/-- What a creation is fulfilled with outlives its destruction. -/
theorem created_destroyEach {ids : List Nat}
    (h : ∃ manager, s.managers[id]? = some manager ∧ manager.sanId = sanId) :
    ∃ manager, (destroyEach s.managers ids)[id]? = some manager ∧ manager.sanId = sanId := by
  obtain ⟨manager, hManager, hSan⟩ := h
  refine ⟨_, by rw [destroyEach_getElem?, hManager]; rfl, ?_⟩
  split <;> exact hSan

namespace PoolConsistent

theorem init : PoolConsistent ({} : SshPool γ) := by
  refine ⟨fun _ _ h => ?_, fun _ _ h => ?_, fun _ _ h => ?_⟩
  · cases h
  · obtain ⟨config, hManager⟩ := h
    simp at hManager
  · cases h

theorem remove (h : PoolConsistent s) : PoolConsistent (s.remove sanId) := by
  unfold SshPool.remove
  split
  · rename_i manager hPool
    refine ⟨fun other id hGet => ?_, fun other id hLive => ?_, fun other id hGet => ?_⟩
    · by_cases hOther : other = sanId
      · rw [hOther, OrderedMap.get_delete_self] at hGet
        cases hGet
      · rw [OrderedMap.get_delete_of_ne hOther] at hGet
        have hLive := h.live other id hGet
        refine live_destroyEach.mpr ⟨hLive, ?_⟩
        rw [List.mem_singleton]
        rintro rfl
        obtain ⟨config, hManager⟩ := hLive
        obtain ⟨config', hManager'⟩ := h.live sanId _ hPool
        rw [hManager] at hManager'
        exact hOther (congrArg PooledManager.sanId (Option.some.inj hManager'))
    · obtain ⟨hLive, hMem⟩ := live_destroyEach.mp hLive
      have hGet := h.pooled other id hLive
      have hOther : other ≠ sanId := by
        rintro rfl
        rw [hPool] at hGet
        exact hMem (List.mem_singleton.mpr (Option.some.inj hGet).symm)
      rwa [OrderedMap.get_delete_of_ne hOther]
    · exact created_destroyEach (h.created other id hGet)
  · exact h

theorem destroyAll (h : PoolConsistent s) : PoolConsistent s.destroyAll := by
  refine ⟨fun other id hGet => ?_, fun other id hLive => ?_, fun other id hGet => ?_⟩
  · cases hGet
  · obtain ⟨hLive, hMem⟩ := live_destroyEach.mp hLive
    have hEntry := OrderedMap.get_eq_some_iff.mp (h.pooled other id hLive)
    exact absurd (List.mem_map_of_mem hEntry) hMem
  · cases hGet

theorem microtask (h : PoolConsistent s) : PoolConsistent s.microtask := by
  unfold SshPool.microtask
  split
  · rename_i first rest hQueue
    refine ⟨h.live, h.pooled, fun other id hGet => h.created other id ?_⟩
    by_cases hOther : other = first
    · rw [hOther, OrderedMap.get_delete_self] at hGet
      cases hGet
    · rwa [OrderedMap.get_delete_of_ne hOther] at hGet
  · exact h

theorem create (h : PoolConsistent s) (hPool : s.pool.get sanId = none) :
    PoolConsistent (s.create sanId san).1 := by
  cases san with
  | none => exact h
  | some config =>
    refine ⟨fun other id hGet => ?_, fun other id hLive => ?_, fun other id hGet => ?_⟩
    · simp only [SshPool.create, OrderedMap.get_set] at hGet
      split at hGet
      · rename_i hOther
        cases hGet
        exact ⟨config, by simp [SshPool.create, hOther]⟩
      · obtain ⟨config', hManager⟩ := h.live other id hGet
        exact ⟨config', getElem?_concat_eq_some.mpr (Or.inl hManager)⟩
    · obtain ⟨config', hManager⟩ := hLive
      simp only [SshPool.create, OrderedMap.get_set]
      rcases getElem?_concat_eq_some.mp hManager with hOld | ⟨hId, hNew⟩
      · have hGet := h.pooled other id ⟨config', hOld⟩
        have hOther : other ≠ sanId := by
          rintro rfl
          rw [hPool] at hGet
          cases hGet
        rwa [if_neg hOther]
      · cases hNew
        rw [if_pos rfl, hId]
    · obtain ⟨manager, hManager, hSan⟩ := h.created other id hGet
      exact ⟨manager, getElem?_concat_eq_some.mpr (Or.inl hManager), hSan⟩

theorem getOrCreate (h : PoolConsistent s) : PoolConsistent (s.getOrCreate sanId san).1 := by
  unfold SshPool.getOrCreate
  split
  · exact h
  · rename_i hPool
    split
    · exact h
    · have hCreate : PoolConsistent (s.create sanId san).1 := h.create hPool
      refine ⟨hCreate.live, hCreate.pooled, fun other id hGet => ?_⟩
      simp only [OrderedMap.get_set] at hGet
      split at hGet
      · rename_i hOther
        have hPromise := Option.some.inj hGet
        cases san with
        | none => cases hPromise
        | some config =>
          cases hPromise
          exact ⟨⟨sanId, config, false⟩, getElem?_concat_eq_some.mpr (Or.inr ⟨rfl, rfl⟩),
            hOther.symm⟩
      · exact hCreate.created other id hGet

theorem step (h : PoolConsistent s) (e : PoolEvent γ) : PoolConsistent (s.step e) := by
  cases e with
  | getOrCreate sanId san => exact h.getOrCreate
  | get sanId => exact h
  | remove sanId => exact h.remove
  | destroyAll => exact h.destroyAll
  | microtask => exact h.microtask

theorem after (events : List (PoolEvent γ)) : PoolConsistent (poolAfter events) :=
  List.foldlRecOn events SshPool.step init fun _ h e _ => h.step e

theorem resolves_iff (h : PoolConsistent s) :
    (∀ id ∈ (s.getOrCreate sanId san).2, ∀ manager ∈ s.managers[id]?,
        manager.destroyed = false) ↔
      (s.pool.get sanId = none → ∀ id, s.creating.get sanId ≠ some (some id)) := by
  constructor
  · intro hResolves hPool id hCreating
    obtain ⟨manager, hManager, hSan⟩ := h.created sanId id hCreating
    have hOutcome : (s.getOrCreate sanId san).2 = some id := by
      simp [SshPool.getOrCreate, hPool, hCreating]
    have hAlive := hResolves id hOutcome manager hManager
    have hLive : s.Live id sanId := ⟨manager.config, by rw [hManager, ← hSan, ← hAlive]⟩
    rw [h.pooled sanId id hLive] at hPool
    cases hPool
  · intro hFresh id hId manager hManager
    unfold SshPool.getOrCreate at hId
    split at hId
    · rename_i existing hPool
      obtain rfl := Option.some.inj hId
      obtain ⟨config, hLive⟩ := h.live sanId _ hPool
      obtain rfl := Option.some.inj (hLive.symm.trans hManager)
      rfl
    · rename_i hPool
      split at hId
      · rename_i promise hCreating
        obtain rfl : promise = some id := hId
        exact absurd hCreating (hFresh hPool id)
      · cases san with
        | none => cases hId
        | some config =>
          obtain rfl : s.managers.length = id := Option.some.inj hId
          rw [Option.mem_def, List.getElem?_eq_none (Nat.le_refl _)] at hManager
          cases hManager

end PoolConsistent

end

theorem one_live_per_san_iff {γ : Type} (events : List (PoolEvent γ)) :
    OneLivePerSan events ↔ NoStaleCreation events := by
  constructor
  · intro hLaw sofar sanId san hPrefix
    exact (PoolConsistent.after sofar).resolves_iff.mp (hLaw.resolves sofar sanId san hPrefix)
  · intro hFresh
    refine ⟨fun sofar _ sanId i j hI hJ => ?_, fun sofar _ => (PoolConsistent.after sofar).pooled,
      fun sofar sanId san hPrefix =>
        (PoolConsistent.after sofar).resolves_iff.mpr (hFresh sofar sanId san hPrefix)⟩
    have h := PoolConsistent.after sofar
    exact Option.some.inj ((h.pooled sanId i hI).symm.trans (h.pooled sanId j hJ))

/-- A SAN is removed and asked for again before the callback of its creation has run. -/
def removedTooSoon : List (PoolEvent Unit) :=
  [.getOrCreate "san".toList (some ()), .remove "san".toList, .getOrCreate "san".toList (some ())]

theorem removedTooSoon_not_live : ¬ OneLivePerSan removedTooSoon := by
  intro hLaw
  have hAlive := hLaw.resolves (removedTooSoon.take 2) "san".toList (some ())
    (List.prefix_refl removedTooSoon) 0 rfl ⟨"san".toList, (), true⟩ rfl
  cases hAlive

end EsosWebui.Ssh
