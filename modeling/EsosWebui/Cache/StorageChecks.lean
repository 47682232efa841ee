import EsosWebui.Cache.TtlCache

/-! The three cached overviews of a standalone SAN: which of them each storage mutation drops, and
which of them each request is checked against. -/
namespace EsosWebui.Cache

open Js

inductive Overview where
  | raid
  | lvm
  | fs

def overviewCacheKey (sanId : Text) : Overview → Text
  | .raid => "raid-overview-".toList ++ sanId
  | .lvm => "lvm-overview-".toList ++ sanId
  | .fs => "fs-overview-".toList ++ sanId

def overviewTtlMs : Int := 60000

/-- The mutations of one standalone SAN, each by the request that makes it. -/
inductive StorageMutation where
  | createMd | assembleMd | stopMd | preparePartitions | addMdDevice | removeMdDevice | setFaulty
  | zeroSuperblocks | wipeSignatures
  | createHwLd | deleteHwLd | rescanHw
  | pvCreate | pvRemove | vgCreate | vgRemove | lvCreate | lvRemove | bindScst
  | createFs | unmount | createVdisk | deleteVdisk | bindFileio
  | createDevice | deleteDevice

section

variable (sanId : Text)

def invalidateStorageCaches : List Text :=
  [overviewCacheKey sanId .lvm, overviewCacheKey sanId .raid]

def invalidateFsCaches : List Text :=
  [overviewCacheKey sanId .fs, overviewCacheKey sanId .lvm, overviewCacheKey sanId .raid,
    "overview".toList]

/-- Every change of the SCST configuration ends with it. -/
def writeAndReloadScst : List Text := ["overview".toList]

def StorageMutation.invalidates : StorageMutation → List Text
  | .createMd | .assembleMd | .stopMd | .preparePartitions | .addMdDevice | .removeMdDevice
  | .setFaulty | .zeroSuperblocks | .wipeSignatures | .deleteHwLd =>
    [overviewCacheKey sanId .raid]
  | .createHwLd => [overviewCacheKey sanId .raid, overviewCacheKey sanId .lvm]
  | .rescanHw =>
    [overviewCacheKey sanId .raid, overviewCacheKey sanId .lvm, overviewCacheKey sanId .fs]
  | .pvCreate | .pvRemove | .vgCreate | .vgRemove | .lvCreate | .lvRemove =>
    invalidateStorageCaches sanId
  | .bindScst => writeAndReloadScst ++ invalidateStorageCaches sanId
  | .createFs | .unmount | .createVdisk | .deleteVdisk => invalidateFsCaches sanId
  | .bindFileio => writeAndReloadScst ++ invalidateFsCaches sanId
  | .createDevice | .deleteDevice => writeAndReloadScst

end

/-- The requests that are validated against a cached overview. -/
inductive StorageCheck where
  | pvcreate | pvremove | vgcreate | vgremove | lvcreate | lvremove | bindScst
  | createFs | unmount | createVdisk | deleteVdisk | bindFileio
  | zeroSuperblocks | wipeSignatures | createHwLd | deleteHwLd

def StorageCheck.overview : StorageCheck → Overview
  | .pvcreate | .pvremove | .vgcreate | .vgremove | .lvcreate | .lvremove | .bindScst => .lvm
  | .createFs | .unmount | .createVdisk | .deleteVdisk | .bindFileio => .fs
  | .zeroSuperblocks | .wipeSignatures | .createHwLd | .deleteHwLd => .raid

/-- What the server does with the cache between two moments at which it waits. -/
inductive StorageStep (α : Type) where
  | page (o : Overview) (refresh : Bool) (now : Int)
  | check (q : StorageCheck) (now : Int)
  | collected (o : Overview) (fetch : Nat) (outcome : Except Text α) (now : Int)
  | completed (m : StorageMutation)
  | cleared

variable {α : Type}

namespace TtlCache

variable (sanId : Text) (c : TtlCache α)

def invalidateCacheKeys (keys : List Text) : TtlCache α :=
  keys.foldl (fun c key => c.invalidateCache (some key)) c

/-- A page with the overview, or a request that is validated against it. -/
def readOverview (o : Overview) (refresh : Bool) (now : Int) : TtlCache α :=
  let cacheKey := overviewCacheKey sanId o
  let c := if refresh then c.invalidateCache (some cacheKey) else c
  c.withCache cacheKey overviewTtlMs now

def storageStep (x : StorageStep α) (c : TtlCache α) : Except Unit (TtlCache α) :=
  match x with
  | .page o refresh now => .ok (c.readOverview sanId o refresh now)
  | .check q now => .ok (c.readOverview sanId q.overview false now)
  | .collected o i outcome now =>
    match Job.running? c.fetches i with
    | some fetch =>
      if fetch.input.key = overviewCacheKey sanId o then
        .ok (c.fetchEnd i fetch.input outcome now)
      else .error ()
    | none => .error ()
  | .completed m => .ok (c.invalidateCacheKeys (m.invalidates sanId))
  | .cleared => .ok (c.invalidateCache none)

/-- The overview of the last call was collected by a fetch from the number `n` on. -/
def CollectedFrom (n : Nat) (c : TtlCache α) : Prop :=
  ∀ call, c.calls.getLast? = some call → n ≤ call.answer.fetch

end TtlCache

end EsosWebui.Cache

namespace EsosWebui.Cache

open Js TtlCache

variable {α : Type} {sanId : Text} {o : Overview}

private def Overview.initial : Overview → Char
  | .raid => 'r'
  | .lvm => 'l'
  | .fs => 'f'

private theorem head?_overviewCacheKey : (overviewCacheKey sanId o).head? = some o.initial := by
  cases o <;> rfl

theorem overviewCacheKey_injective : Function.Injective (overviewCacheKey sanId) := by
  intro o o' hKey
  have hInitial : some o.initial = some o'.initial := by
    rw [← @head?_overviewCacheKey sanId o, hKey, head?_overviewCacheKey]
  cases o <;> cases o' <;> first | rfl | exact absurd hInitial (by decide)

theorem overviewCacheKey_ne_nil : overviewCacheKey sanId o ≠ [] := by
  cases o <;> exact List.cons_ne_nil _ _

theorem ne_nil_of_mem_invalidates {m : StorageMutation} {key : Text}
    (hMem : key ∈ m.invalidates sanId) : key ≠ [] := by
  have hKeys : ∀ k ∈ m.invalidates sanId, k ≠ [] := by
    cases m <;> simp [StorageMutation.invalidates, invalidateStorageCaches, invalidateFsCaches,
      writeAndReloadScst, overviewCacheKey_ne_nil]
  exact hKeys key hMem

theorem hits_eq_true_iff {key other : Text} (hKey : key ≠ []) :
    hits (some key) other = true ↔ other = key := by
  cases key with
  | nil => exact absurd rfl hKey
  | cons a key => simp [hits]

section

variable {c : TtlCache α}

theorem store_invalidateCacheKeys {keys : List Text} (hKeys : ∀ key ∈ keys, key ≠ [])
    (other : Text) :
    (c.invalidateCacheKeys keys).store other = if other ∈ keys then none else c.store other := by
  induction keys generalizing c with
  | nil => rfl
  | cons key keys ih =>
    have hKey : hits (some key) other = true ↔ other = key :=
      hits_eq_true_iff (hKeys key (List.mem_cons_self ..))
    rw [invalidateCacheKeys, List.foldl_cons, ← invalidateCacheKeys,
      ih fun k hk => hKeys k (List.mem_cons_of_mem _ hk)]
    by_cases hMem : other ∈ keys
    · simp [hMem]
    · simp [hMem, invalidateCache, hKey]

@[simp] theorem store_withCache (key : Text) (ttlMs now : Int) :
    (c.withCache key ttlMs now).store = c.store := by
  unfold TtlCache.withCache
  split <;> rfl

structure Overviews (c : TtlCache α) : Prop where
  ttl : ∀ miss ∈ c.fetches.map Job.input, miss.ttlMs = overviewTtlMs
  stored : ∀ key entry, c.store key = some entry → entry.fetch < c.fetches.length

theorem overviews_empty : Overviews ({} : TtlCache α) :=
  ⟨by simp, by simp⟩

theorem Overviews.invalidateCache (h : Overviews c) (key : Option Text) :
    Overviews (c.invalidateCache key) where
  ttl := by simpa [TtlCache.invalidateCache, Job.map_input_overtake] using h.ttl
  stored := by
    intro other entry hEntry
    have hOld : (if hits key other then none else c.store other) = some entry := hEntry
    split at hOld
    · cases hOld
    · simpa [TtlCache.invalidateCache] using h.stored other entry hOld

theorem Overviews.invalidateCacheKeys (h : Overviews c) (keys : List Text) :
    Overviews (c.invalidateCacheKeys keys) := by
  induction keys generalizing c with
  | nil => exact h
  | cons key keys ih => exact ih (h.invalidateCache (some key))

theorem Overviews.withCache (h : Overviews c) (key : Text) (now : Int) :
    Overviews (c.withCache key overviewTtlMs now) := by
  unfold TtlCache.withCache
  split
  · exact ⟨h.ttl, h.stored⟩
  · refine ⟨?_, fun other entry hEntry => ?_⟩
    · intro miss hMem
      rw [List.map_append, List.mem_append] at hMem
      rcases hMem with hOld | hNew
      · exact h.ttl miss hOld
      · rw [List.mem_singleton.mp hNew]
    · have hLt := h.stored other entry hEntry
      rw [List.length_append]
      omega

theorem Overviews.fetchEnd (h : Overviews c) {i : Nat} {job : Job CacheMiss (Except Text α)}
    (hRunning : Job.running? c.fetches i = some job) (outcome : Except Text α) (now : Int) :
    Overviews (c.fetchEnd i job.input outcome now) := by
  have hLt : i < c.fetches.length :=
    (List.getElem?_eq_some_iff.mp (Job.running?_eq_some.mp hRunning).1).1
  cases outcome with
  | error message =>
    refine ⟨?_, ?_⟩
    · simpa [TtlCache.fetchEnd, Job.map_input_finish] using h.ttl
    · simpa [TtlCache.fetchEnd] using h.stored
  | ok data =>
    refine ⟨?_, fun other entry hEntry => ?_⟩
    · simpa [TtlCache.fetchEnd, Job.map_input_finish] using h.ttl
    · simp only [TtlCache.fetchEnd, Job.length_finish] at hEntry ⊢
      by_cases hKey : other = job.input.key
      · rw [hKey, Function.update_self] at hEntry
        rw [← Option.some.inj hEntry]
        exact hLt
      · rw [Function.update_of_ne hKey] at hEntry
        exact h.stored other entry hEntry

theorem Overviews.readOverview (h : Overviews c) (o : Overview) (refresh : Bool) (now : Int) :
    Overviews (c.readOverview sanId o refresh now) := by
  cases refresh with
  | true => exact (h.invalidateCache _).withCache _ now
  | false => exact h.withCache _ now

theorem Overviews.step (x : StorageStep α) (c c' : TtlCache α)
    (hStep : storageStep sanId x c = .ok c') (h : Overviews c) : Overviews c' := by
  cases x with
  | page o refresh now =>
    obtain rfl := Except.ok.inj hStep
    exact h.readOverview o refresh now
  | check q now =>
    obtain rfl := Except.ok.inj hStep
    exact h.readOverview q.overview false now
  | completed m =>
    obtain rfl := Except.ok.inj hStep
    exact h.invalidateCacheKeys _
  | cleared =>
    obtain rfl := Except.ok.inj hStep
    exact h.invalidateCache none
  | collected o i outcome now =>
    simp only [storageStep] at hStep
    split at hStep
    · rename_i job hRunning
      split at hStep
      · obtain rfl := Except.ok.inj hStep
        exact h.fetchEnd hRunning outcome now
      · cases hStep
    · cases hStep

end

def Drops (sanId : Text) (o : Overview) : StorageStep α → Prop
  | .page o' refresh _ => o' = o ∧ refresh = true
  | .completed m => overviewCacheKey sanId o ∈ m.invalidates sanId
  | .cleared => True
  | _ => False

def Settles (sanId : Text) (o : Overview) (x : StorageStep α) : Prop :=
  Drops sanId o x ∨ ∃ i data now, x = .collected o i (.ok data) now

theorem settles_completed_iff {m : StorageMutation} :
    Settles sanId o (.completed m : StorageStep α) ↔
      overviewCacheKey sanId o ∈ m.invalidates sanId := by
  simp [Settles, Drops]

def LastSettles (sanId : Text) (o : Overview) (steps : List (StorageStep α))
    (x : StorageStep α) : Prop :=
  ∃ earlier later, steps = earlier ++ x :: later ∧ ∀ y ∈ later, ¬ Settles sanId o y

theorem lastSettles_cons {x y : StorageStep α} {steps : List (StorageStep α)} :
    LastSettles sanId o (y :: steps) x ↔
      (y = x ∧ ∀ z ∈ steps, ¬ Settles sanId o z) ∨ LastSettles sanId o steps x := by
  constructor
  · rintro ⟨earlier, later, hSplit, hLater⟩
    cases earlier with
    | nil =>
      obtain ⟨rfl, rfl⟩ := List.cons.inj hSplit
      exact Or.inl ⟨rfl, hLater⟩
    | cons z earlier => exact Or.inr ⟨earlier, later, (List.cons.inj hSplit).2, hLater⟩
  · rintro (⟨rfl, hSteps⟩ | ⟨earlier, later, rfl, hLater⟩)
    · exact ⟨[], steps, rfl, hSteps⟩
    · exact ⟨y :: earlier, later, rfl, hLater⟩

section

variable {x : StorageStep α} {c c' : TtlCache α}

theorem store_eq_none_of_drops (hStep : storageStep sanId x c = .ok c') (hDrops : Drops sanId o x) :
    c'.store (overviewCacheKey sanId o) = none := by
  have hSelf : hits (some (overviewCacheKey sanId o)) (overviewCacheKey sanId o) = true :=
    (hits_eq_true_iff overviewCacheKey_ne_nil).mpr rfl
  cases x with
  | page o' refresh now =>
    obtain ⟨rfl, rfl⟩ := hDrops
    obtain rfl := Except.ok.inj hStep
    simp [readOverview, invalidateCache, hSelf]
  | check q now => cases hDrops
  | collected o' i outcome now => cases hDrops
  | completed m =>
    obtain rfl := Except.ok.inj hStep
    rw [store_invalidateCacheKeys fun key => ne_nil_of_mem_invalidates]
    exact if_pos hDrops
  | cleared =>
    obtain rfl := Except.ok.inj hStep
    rfl

theorem store_collected {i : Nat} {data : α} {now : Int} (hOverviews : Overviews c)
    (hStep : storageStep sanId (.collected o i (.ok data) now) c = .ok c') :
    c'.store (overviewCacheKey sanId o) = some ⟨data, now + overviewTtlMs, i⟩ := by
  simp only [storageStep] at hStep
  split at hStep
  · rename_i job hRunning
    split at hStep
    · rename_i hKey
      obtain rfl := Except.ok.inj hStep
      have hMem := List.mem_of_getElem? (Job.running?_eq_some.mp hRunning).1
      simp [fetchEnd, hKey, hOverviews.ttl _ (List.mem_map_of_mem hMem)]
    · cases hStep
  · cases hStep

theorem store_eq_of_not_settles (hStep : storageStep sanId x c = .ok c')
    (hNot : ¬ Settles sanId o x) :
    c'.store (overviewCacheKey sanId o) = c.store (overviewCacheKey sanId o) := by
  have hOther {o' : Overview} (h : o' ≠ o) : overviewCacheKey sanId o ≠ overviewCacheKey sanId o' :=
    fun hKey => h (overviewCacheKey_injective hKey).symm
  cases x with
  | page o' refresh now =>
    obtain rfl := Except.ok.inj hStep
    cases refresh with
    | false => simp [readOverview]
    | true =>
      have hMiss := hOther fun h => hNot (Or.inl ⟨h, rfl⟩)
      have hNotHit := mt (hits_eq_true_iff overviewCacheKey_ne_nil).mp hMiss
      simp [readOverview, invalidateCache, hNotHit]
  | check q now =>
    obtain rfl := Except.ok.inj hStep
    simp [readOverview]
  | completed m =>
    obtain rfl := Except.ok.inj hStep
    rw [store_invalidateCacheKeys fun key => ne_nil_of_mem_invalidates]
    exact if_neg fun hMem => hNot (Or.inl hMem)
  | cleared => exact absurd (Or.inl trivial) hNot
  | collected o' i outcome now =>
    simp only [storageStep] at hStep
    split at hStep
    · split at hStep
      · rename_i hKey
        obtain rfl := Except.ok.inj hStep
        cases outcome with
        | error message => rfl
        | ok data =>
          have hMiss : overviewCacheKey sanId o ≠ overviewCacheKey sanId o' :=
            hOther fun h => hNot (Or.inr ⟨i, data, now, by rw [h]⟩)
          simp [fetchEnd, hKey, Function.update_of_ne hMiss]
      · cases hStep
    · cases hStep

theorem store_of_run {steps : List (StorageStep α)} {entry : CacheEntry α}
    (hRun : Run (storageStep sanId) (fun _ _ => True) c steps c') (hOverviews : Overviews c) :
    c'.store (overviewCacheKey sanId o) = some entry ↔
      ((∀ x ∈ steps, ¬ Settles sanId o x) ∧ c.store (overviewCacheKey sanId o) = some entry) ∨
        ∃ now, LastSettles sanId o steps (.collected o entry.fetch (.ok entry.data) now) ∧
          entry.expiresAt = now + overviewTtlMs := by
  induction hRun with
  | nil c => simp [LastSettles]
  | @cons c c₁ c' x steps _ hStep hRest ih =>
    rw [ih (hOverviews.step x c c₁ hStep)]
    simp only [lastSettles_cons, List.forall_mem_cons]
    by_cases hSettles : Settles sanId o x
    · rcases hSettles with hDrops | ⟨i, data, now, rfl⟩
      · have hNone := store_eq_none_of_drops hStep hDrops
        have hNot (i : Nat) (data : α) (now : Int) : x ≠ .collected o i (.ok data) now := by
          rintro rfl
          exact hDrops
        simp [hNone, hNot, Settles, hDrops]
      · have hSome := store_collected hOverviews hStep
        obtain ⟨d, e, f⟩ := entry
        have hSettled : Settles sanId o (.collected o i (.ok data) now) :=
          Or.inr ⟨i, data, now, rfl⟩
        simp only [hSome, hSettled, not_true_eq_false, false_and, false_or, Option.some.injEq,
          CacheEntry.mk.injEq, StorageStep.collected.injEq, Except.ok.injEq, true_and]
        constructor
        · rintro (⟨hSteps, rfl, rfl, rfl⟩ | ⟨now', hLast, hExpires⟩)
          · exact ⟨now, Or.inl ⟨⟨rfl, rfl, rfl⟩, hSteps⟩, rfl⟩
          · exact ⟨now', Or.inr hLast, hExpires⟩
        · rintro ⟨now', ⟨⟨rfl, rfl, rfl⟩, hSteps⟩ | hLast, hExpires⟩
          · exact Or.inl ⟨hSteps, rfl, hExpires.symm, rfl⟩
          · exact Or.inr ⟨now', hLast, hExpires⟩
    · have hSame := store_eq_of_not_settles hStep hSettles
      have hNot (i : Nat) (data : α) (now : Int) : x ≠ .collected o i (.ok data) now :=
        fun h => hSettles (Or.inr ⟨i, data, now, h⟩)
      simp [hSame, hNot, hSettles]

end

section

variable {x : StorageStep α} {c c' : TtlCache α} {n : Nat}

theorem length_withCache (key : Text) (ttlMs now : Int) (h : n ≤ c.fetches.length) :
    n ≤ (c.withCache key ttlMs now).fetches.length := by
  unfold TtlCache.withCache
  split
  · exact h
  · rw [List.length_append]
    omega

theorem length_invalidateCache (key : Option Text) :
    (c.invalidateCache key).fetches.length = c.fetches.length := by
  simp [TtlCache.invalidateCache]

theorem length_invalidateCacheKeys (keys : List Text) :
    (c.invalidateCacheKeys keys).fetches.length = c.fetches.length := by
  induction keys generalizing c with
  | nil => rfl
  | cons key keys ih => exact ih.trans (length_invalidateCache (some key))

theorem length_readOverview (o : Overview) (refresh : Bool) (now : Int)
    (h : n ≤ c.fetches.length) : n ≤ (c.readOverview sanId o refresh now).fetches.length := by
  cases refresh with
  | false => exact length_withCache _ _ now h
  | true => exact length_withCache _ _ now (h.trans_eq (length_invalidateCache _).symm)

theorem length_step (x : StorageStep α) (c c' : TtlCache α)
    (hStep : storageStep sanId x c = .ok c') (h : n ≤ c.fetches.length) :
    n ≤ c'.fetches.length := by
  cases x with
  | page o refresh now =>
    obtain rfl := Except.ok.inj hStep
    exact length_readOverview o refresh now h
  | check q now =>
    obtain rfl := Except.ok.inj hStep
    exact length_readOverview q.overview false now h
  | completed m =>
    obtain rfl := Except.ok.inj hStep
    exact h.trans_eq (length_invalidateCacheKeys _).symm
  | cleared =>
    obtain rfl := Except.ok.inj hStep
    exact h.trans_eq (length_invalidateCache none).symm
  | collected o i outcome now =>
    simp only [storageStep] at hStep
    split at hStep
    · split at hStep
      · obtain rfl := Except.ok.inj hStep
        cases outcome <;> exact h.trans_eq Job.length_finish.symm
      · cases hStep
    · cases hStep

theorem collectedFrom_withCache_iff (key : Text) (ttlMs now : Int) (h : n ≤ c.fetches.length) :
    (c.withCache key ttlMs now).CollectedFrom n ↔
      ∀ entry, c.store key = some entry → now < entry.expiresAt → n ≤ entry.fetch := by
  unfold TtlCache.withCache CollectedFrom
  split
  · rename_i entry hEntry
    obtain ⟨hStored, hExpires⟩ := Option.filter_eq_some_iff.mp hEntry
    simp only [List.getLast?_concat, Option.some.injEq, forall_eq', hStored, CacheAnswer.fetch]
    exact ⟨fun hLe _ => hLe, fun hLe => hLe (of_decide_eq_true hExpires)⟩
  · rename_i hNone
    simp only [List.getLast?_concat, Option.some.injEq, forall_eq', CacheAnswer.fetch, h, true_iff]
    intro entry hStored hExpires
    have hExpired := Option.filter_eq_none_iff.mp hNone entry hStored
    exact absurd (decide_eq_true hExpires) hExpired

end

/-- A copy that the mutation has left in the cache, where it still is when it is read. -/
def KeptCopy (sanId : Text) (c : TtlCache α) (m : StorageMutation) (after : List (StorageStep α))
    (o : Overview) (now : Int) : Prop :=
  overviewCacheKey sanId o ∉ m.invalidates sanId ∧ (∀ x ∈ after, ¬ Settles sanId o x) ∧
    ∃ entry, c.store (overviewCacheKey sanId o) = some entry ∧ now < entry.expiresAt

/-- A copy whose collection was under way when the mutation completed, and that was stored after. -/
def LateCopy (sanId : Text) (c : TtlCache α) (after : List (StorageStep α)) (o : Overview)
    (now : Int) : Prop :=
  ∃ i data ended, LastSettles sanId o after (.collected o i (.ok data) ended) ∧
    i < c.fetches.length ∧ now < ended + overviewTtlMs

/-- A request is checked against an overview collected after the mutation, unless a copy from
before was left in the cache or was stored late. -/
theorem check_after_mutation_iff {c c₁ c₂ c₃ : TtlCache α} {before after : List (StorageStep α)}
    {m : StorageMutation} {q : StorageCheck} {now : Int}
    (hBefore : Run (storageStep sanId) (fun _ _ => True) {} before c)
    (hMutation : storageStep sanId (.completed m) c = .ok c₁)
    (hAfter : Run (storageStep sanId) (fun _ _ => True) c₁ after c₂)
    (hCheck : storageStep sanId (.check q now) c₂ = .ok c₃) :
    c₃.CollectedFrom c.fetches.length ↔
      ¬ KeptCopy sanId c m after q.overview now ∧ ¬ LateCopy sanId c after q.overview now := by
  have hOverviews : Overviews c :=
    hBefore.invariant (fun x c c' _ hStep h => h.step x c c' hStep) overviews_empty
  have hRun : Run (storageStep sanId) (fun _ _ => True) c (.completed m :: after) c₂ :=
    .cons trivial hMutation hAfter
  have hLength : c.fetches.length ≤ c₂.fetches.length :=
    hRun.invariant (I := fun c' => c.fetches.length ≤ c'.fetches.length)
      (fun x c c' _ => length_step x c c') (le_refl _)
  obtain rfl := Except.ok.inj hCheck
  rw [readOverview, if_neg Bool.false_ne_true, collectedFrom_withCache_iff _ _ _ hLength]
  simp only [store_of_run hRun hOverviews, lastSettles_cons, List.forall_mem_cons]
  constructor
  · intro h
    constructor
    · rintro ⟨hKept, hNone, entry, hEntry, hExpires⟩
      have hOld := hOverviews.stored _ entry hEntry
      have hNew := h entry (Or.inl ⟨⟨mt settles_completed_iff.mp hKept, hNone⟩, hEntry⟩) hExpires
      omega
    · rintro ⟨i, data, ended, hLast, hOld, hExpires⟩
      have hNew := h ⟨data, ended + overviewTtlMs, i⟩ (Or.inr ⟨ended, Or.inr hLast, rfl⟩) hExpires
      exact absurd hOld (Nat.not_lt.mpr hNew)
  · rintro ⟨hKept, hLate⟩ entry (⟨⟨hNot, hNone⟩, hEntry⟩ | ⟨ended, hLast, hExpiresAt⟩) hExpires
    · have hDropped := mt settles_completed_iff.mpr hNot
      exact absurd ⟨hDropped, hNone, entry, hEntry, hExpires⟩ hKept
    · rcases hLast with ⟨hFirst, -⟩ | hLast
      · cases hFirst
      · by_contra hOld
        rw [hExpiresAt] at hExpires
        exact hLate ⟨entry.fetch, entry.data, ended, hLast, Nat.not_le.mp hOld, hExpires⟩

/-- Every request is checked against an overview collected after the last mutation. -/
def ChecksAreCurrent : Prop :=
  ∀ (α : Type) (sanId : Text) (before after : List (StorageStep α)) (c c₁ c₂ c₃ : TtlCache α)
    (m : StorageMutation) (q : StorageCheck) (now : Int),
    Run (storageStep sanId) (fun _ _ => True) {} before c →
    storageStep sanId (.completed m) c = .ok c₁ →
    Run (storageStep sanId) (fun _ _ => True) c₁ after c₂ → (∀ m', .completed m' ∉ after) →
    storageStep sanId (.check q now) c₂ = .ok c₃ → c₃.CollectedFrom c.fetches.length

private def sanA : Text := ['A']

/-- A file system request had the overview collected, one second later. -/
private def collectedFs : TtlCache Nat :=
  (({} : TtlCache Nat).readOverview sanA .fs false 0).fetchEnd 0
    ⟨overviewCacheKey sanA .fs, overviewTtlMs⟩ (.ok 0) 1000

private def afterCreateMd : TtlCache Nat :=
  collectedFs.invalidateCacheKeys (StorageMutation.invalidates sanA .createMd)

private theorem run_collectedFs : Run (storageStep sanA) (fun _ _ => True) {}
    [.check .createFs 0, .collected .fs 0 (.ok 0) 1000] collectedFs :=
  .cons trivial rfl (.cons trivial rfl (.nil _))

theorem check_after_createMd_iff :
    (afterCreateMd.readOverview sanA .fs false 2000).CollectedFrom collectedFs.fetches.length ↔
      ¬ KeptCopy sanA collectedFs .createMd [] .fs 2000 ∧
        ¬ LateCopy sanA collectedFs [] .fs 2000 :=
  check_after_mutation_iff (q := .createFs) run_collectedFs rfl (.nil afterCreateMd) rfl

/-- The creation of an array leaves the overview of the file systems as it was collected before. -/
theorem createFs_after_createMd_stale : ¬ ChecksAreCurrent := by
  intro h
  have hCurrent := h Nat sanA _ [] collectedFs afterCreateMd afterCreateMd _ .createMd .createFs
    2000 run_collectedFs rfl (.nil _) (by simp) rfl
  exact absurd (hCurrent _ rfl) (by decide)

end EsosWebui.Cache
