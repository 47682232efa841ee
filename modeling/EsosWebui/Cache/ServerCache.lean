import EsosWebui.Cache.TtlCache

/-! The server cache: envelopes, fetches in flight and stale values, with its calls, the ends of
its fetches and its invalidations in any order. The numbers of fetches are kept by the model
only. -/
namespace EsosWebui.Cache

open Js

inductive CacheSource where
  | live
  | cache
  | stale

structure CacheFetchMeta where
  source : CacheSource
  fetchedAt : Int
  error : Option Text := none

/-- What a caller receives, with the number of the fetch that the value comes from. -/
structure CachedResult (α : Type) where
  value : α
  info : CacheFetchMeta
  fetch : Nat

structure CacheEnvelope (α : Type) where
  data : α
  fetchedAt : Int
  expiresAt : Int
  staleUntil : Int
  fetch : Nat

def defaultStaleGraceMs : Int := 7 * 24 * 60 * 60 * 1000

structure CachedFetchOptions where
  ttlMs : Int
  staleGraceMs : Int := defaultStaleGraceMs
  forceRefresh : Bool := false
  staleIfError : Bool := true

structure FetchInput where
  key : Text
  options : CachedFetchOptions
  now : Int

inductive FetchAnswer (α : Type) where
  | resolved (result : CachedResult α)
  /-- The promise of the fetch of this number. -/
  | promise (fetch : Nat)

structure FetchCall (α : Type) where
  key : Text
  answer : FetchAnswer α

structure ServerCache (α : Type) where
  envelopes : Text → Option (CacheEnvelope α) := fun _ => none
  inFlight : Text → Option Nat := fun _ => none
  fetches : List (Job FetchInput (Except Text (CachedResult α))) := []
  calls : List (FetchCall α) := []

inductive ServerCacheStep (α : Type) where
  | call (key : Text) (options : CachedFetchOptions) (now : Int)
  | fetchEnd (fetch : Nat) (outcome : Except Text α) (now : Int)
  | invalidate (key : Text)
  | invalidateAll

variable {α : Type}

namespace CacheEnvelope

def hit (e : CacheEnvelope α) : CachedResult α :=
  { value := e.data, info := { source := .cache, fetchedAt := e.fetchedAt }, fetch := e.fetch }

def staleHit (e : CacheEnvelope α) (error : Text) : CachedResult α :=
  { value := e.data
    info := { source := .stale, fetchedAt := e.fetchedAt, error := some error }
    fetch := e.fetch }

end CacheEnvelope

namespace ServerCache

variable (c : ServerCache α)

def unexpired? (key : Text) (options : CachedFetchOptions) (now : Int) :
    Option (CacheEnvelope α) :=
  if options.forceRefresh then none else (c.envelopes key).filter (now < ·.expiresAt)

def answered (key : Text) (answer : FetchAnswer α) : ServerCache α :=
  { c with calls := c.calls ++ [⟨key, answer⟩] }

def started (key : Text) (options : CachedFetchOptions) (now : Int) : ServerCache α :=
  { c with
    inFlight := Function.update c.inFlight key (some c.fetches.length)
    fetches := c.fetches ++ [⟨⟨key, options, now⟩, none, false⟩] }

/-- A call up to its first `await`. -/
def cachedFetch (key : Text) (options : CachedFetchOptions) (now : Int) : ServerCache α :=
  match c.unexpired? key options now with
  | some existing => c.answered key (.resolved existing.hit)
  | none =>
    match c.inFlight key with
    | some i => c.answered key (.promise i)
    | none => (c.started key options now).answered key (.promise c.fetches.length)

def fetchResult (i : Nat) (input : FetchInput) (outcome : Except Text α) (now : Int) :
    Except Text (CachedResult α) :=
  match outcome with
  | .ok data =>
    .ok { value := data, info := { source := .live, fetchedAt := now }, fetch := i }
  | .error message =>
    match (c.envelopes input.key).filter (input.now < ·.staleUntil) with
    | some prev =>
      if input.options.staleIfError then .ok (prev.staleHit message) else .error message
    | none => .error message

def fetchEnd (i : Nat) (input : FetchInput) (outcome : Except Text α) (now : Int) :
    ServerCache α :=
  { c with
    envelopes := match outcome with
      | .ok data =>
        Function.update c.envelopes input.key <| some
          { data
            fetchedAt := now
            expiresAt := now + input.options.ttlMs
            staleUntil := now + input.options.staleGraceMs
            fetch := i }
      | .error _ => c.envelopes
    inFlight := Function.update c.inFlight input.key none
    fetches := Job.finish c.fetches i (c.fetchResult i input outcome now) }

def delete (hit : Text → Bool) : ServerCache α :=
  { c with
    envelopes := fun key => if hit key then none else c.envelopes key
    inFlight := fun key => if hit key then none else c.inFlight key
    fetches := Job.overtake c.fetches fun input => hit input.key }

def invalidateServerCacheKey (key : Text) : ServerCache α := c.delete (· == key)

def invalidateServerCache : ServerCache α := c.delete fun _ => true

def step (x : ServerCacheStep α) (c : ServerCache α) : Except Unit (ServerCache α) :=
  match x with
  | .call key options now => .ok (c.cachedFetch key options now)
  | .fetchEnd i outcome now =>
    match Job.running? c.fetches i with
    | some fetch => .ok (c.fetchEnd i fetch.input outcome now)
    | none => .error ()
  | .invalidate key => .ok (c.invalidateServerCacheKey key)
  | .invalidateAll => .ok c.invalidateServerCache

inductive Returns (i : Nat) (key : Text) (result : CachedResult α) : Prop
  | resolved (hCall : c.calls[i]? = some ⟨key, .resolved result⟩)
  | fetched {j : Nat} {input : FetchInput} (hCall : c.calls[i]? = some ⟨key, .promise j⟩)
      (hEnded : Job.Ended c.fetches j input (.ok result))

/-- A fetch that an invalidation has overtaken fails, and no newer one of its key is in flight. -/
def OvertakenIsLast (x : ServerCacheStep α) (c : ServerCache α) : Prop :=
  ∀ i outcome now, x = .fetchEnd i outcome now →
    ∀ fetch, Job.running? c.fetches i = some fetch → fetch.overtaken = true →
      outcome.isOk = false ∧ c.inFlight fetch.input.key = none

end ServerCache

structure InFlight (c : ServerCache α) : Prop where
  flying : ∀ i input, Job.Current c.fetches i input → c.inFlight input.key = some i
  current : ∀ key i, c.inFlight key = some i →
    ∃ input, Job.Current c.fetches i input ∧ input.key = key

theorem InFlight.unique {c : ServerCache α} (h : InFlight c) {i j : Nat} {input input' : FetchInput}
    (hi : Job.Current c.fetches i input) (hj : Job.Current c.fetches j input')
    (hKey : input.key = input'.key) : i = j := by
  have hFlying := h.flying i input hi
  rw [hKey, h.flying j input' hj] at hFlying
  exact (Option.some.inj hFlying).symm

variable {input : FetchInput} {i : Nat}

section

variable {c : ServerCache α}

theorem current_delete {hit : Text → Bool} :
    Job.Current (c.delete hit).fetches i input ↔
      Job.Current c.fetches i input ∧ hit input.key = false := by
  simp only [ServerCache.delete, Job.current_overtake]

theorem ended_delete {hit : Text → Bool} {result : Except Text (CachedResult α)} :
    Job.Ended (c.delete hit).fetches i input result ↔ Job.Ended c.fetches i input result := by
  simp only [ServerCache.delete, Job.ended_overtake]

theorem inFlight_empty : InFlight ({} : ServerCache α) where
  flying := by simp [Job.Current]
  current := by simp

theorem InFlight.answered (h : InFlight c) (key : Text) (answer : FetchAnswer α) :
    InFlight (c.answered key answer) :=
  ⟨h.flying, h.current⟩

theorem InFlight.started (h : InFlight c) {key : Text} (hNone : c.inFlight key = none)
    (options : CachedFetchOptions) (now : Int) : InFlight (c.started key options now) := by
  constructor
  · intro i input hCurrent
    show Function.update c.inFlight key (some c.fetches.length) input.key = some i
    rcases Job.current_start.mp hCurrent with hOld | ⟨rfl, rfl⟩
    · have hOther : input.key ≠ key := by
        intro hKey
        rw [← hKey, h.flying i input hOld] at hNone
        cases hNone
      rw [Function.update_of_ne hOther]
      exact h.flying i input hOld
    · exact Function.update_self ..
  · intro other i hFlying
    have hUpdate : Function.update c.inFlight key (some c.fetches.length) other = some i := hFlying
    by_cases hKey : other = key
    · rw [hKey, Function.update_self] at hUpdate
      obtain rfl := Option.some.inj hUpdate
      exact ⟨_, Job.current_start.mpr (Or.inr ⟨rfl, rfl⟩), hKey.symm⟩
    · rw [Function.update_of_ne hKey] at hUpdate
      obtain ⟨input, hCurrent, hInput⟩ := h.current other i hUpdate
      exact ⟨input, Job.current_start.mpr (Or.inl hCurrent), hInput⟩

theorem InFlight.cachedFetch (h : InFlight c) (key : Text) (options : CachedFetchOptions)
    (now : Int) : InFlight (c.cachedFetch key options now) := by
  unfold ServerCache.cachedFetch
  split
  · exact h.answered key _
  · split
    · exact h.answered key _
    · rename_i hNone
      exact (h.started hNone options now).answered key _

theorem InFlight.fetchEnd (h : InFlight c) {fetch : Job FetchInput (Except Text (CachedResult α))}
    (hRunning : Job.running? c.fetches i = some fetch)
    (hLast : fetch.overtaken = true → c.inFlight fetch.input.key = none) (outcome : Except Text α)
    (now : Int) : InFlight (c.fetchEnd i fetch.input outcome now) := by
  have hOnly (j : Nat) (hj : c.inFlight fetch.input.key = some j) : j = i := by
    cases hOvertaken : fetch.overtaken with
    | true => cases (hLast hOvertaken).symm.trans hj
    | false =>
      have hi := h.flying i _ (Job.current_of_running hRunning hOvertaken)
      exact Option.some.inj (hj.symm.trans hi)
  constructor
  · intro j input hCurrent
    obtain ⟨hNe, hOld⟩ := Job.current_finish.mp hCurrent
    have hOther : input.key ≠ fetch.input.key := by
      intro hKey
      exact hNe (hOnly j (hKey ▸ h.flying j input hOld))
    show Function.update c.inFlight fetch.input.key none input.key = some j
    rw [Function.update_of_ne hOther]
    exact h.flying j input hOld
  · intro key j hFlying
    have hUpdate : Function.update c.inFlight fetch.input.key none key = some j := hFlying
    by_cases hKey : key = fetch.input.key
    · rw [hKey, Function.update_self] at hUpdate
      cases hUpdate
    · rw [Function.update_of_ne hKey] at hUpdate
      obtain ⟨input, hCurrent, hInput⟩ := h.current key j hUpdate
      refine ⟨input, Job.current_finish.mpr ⟨?_, hCurrent⟩, hInput⟩
      rintro rfl
      have hSame := (Job.running?_eq_some.mp hRunning).1.symm.trans hCurrent
      exact hKey (by rw [← hInput, Option.some.inj hSame])

theorem InFlight.delete (h : InFlight c) (hit : Text → Bool) : InFlight (c.delete hit) := by
  constructor
  · intro i input hCurrent
    obtain ⟨hOld, hMiss⟩ := current_delete.mp hCurrent
    show (if hit input.key then none else c.inFlight input.key) = some i
    rw [hMiss]
    exact h.flying i input hOld
  · intro key i hFlying
    have hKept : (if hit key then none else c.inFlight key) = some i := hFlying
    split at hKept
    · cases hKept
    · rename_i hMiss
      obtain ⟨input, hCurrent, hInput⟩ := h.current key i hKept
      exact ⟨input, current_delete.mpr ⟨hCurrent, by rw [hInput]; simpa using hMiss⟩, hInput⟩

/-- What is in flight stays so as long as no overtaken fetch takes out a newer one. -/
theorem InFlight.step (x : ServerCacheStep α) (c c' : ServerCache α)
    (hLast : ServerCache.OvertakenIsLast x c) (hStep : ServerCache.step x c = .ok c')
    (h : InFlight c) : InFlight c' := by
  cases x with
  | call key options now =>
    obtain rfl := Except.ok.inj hStep
    exact h.cachedFetch key options now
  | invalidate key =>
    obtain rfl := Except.ok.inj hStep
    exact h.delete _
  | invalidateAll =>
    obtain rfl := Except.ok.inj hStep
    exact h.delete _
  | fetchEnd i outcome now =>
    simp only [ServerCache.step] at hStep
    split at hStep
    · rename_i fetch hRunning
      obtain rfl := Except.ok.inj hStep
      exact h.fetchEnd hRunning
        (fun hOvertaken => (hLast i _ _ rfl fetch hRunning hOvertaken).2) ..
    · cases hStep

/-- Whoever calls while a fetch runs waits for it, unless a stored value answers the call. -/
theorem InFlight.promise_iff (h : InFlight c) (hCurrent : Job.Current c.fetches i input)
    (options : CachedFetchOptions) (now : Int) :
    (c.cachedFetch input.key options now).calls[c.calls.length]? =
        some ⟨input.key, .promise i⟩ ↔ c.unexpired? input.key options now = none := by
  unfold ServerCache.cachedFetch
  cases hStored : c.unexpired? input.key options now with
  | some existing => simp [ServerCache.answered]
  | none => simp [ServerCache.answered, h.flying i input hCurrent]

end

/-- From the call `m` on, everything for this key was fetched from the fetch `n` on. -/
structure ServedFrom (key : Text) (n m : Nat) (c : ServerCache α) : Prop where
  fetches : n ≤ c.fetches.length
  calls : m ≤ c.calls.length
  stored : ∀ e, c.envelopes key = some e → n ≤ e.fetch
  current : ∀ i input, Job.Current c.fetches i input → input.key = key → n ≤ i
  flying : ∀ i, c.inFlight key = some i → n ≤ i
  ended : ∀ i input result, Job.Ended c.fetches i input (.ok result) → input.key = key →
    n ≤ i → n ≤ result.fetch
  resolved : ∀ i result, m ≤ i → c.calls[i]? = some ⟨key, .resolved result⟩ → n ≤ result.fetch
  promised : ∀ i j, m ≤ i → c.calls[i]? = some ⟨key, .promise j⟩ →
    n ≤ j ∧ ∃ fetch, c.fetches[j]? = some fetch ∧ fetch.input.key = key

variable {c : ServerCache α} {key : Text} {n m : Nat}

theorem servedFrom_delete {hit : Text → Bool} (hHit : hit key) :
    ServedFrom key c.fetches.length c.calls.length (c.delete hit) where
  fetches := by simp [ServerCache.delete]
  calls := le_refl _
  stored := by simp [ServerCache.delete, hHit]
  current := by
    intro i input hCurrent hKey
    have hMiss := (current_delete.mp hCurrent).2
    rw [hKey, hHit] at hMiss
    cases hMiss
  flying := by simp [ServerCache.delete, hHit]
  ended := by
    intro i input result hEnded _ hLe
    obtain ⟨_, hGet⟩ := ended_delete.mp hEnded
    have hLt : i < c.fetches.length := (List.getElem?_eq_some_iff.mp hGet).1
    omega
  resolved := by
    intro i result hLe hCall
    have hLt : i < c.calls.length := (List.getElem?_eq_some_iff.mp hCall).1
    omega
  promised := by
    intro i j hLe hCall
    have hLt : i < c.calls.length := (List.getElem?_eq_some_iff.mp hCall).1
    omega

theorem le_fetch_of_fetchResult {outcome : Except Text α} {now : Int} {result : CachedResult α}
    (hStored : ∀ e, c.envelopes input.key = some e → n ≤ e.fetch) (hFrom : n ≤ i)
    (hResult : c.fetchResult i input outcome now = .ok result) : n ≤ result.fetch := by
  unfold ServerCache.fetchResult at hResult
  cases outcome with
  | ok data =>
    obtain rfl := Except.ok.inj hResult
    exact hFrom
  | error message =>
    dsimp only at hResult
    split at hResult
    · rename_i prev hPrev
      split at hResult
      · obtain rfl := Except.ok.inj hResult
        exact hStored prev (Option.filter_eq_some_iff.mp hPrev).1
      · cases hResult
    · cases hResult

theorem ServedFrom.answered (h : ServedFrom key n m c) {other : Text} {answer : FetchAnswer α}
    (hResolved : ∀ result, answer = .resolved result → other = key → n ≤ result.fetch)
    (hPromise : ∀ j, answer = .promise j → other = key →
      n ≤ j ∧ ∃ fetch, c.fetches[j]? = some fetch ∧ fetch.input.key = key) :
    ServedFrom key n m (c.answered other answer) := by
  refine { h with calls := ?_, resolved := ?_, promised := ?_ }
  · simpa [ServerCache.answered] using Nat.le_succ_of_le h.calls
  · intro i result hLe hCall
    rcases getElem?_concat_eq_some.mp hCall with hOld | ⟨-, hNew⟩
    · exact h.resolved i result hLe hOld
    · injection hNew with hKey hAnswer
      exact hResolved result hAnswer hKey
  · intro i j hLe hCall
    rcases getElem?_concat_eq_some.mp hCall with hOld | ⟨-, hNew⟩
    · exact h.promised i j hLe hOld
    · injection hNew with hKey hAnswer
      exact hPromise j hAnswer hKey

theorem ServedFrom.started (h : ServedFrom key n m c) (other : Text)
    (options : CachedFetchOptions) (now : Int) :
    ServedFrom key n m (c.started other options now) where
  fetches := by simpa [ServerCache.started] using Nat.le_succ_of_le h.fetches
  calls := h.calls
  stored := h.stored
  current := by
    intro i input hCurrent hKey
    rcases Job.current_start.mp hCurrent with hOld | ⟨rfl, -⟩
    · exact h.current i input hOld hKey
    · exact h.fetches
  flying := by
    intro i hFlying
    have hUpdate : Function.update c.inFlight other (some c.fetches.length) key = some i := hFlying
    by_cases hKey : key = other
    · rw [hKey, Function.update_self] at hUpdate
      obtain rfl := Option.some.inj hUpdate
      exact h.fetches
    · rw [Function.update_of_ne hKey] at hUpdate
      exact h.flying i hUpdate
  ended := by
    intro i input result hEnded
    exact h.ended i input result (Job.ended_start.mp hEnded)
  resolved := h.resolved
  promised := by
    intro i j hLe hCall
    obtain ⟨hFrom, fetch, hGet, hKey⟩ := h.promised i j hLe hCall
    exact ⟨hFrom, fetch, getElem?_concat_eq_some.mpr (Or.inl hGet), hKey⟩

theorem ServedFrom.cachedFetch (h : ServedFrom key n m c) (hFlying : InFlight c) (other : Text)
    (options : CachedFetchOptions) (now : Int) :
    ServedFrom key n m (c.cachedFetch other options now) := by
  unfold ServerCache.cachedFetch
  split
  · rename_i existing hExisting
    refine h.answered ?_ (by simp)
    rintro _ hResult rfl
    obtain rfl := FetchAnswer.resolved.inj hResult
    refine h.stored existing ?_
    unfold ServerCache.unexpired? at hExisting
    split at hExisting
    · cases hExisting
    · exact (Option.filter_eq_some_iff.mp hExisting).1
  · split
    · rename_i i hSome
      refine h.answered (by simp) ?_
      rintro _ hPromise rfl
      obtain rfl := FetchAnswer.promise.inj hPromise
      obtain ⟨input, hCurrent, hKey⟩ := hFlying.current other i hSome
      exact ⟨h.flying i hSome, _, hCurrent, hKey⟩
    · refine (h.started other options now).answered (by simp) ?_
      rintro _ hPromise rfl
      obtain rfl := FetchAnswer.promise.inj hPromise
      exact ⟨h.fetches, _, getElem?_concat_eq_some.mpr (Or.inr ⟨rfl, rfl⟩), rfl⟩

theorem ServedFrom.delete (h : ServedFrom key n m c) (hit : Text → Bool) :
    ServedFrom key n m (c.delete hit) where
  fetches := by simpa [ServerCache.delete] using h.fetches
  calls := h.calls
  stored := by
    intro e hStored
    have hOld : (if hit key then none else c.envelopes key) = some e := hStored
    split at hOld
    · cases hOld
    · exact h.stored e hOld
  current := by
    intro i input hCurrent
    exact h.current i input (current_delete.mp hCurrent).1
  flying := by
    intro i hFlying
    have hOld : (if hit key then none else c.inFlight key) = some i := hFlying
    split at hOld
    · cases hOld
    · exact h.flying i hOld
  ended := by
    intro i input result hEnded
    exact h.ended i input result (ended_delete.mp hEnded)
  resolved := h.resolved
  promised := by
    intro i j hLe hCall
    obtain ⟨hFrom, fetch, hGet, hKey⟩ := h.promised i j hLe hCall
    obtain ⟨fetch', hGet', hInput⟩ := Job.exists_overtake hGet fun input => hit input.key
    exact ⟨hFrom, fetch', hGet', hInput ▸ hKey⟩

theorem ServedFrom.fetchEnd (h : ServedFrom key n m c)
    {fetch : Job FetchInput (Except Text (CachedResult α))}
    (hRunning : Job.running? c.fetches i = some fetch) {outcome : Except Text α}
    (hFails : fetch.overtaken = true → outcome.isOk = false) (now : Int) :
    ServedFrom key n m (c.fetchEnd i fetch.input outcome now) where
  fetches := by simpa [ServerCache.fetchEnd] using h.fetches
  calls := h.calls
  stored := by
    intro e hStored
    cases outcome with
    | error message => exact h.stored e hStored
    | ok data =>
      by_cases hKey : key = fetch.input.key
      · have hNot : fetch.overtaken = false := by
          cases hOvertaken : fetch.overtaken with
          | true => cases hFails hOvertaken
          | false => rfl
        have hFrom := h.current i _ (Job.current_of_running hRunning hNot) hKey.symm
        obtain rfl : _ = e := by simpa [ServerCache.fetchEnd, hKey] using hStored
        exact hFrom
      · have hOld : c.envelopes key = some e := by
          simpa [ServerCache.fetchEnd, Function.update_of_ne hKey] using hStored
        exact h.stored e hOld
  current := by
    intro j input hCurrent
    exact h.current j input (Job.current_finish.mp hCurrent).2
  flying := by
    intro j hFlying
    have hUpdate : Function.update c.inFlight fetch.input.key none key = some j := hFlying
    by_cases hKey : key = fetch.input.key
    · rw [hKey, Function.update_self] at hUpdate
      cases hUpdate
    · rw [Function.update_of_ne hKey] at hUpdate
      exact h.flying j hUpdate
  ended := by
    intro j input result hEnded hKey hFrom
    rcases (Job.ended_finish hRunning).mp hEnded with hOld | ⟨rfl, rfl, hResult⟩
    · exact h.ended j input result hOld hKey hFrom
    · exact le_fetch_of_fetchResult (fun e he => h.stored e (hKey ▸ he)) hFrom hResult.symm
  resolved := h.resolved
  promised := by
    intro a j hLe hCall
    obtain ⟨hFrom, fetch', hGet, hKey⟩ := h.promised a j hLe hCall
    obtain ⟨fetch'', hGet', hInput⟩ := Job.exists_finish hGet i _
    exact ⟨hFrom, fetch'', hGet', hInput ▸ hKey⟩

/-- No step of a run brings back what was fetched before. -/
theorem ServedFrom.step (x : ServerCacheStep α) (c c' : ServerCache α)
    (hLast : ServerCache.OvertakenIsLast x c) (hStep : ServerCache.step x c = .ok c')
    (hFlying : InFlight c) (h : ServedFrom key n m c) : ServedFrom key n m c' := by
  cases x with
  | call other options now =>
    obtain rfl := Except.ok.inj hStep
    exact h.cachedFetch hFlying other options now
  | invalidate other =>
    obtain rfl := Except.ok.inj hStep
    exact h.delete _
  | invalidateAll =>
    obtain rfl := Except.ok.inj hStep
    exact h.delete _
  | fetchEnd i outcome now =>
    simp only [ServerCache.step] at hStep
    split at hStep
    · rename_i fetch hRunning
      obtain rfl := Except.ok.inj hStep
      exact h.fetchEnd hRunning
        (fun hOvertaken => (hLast i _ _ rfl fetch hRunning hOvertaken).1) ..
    · cases hStep

theorem ServedFrom.returns (h : ServedFrom key n m c) {result : CachedResult α} (hLe : m ≤ i)
    (hReturns : c.Returns i key result) : n ≤ result.fetch := by
  cases hReturns with
  | resolved hCall => exact h.resolved i result hLe hCall
  | fetched hCall hEnded =>
    obtain ⟨hFrom, fetch, hGet, hKey⟩ := h.promised i _ hLe hCall
    obtain ⟨overtaken, hGet'⟩ := hEnded
    obtain rfl := Option.some.inj (hGet.symm.trans hGet')
    exact h.ended _ _ result ⟨overtaken, hGet'⟩ hKey hFrom

end EsosWebui.Cache

/-! What both caches promise once a key was invalidated, over all orders in which calls, ends of
fetches and invalidations may come. -/
namespace EsosWebui.Cache

open Js

namespace TtlCache

/-- A call made after an invalidation of its key returns no value whose fetch was started before. -/
def NoStaleValue (α : Type) (allowed : CacheStep α → TtlCache α → Prop) : Prop :=
  ∀ before after c c' c'' invalidated key, Run step allowed {} before c →
    step (.invalidate invalidated) c = .ok c' → hits invalidated key = true →
    Run step allowed c' after c'' →
    ∀ i data fetch, c.calls.length ≤ i → c''.Returns i key data fetch → c.fetches.length ≤ fetch

theorem noStaleValue (α : Type) : NoStaleValue α OvertakenFails := by
  intro before after c c' c'' invalidated key _ hInvalidate hHit hAfter i data fetch hLe hReturns
  obtain rfl := Except.ok.inj hInvalidate
  have hStart := fetchedFrom_invalidateCache (c := c) hHit
  exact (hAfter.invariant FetchedFrom.step hStart).returns hLe hReturns

end TtlCache

namespace ServerCache

def Invalidates (x : ServerCacheStep α) (key : Text) : Prop :=
  x = .invalidate key ∨ x = .invalidateAll

/-- A call made after an invalidation of its key returns no value whose fetch was started before. -/
def NoStaleValue (α : Type) (allowed : ServerCacheStep α → ServerCache α → Prop) : Prop :=
  ∀ before after c c' c'' invalidation key, Run step allowed {} before c →
    Invalidates invalidation key → step invalidation c = .ok c' → Run step allowed c' after c'' →
    ∀ i result, c.calls.length ≤ i → c''.Returns i key result → c.fetches.length ≤ result.fetch

/-- At most one fetch of a key runs that was started since its last invalidation. -/
def OneFetch (α : Type) (allowed : ServerCacheStep α → ServerCache α → Prop) : Prop :=
  ∀ steps c, Run step allowed {} steps c → ∀ i j input input',
    Job.Current c.fetches i input → Job.Current c.fetches j input' → input.key = input'.key → i = j

/-- Of the callers of a key while such a fetch runs, those in `waits` receive its promise. -/
def CallersWait (α : Type) (allowed : ServerCacheStep α → ServerCache α → Prop)
    (waits : ServerCache α → Text → CachedFetchOptions → Int → Prop) : Prop :=
  ∀ steps c c', Run step allowed {} steps c → ∀ i input options now,
    Job.Current c.fetches i input → step (.call input.key options now) c = .ok c' →
    (c'.calls[c.calls.length]? = some ⟨input.key, .promise i⟩ ↔ waits c input.key options now)

/-- The refresh is forced, or the cache has no value for the key that has not expired. -/
def NeedsFetch {α : Type} (c : ServerCache α) (key : Text) (options : CachedFetchOptions)
    (now : Int) : Prop :=
  options.forceRefresh = true ∨ ∀ e, c.envelopes key = some e → e.expiresAt ≤ now

theorem unexpired?_eq_none_iff {α : Type} {c : ServerCache α} {key : Text}
    {options : CachedFetchOptions} {now : Int} :
    c.unexpired? key options now = none ↔ NeedsFetch c key options now := by
  unfold unexpired? NeedsFetch
  cases options.forceRefresh <;> simp [Option.filter_eq_none_iff]

theorem inFlight_of_run {α : Type} {steps : List (ServerCacheStep α)} {c : ServerCache α}
    (hRun : Run step OvertakenIsLast {} steps c) : InFlight c :=
  hRun.invariant InFlight.step inFlight_empty

theorem noStaleValue (α : Type) : NoStaleValue α OvertakenIsLast := by
  intro before after c c' c'' invalidation key hBefore hInvalidates hInvalidate hAfter i result hLe
    hReturns
  have hStart : InFlight c' ∧ ServedFrom key c.fetches.length c.calls.length c' := by
    rcases hInvalidates with rfl | rfl
    · obtain rfl := Except.ok.inj hInvalidate
      exact ⟨(inFlight_of_run hBefore).delete _, servedFrom_delete (beq_self_eq_true key)⟩
    · obtain rfl := Except.ok.inj hInvalidate
      exact ⟨(inFlight_of_run hBefore).delete _, servedFrom_delete rfl⟩
  have hEnd := hAfter.invariant (I := fun c'' => InFlight c'' ∧
    ServedFrom key c.fetches.length c.calls.length c'') (fun x _ _ hLast hStep h =>
      ⟨h.1.step x _ _ hLast hStep, h.2.step x _ _ hLast hStep h.1⟩) hStart
  exact hEnd.2.returns hLe hReturns

theorem oneFetch (α : Type) : OneFetch α OvertakenIsLast :=
  fun _ _ hRun _ _ _ _ hi hj hKey => (inFlight_of_run hRun).unique hi hj hKey

theorem callersWait (α : Type) : CallersWait α OvertakenIsLast NeedsFetch := by
  intro steps c c' hRun i input options now hCurrent hCall
  obtain rfl := Except.ok.inj hCall
  rw [(inFlight_of_run hRun).promise_iff hCurrent, unexpired?_eq_none_iff]

end ServerCache

/-- Both caches are coherent as long as no overtaken fetch of the first succeeds, and none of the
second succeeds or ends while a newer one is in flight. -/
theorem caches_coherent (α : Type) :
    TtlCache.NoStaleValue α TtlCache.OvertakenFails ∧
      ServerCache.NoStaleValue α ServerCache.OvertakenIsLast ∧
      ServerCache.OneFetch α ServerCache.OvertakenIsLast ∧
      ServerCache.CallersWait α ServerCache.OvertakenIsLast ServerCache.NeedsFetch :=
  ⟨TtlCache.noStaleValue α, ServerCache.noStaleValue α, ServerCache.oneFetch α,
    ServerCache.callersWait α⟩

private def raidKey : Text := ['r', 'a', 'i', 'd']

private def options : CachedFetchOptions := { ttlMs := 60000 }

/-- What a fetch stores that an invalidation has overtaken is served to the calls after it, and it
takes its successor out of flight. -/
theorem overtaken_fetch_stored :
    ¬ TtlCache.NoStaleValue Nat (fun _ _ => True) ∧
      ¬ ServerCache.NoStaleValue Nat (fun _ _ => True) ∧
      ¬ ServerCache.OneFetch Nat (fun _ _ => True) := by
  refine ⟨fun h => ?_, fun h => ?_, fun h => ?_⟩
  · have hCall := h [.call raidKey 60000 0] [.fetchEnd 0 (.ok 1) 5, .call raidKey 60000 6]
      _ _ _ (some raidKey) raidKey (.cons trivial rfl (.nil _)) rfl rfl
      (.cons trivial rfl (.cons trivial rfl (.nil _))) 1 _ _ (le_refl 1) (.stored rfl rfl)
    exact absurd hCall (by decide)
  · have hCall := h [.call raidKey options 0] [.fetchEnd 0 (.ok 1) 5, .call raidKey options 6]
      _ _ _ (.invalidate raidKey) raidKey (.cons trivial rfl (.nil _)) (Or.inl rfl) rfl
      (.cons trivial rfl (.cons trivial rfl (.nil _))) 1 _ (le_refl 1) (.resolved rfl)
    exact absurd hCall (by decide)
  · have hSame := h [.call raidKey options 0, .invalidate raidKey, .call raidKey options 1,
        .fetchEnd 0 (.error []) 2, .call raidKey options 3]
      _ (.cons trivial rfl (.cons trivial rfl (.cons trivial rfl (.cons trivial rfl
        (.cons trivial rfl (.nil _)))))) 1 2 _ _ rfl rfl rfl
    exact absurd hSame (by decide)

end EsosWebui.Cache
