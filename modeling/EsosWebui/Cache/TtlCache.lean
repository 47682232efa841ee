import EsosWebui.Js.Run
import EsosWebui.Js.Throw
import Mathlib.Logic.Function.Basic

/-! The cache with a time to live: what its callers receive, whatever is fetched and invalidated
meanwhile. The numbers of fetches are kept by the model only. -/
namespace EsosWebui.Cache

open Js

/-- A stored value, with the number of the fetch it comes from. -/
structure CacheEntry (α : Type) where
  data : α
  expiresAt : Int
  fetch : Nat

/-- What a call of `fn` was made for. -/
structure CacheMiss where
  key : Text
  ttlMs : Int

inductive CacheAnswer (α : Type) where
  | stored (entry : CacheEntry α)
  | fetched (fetch : Nat)

structure CacheCall (α : Type) where
  key : Text
  answer : CacheAnswer α

/-- The cache, with the fetches and the calls that were made so far. -/
structure TtlCache (α : Type) where
  store : Text → Option (CacheEntry α) := fun _ => none
  fetches : List (Job CacheMiss (Except Text α)) := []
  calls : List (CacheCall α) := []

inductive CacheStep (α : Type) where
  | call (key : Text) (ttlMs now : Int)
  | fetchEnd (fetch : Nat) (outcome : Except Text α) (now : Int)
  | invalidate (key : Option Text)

variable {α : Type}

def hits (key : Option Text) (other : Text) : Bool :=
  match key with
  | none | some [] => true
  | some key => other == key

namespace TtlCache

variable (c : TtlCache α)

/-- A call up to its first `await`. -/
def withCache (key : Text) (ttlMs now : Int) : TtlCache α :=
  match (c.store key).filter (now < ·.expiresAt) with
  | some entry => { c with calls := c.calls ++ [⟨key, .stored entry⟩] }
  | none =>
    { c with
      fetches := c.fetches ++ [⟨⟨key, ttlMs⟩, none, false⟩]
      calls := c.calls ++ [⟨key, .fetched c.fetches.length⟩] }

def fetchEnd (i : Nat) (miss : CacheMiss) (outcome : Except Text α) (now : Int) : TtlCache α :=
  let ended := Job.finish c.fetches i outcome
  match outcome with
  | .ok data =>
    let entry : CacheEntry α := { data, expiresAt := now + miss.ttlMs, fetch := i }
    { c with store := Function.update c.store miss.key (some entry), fetches := ended }
  | .error _ => { c with fetches := ended }

def invalidateCache (key : Option Text) : TtlCache α :=
  { c with
    store := fun other => if hits key other then none else c.store other
    fetches := Job.overtake c.fetches fun miss => hits key miss.key }

def step (x : CacheStep α) (c : TtlCache α) : Except Unit (TtlCache α) :=
  match x with
  | .call key ttlMs now => .ok (c.withCache key ttlMs now)
  | .fetchEnd i outcome now =>
    match Job.running? c.fetches i with
    | some fetch => .ok (c.fetchEnd i fetch.input outcome now)
    | none => .error ()
  | .invalidate key => .ok (c.invalidateCache key)

inductive Returns (i : Nat) (key : Text) (data : α) : Nat → Prop
  | stored {entry : CacheEntry α} (hCall : c.calls[i]? = some ⟨key, .stored entry⟩)
      (hData : entry.data = data) : Returns i key data entry.fetch
  | fetched {j : Nat} {miss : CacheMiss} (hCall : c.calls[i]? = some ⟨key, .fetched j⟩)
      (hEnded : Job.Ended c.fetches j miss (.ok data)) : Returns i key data j

/-- A fetch that an invalidation has overtaken does not succeed. -/
def OvertakenFails (x : CacheStep α) (c : TtlCache α) : Prop :=
  ∀ i data now, x = .fetchEnd i (.ok data) now →
    ∀ fetch, Job.running? c.fetches i = some fetch → fetch.overtaken = false

end TtlCache

def CacheAnswer.fetch : CacheAnswer α → Nat
  | .stored entry => entry.fetch
  | .fetched i => i

/-- From the call `m` on, everything for this key was fetched from the fetch `n` on. -/
structure FetchedFrom (key : Text) (n m : Nat) (c : TtlCache α) : Prop where
  fetches : n ≤ c.fetches.length
  calls : m ≤ c.calls.length
  stored : ∀ entry, c.store key = some entry → n ≤ entry.fetch
  current : ∀ i miss, Job.Current c.fetches i miss → miss.key = key → n ≤ i
  answers : ∀ i answer, m ≤ i → c.calls[i]? = some ⟨key, answer⟩ → n ≤ answer.fetch

open TtlCache

variable {c : TtlCache α} {key : Text} {n m : Nat}

theorem current_invalidateCache {invalidated : Option Text} {i : Nat} {miss : CacheMiss} :
    Job.Current (c.invalidateCache invalidated).fetches i miss ↔
      Job.Current c.fetches i miss ∧ hits invalidated miss.key = false := by
  simp only [invalidateCache, Job.current_overtake]

theorem fetchedFrom_invalidateCache {invalidated : Option Text}
    (hHit : hits invalidated key) :
    FetchedFrom key c.fetches.length c.calls.length (c.invalidateCache invalidated) where
  fetches := by simp [invalidateCache]
  calls := le_refl _
  stored := by simp [invalidateCache, hHit]
  current := by
    intro i miss hCurrent hKey
    obtain ⟨-, hMiss⟩ := current_invalidateCache.mp hCurrent
    rw [hKey, hHit] at hMiss
    cases hMiss
  answers := by
    intro i answer hLe hCall
    have hLt : i < c.calls.length := (List.getElem?_eq_some_iff.mp hCall).1
    omega

theorem FetchedFrom.withCache (h : FetchedFrom key n m c) (other : Text) (ttlMs now : Int) :
    FetchedFrom key n m (c.withCache other ttlMs now) := by
  unfold TtlCache.withCache
  split
  · rename_i entry hEntry
    refine { h with calls := ?_, answers := ?_ }
    · simpa using Nat.le_succ_of_le h.calls
    · intro i answer hLe hCall
      rcases getElem?_concat_eq_some.mp hCall with hOld | ⟨-, hNew⟩
      · exact h.answers i answer hLe hOld
      · cases hNew
        exact h.stored entry (Option.mem_filter_iff.mp hEntry).1
  · refine ⟨?_, ?_, h.stored, ?_, ?_⟩
    · simpa using Nat.le_succ_of_le h.fetches
    · simpa using Nat.le_succ_of_le h.calls
    · intro i miss hCurrent hKey
      rcases Job.current_start.mp hCurrent with hOld | ⟨rfl, -⟩
      · exact h.current i miss hOld hKey
      · exact h.fetches
    · intro i answer hLe hCall
      rcases getElem?_concat_eq_some.mp hCall with hOld | ⟨-, hNew⟩
      · exact h.answers i answer hLe hOld
      · cases hNew
        exact h.fetches

theorem FetchedFrom.fetchEnd (h : FetchedFrom key n m c) {i : Nat}
    {fetch : Job CacheMiss (Except Text α)} (hRunning : Job.running? c.fetches i = some fetch)
    {outcome : Except Text α} (hOvertaken : outcome.isOk = true → fetch.overtaken = false)
    (now : Int) : FetchedFrom key n m (c.fetchEnd i fetch.input outcome now) := by
  have hCurrent (j : Nat) (miss : CacheMiss)
      (hj : Job.Current (Job.finish c.fetches i outcome) j miss) (hKey : miss.key = key) :
      n ≤ j := h.current j miss (Job.current_finish.mp hj).2 hKey
  cases outcome with
  | error message =>
    exact ⟨by simpa [TtlCache.fetchEnd] using h.fetches, h.calls, h.stored, hCurrent, h.answers⟩
  | ok data =>
    refine ⟨by simpa [TtlCache.fetchEnd] using h.fetches, h.calls, ?_, hCurrent, h.answers⟩
    intro entry hEntry
    by_cases hKey : key = fetch.input.key
    · have hNew : n ≤ i :=
        h.current i _ (Job.current_of_running hRunning (hOvertaken rfl)) hKey.symm
      have hSame : Function.update c.store fetch.input.key
          (some ⟨data, now + fetch.input.ttlMs, i⟩) key = some entry := hEntry
      rw [hKey, Function.update_self] at hSame
      rw [← Option.some.inj hSame]
      exact hNew
    · have hSame : Function.update c.store fetch.input.key
          (some ⟨data, now + fetch.input.ttlMs, i⟩) key = some entry := hEntry
      rw [Function.update_of_ne hKey] at hSame
      exact h.stored entry hSame

theorem FetchedFrom.invalidateCache (h : FetchedFrom key n m c) (invalidated : Option Text) :
    FetchedFrom key n m (c.invalidateCache invalidated) where
  fetches := by simpa [TtlCache.invalidateCache] using h.fetches
  calls := h.calls
  stored := by
    intro entry hEntry
    have hOld : (if hits invalidated key then none else c.store key) = some entry := hEntry
    split at hOld
    · cases hOld
    · exact h.stored entry hOld
  current := by
    intro i miss hCurrent hKey
    exact h.current i miss (current_invalidateCache.mp hCurrent).1 hKey
  answers := h.answers

/-- No step of a run brings back what was fetched before. -/
theorem FetchedFrom.step (x : CacheStep α) (c c' : TtlCache α) (hFails : OvertakenFails x c)
    (hStep : TtlCache.step x c = .ok c') (h : FetchedFrom key n m c) : FetchedFrom key n m c' := by
  cases x with
  | call other ttlMs now =>
    obtain rfl := Except.ok.inj hStep
    exact h.withCache other ttlMs now
  | invalidate invalidated =>
    obtain rfl := Except.ok.inj hStep
    exact h.invalidateCache invalidated
  | fetchEnd i outcome now =>
    simp only [TtlCache.step] at hStep
    split at hStep
    · rename_i fetch hRunning
      obtain rfl := Except.ok.inj hStep
      refine h.fetchEnd hRunning (fun hOk => ?_) now
      obtain ⟨data, rfl⟩ := exists_of_isOk hOk
      exact hFails i data now rfl fetch hRunning
    · cases hStep

theorem FetchedFrom.returns (h : FetchedFrom key n m c) {i fetch : Nat} {data : α} (hLe : m ≤ i)
    (hReturns : c.Returns i key data fetch) : n ≤ fetch := by
  cases hReturns with
  | stored hCall _ => exact h.answers i _ hLe hCall
  | fetched hCall _ => exact h.answers i _ hLe hCall

end EsosWebui.Cache
