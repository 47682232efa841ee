import EsosWebui.Cache.ServerCache
import EsosWebui.Esos.GitHubReleases

/-! The latest stable release through the server cache: calls, forced or throttled, the ends of
their refreshes and the returns of the calls, in any order. -/
namespace EsosWebui.Esos

open Js Cache

def cacheKeyLatest : Text := "esos-github-latest-stable".toList

def getGitHubRefreshThrottleMs : Int := 60000

structure ResolvedRelease where
  result : GitHubReleaseResolveResult
  info : CacheFetchMeta

/-- A call of `resolveLatestStableRelease`, with what it has returned. -/
structure ReleaseCall where
  throttled : Bool
  returned : Option (Except Text ResolvedRelease) := none

/-- The server cache with the calls made so far; the call of a number waits for the one of that
number in the server cache. -/
structure ReleaseCache where
  cache : ServerCache GitHubReleaseResolveResult := {}
  lastLiveGithubFetchAt : Int := 0
  clock : Int := 0
  calls : List ReleaseCall := []

inductive ReleaseStep where
  | resolve (forceRefresh : Bool) (now : Int)
  /-- A fetch of the tags, for which nothing else is kept here. -/
  | fetchTags (now : Int)
  | fetchEnd (fetch : Nat) (answers : GitHubAnswers) (now : Int)
  | resume (call : Nat) (now : Int)

def ReleaseStep.now : ReleaseStep → Int
  | resolve _ now | fetchTags now | fetchEnd _ _ now | resume _ now => now

def settled? {α : Type} (c : ServerCache α) (i : Nat) : Option (Except Text (CachedResult α)) :=
  match c.calls[i]? with
  | some ⟨_, .resolved result⟩ => some (.ok result)
  | some ⟨_, .promise j⟩ => (c.fetches[j]?).bind (·.result)
  | none => none

def applyStaleToResolve (prev : Option (CacheEnvelope GitHubReleaseResolveResult))
    (result : GitHubReleaseResolveResult) (info : CacheFetchMeta) (now : Int) : ResolvedRelease :=
  if result.ok then ⟨result, info⟩
  else
    match prev with
    | some e =>
      if now < e.staleUntil && e.data.ok && e.data.latest.isSome then
        { result := e.data
          info :=
            { source := .stale
              fetchedAt := e.fetchedAt
              error := (result.message.map String.toList).or (result.error.map (·.toText)) } }
      else ⟨result, info⟩
    | none => ⟨result, info⟩

def ResolvedRelease.throttled (r : ResolvedRelease) : ResolvedRelease :=
  { r with
    result := { r.result with message := some (r.result.message.getD "GitHub refresh throttled") } }

namespace ReleaseCache

variable (c : ReleaseCache)

def canForceRefreshGitHub (now : Int) : Bool :=
  decide (getGitHubRefreshThrottleMs ≤ now - c.lastLiveGithubFetchAt)

def fetchOptions (ttl : Int) (forceRefresh : Bool) : CachedFetchOptions :=
  { ttlMs := ttl, forceRefresh, staleIfError := false }

/-- A call up to its `await`; a refresh that it starts notes the time. -/
def resolveLatestStableRelease (ttl : Int) (forceRefresh : Bool) (now : Int) : ReleaseCache :=
  let force := forceRefresh && c.canForceRefreshGitHub now
  let options := fetchOptions ttl force
  let starts := (c.cache.unexpired? cacheKeyLatest options now).isNone &&
    (c.cache.inFlight cacheKeyLatest).isNone
  { cache := c.cache.cachedFetch cacheKeyLatest options now
    lastLiveGithubFetchAt := if starts then now else c.lastLiveGithubFetchAt
    clock := now
    calls := c.calls ++ [{ throttled := forceRefresh && !force }] }

/-- What a call returns when it goes on after its `await`. -/
def resumed (call : ReleaseCall) (settled : Except Text (CachedResult GitHubReleaseResolveResult))
    (now : Int) : Except Text ResolvedRelease :=
  match settled with
  | .error message => .error message
  | .ok v =>
    let resolved := applyStaleToResolve (c.cache.envelopes cacheKeyLatest) v.value v.info now
    .ok (if call.throttled then resolved.throttled else resolved)

def resume (i : Nat) (now : Int) : Except Unit ReleaseCache :=
  match settled? c.cache i, c.calls[i]? with
  | some settled, some call =>
    if call.returned.isSome then .error ()
    else
      .ok { c with
        clock := now
        calls := c.calls.set i { call with returned := some (c.resumed call settled now) } }
  | _, _ => .error ()

def step (ttl : Int) (x : ReleaseStep) (c : ReleaseCache) : Except Unit ReleaseCache :=
  if x.now < c.clock then .error ()
  else
    match x with
    | .resolve forceRefresh now => .ok (c.resolveLatestStableRelease ttl forceRefresh now)
    | .fetchTags now => .ok { c with lastLiveGithubFetchAt := now, clock := now }
    | .fetchEnd i answers now =>
      match Job.running? c.cache.fetches i with
      | some fetch =>
        .ok { c with
          cache := c.cache.fetchEnd i fetch.input (.ok (loadLatestLive answers)) now
          clock := now }
      | none => .error ()
    | .resume i now => c.resume i now

def Returned (i : Nat) (r : Except Text ResolvedRelease) : Prop :=
  ∃ call, c.calls[i]? = some call ∧ call.returned = some r

def HoldsRelease (now : Int) : Prop :=
  ∃ e, c.cache.envelopes cacheKeyLatest = some e ∧ e.data.ok = true ∧ now < e.staleUntil

/-- A refresh that ends while the cache holds a release gives a release. -/
def RefreshGivesRelease (x : ReleaseStep) (c : ReleaseCache) : Prop :=
  ∀ i answers now, x = .fetchEnd i answers now → c.HoldsRelease now → answers.giveRelease = true

end ReleaseCache

section

variable {α : Type} {c : ServerCache α} {key : Text} {options : CachedFetchOptions} {now : Int}

theorem envelopes_cachedFetch : (c.cachedFetch key options now).envelopes = c.envelopes := by
  unfold ServerCache.cachedFetch
  split
  · rfl
  · split <;> rfl

theorem fetches_cachedFetch (c : ServerCache α) (key : Text) (options : CachedFetchOptions)
    (now : Int) : (c.cachedFetch key options now).fetches = c.fetches ∨
    (c.cachedFetch key options now).fetches =
      c.fetches ++ [⟨⟨key, options, now⟩, none, false⟩] := by
  unfold ServerCache.cachedFetch
  split
  · exact Or.inl rfl
  · split
    · exact Or.inl rfl
    · exact Or.inr rfl

theorem resolved_cachedFetch {i : Nat} {other : Text} {v : CachedResult α}
    (h : (c.cachedFetch key options now).calls[i]? = some ⟨other, .resolved v⟩) :
    c.calls[i]? = some ⟨other, .resolved v⟩ ∨
      ∃ e, c.envelopes key = some e ∧ v = e.hit := by
  unfold ServerCache.cachedFetch at h
  split at h
  · rename_i existing hExisting
    rcases getElem?_concat_eq_some.mp h with hOld | ⟨-, hNew⟩
    · exact Or.inl hOld
    · injection hNew with _ hAnswer
      refine Or.inr ⟨existing, ?_, (FetchAnswer.resolved.inj hAnswer).symm⟩
      unfold ServerCache.unexpired? at hExisting
      split at hExisting
      · cases hExisting
      · exact (Option.filter_eq_some_iff.mp hExisting).1
  · split at h <;> rcases getElem?_concat_eq_some.mp h with hOld | ⟨-, hNew⟩
    · exact Or.inl hOld
    · cases hNew
    · exact Or.inl hOld
    · cases hNew

end

namespace ReleaseCache

variable {c c' : ReleaseCache} {ttl : Int}

/-- A release fetched then is past its grace, or the cache holds one that is not older. -/
def Lasts (c : ReleaseCache) (fetchedAt : Int) : Prop :=
  fetchedAt + defaultStaleGraceMs ≤ c.clock ∨
    ∃ e, c.cache.envelopes cacheKeyLatest = some e ∧ e.data.ok = true ∧ fetchedAt ≤ e.fetchedAt

def Sound (c : ReleaseCache) (result : GitHubReleaseResolveResult) (fetchedAt : Int) : Prop :=
  result.ok = true → result.latest.isSome = true ∧ Lasts c fetchedAt

structure Known (c : ReleaseCache) : Prop where
  inputs : ∀ (i : Nat) (fetch : Job FetchInput _), c.cache.fetches[i]? = some fetch →
    fetch.input.key = cacheKeyLatest ∧ fetch.input.options.staleGraceMs = defaultStaleGraceMs
  stored : ∀ e, c.cache.envelopes cacheKeyLatest = some e →
    e.staleUntil = e.fetchedAt + defaultStaleGraceMs ∧ e.fetchedAt ≤ c.clock ∧
      Sound c e.data e.fetchedAt
  ended : ∀ i input r, Job.Ended c.cache.fetches i input r →
    ∃ v, r = .ok v ∧ Sound c v.value v.info.fetchedAt
  resolved : ∀ (i : Nat) key v, c.cache.calls[i]? = some ⟨key, .resolved v⟩ →
    Sound c v.value v.info.fetchedAt
  returned : ∀ i r, c.Returned i r →
    ∃ v : ResolvedRelease, r = .ok v ∧ Sound c v.result v.info.fetchedAt

theorem Sound.mono {result : GitHubReleaseResolveResult} {fetchedAt : Int}
    (h : Sound c result fetchedAt) (hLasts : ∀ f, Lasts c f → Lasts c' f) :
    Sound c' result fetchedAt := by
  intro hOk
  obtain ⟨hLatest, hOld⟩ := h hOk
  exact ⟨hLatest, hLasts _ hOld⟩

theorem lasts_of_envelopes (c c' : ReleaseCache)
    (hEnvelopes : c'.cache.envelopes = c.cache.envelopes)
    (hClock : c.clock ≤ c'.clock) (f : Int) (h : Lasts c f) : Lasts c' f := by
  unfold Lasts
  rw [hEnvelopes]
  rcases h with hPast | hHeld
  · exact Or.inl (le_trans hPast hClock)
  · exact Or.inr hHeld

theorem lasts_fetchEnd (c' : ReleaseCache) (h : Known c) {i : Nat} {answers : GitHubAnswers}
    {now : Int} (hAllowed : RefreshGivesRelease (.fetchEnd i answers now) c)
    (hClock : c.clock ≤ now) (hClock' : c'.clock = now)
    {e' : CacheEnvelope GitHubReleaseResolveResult}
    (hStored : c'.cache.envelopes cacheKeyLatest = some e')
    (hData : e'.data = loadLatestLive answers) (hAt : e'.fetchedAt = now) (f : Int)
    (hLasts : Lasts c f) : Lasts c' f := by
  rcases hLasts with hPast | ⟨e, he, hOk, hNewer⟩
  · left
    omega
  · obtain ⟨hUntil, hBefore, -⟩ := h.stored e he
    by_cases hHeld : now < e.staleUntil
    · right
      have hGives := hAllowed i answers now rfl ⟨e, he, hOk, hHeld⟩
      refine ⟨e', hStored, ?_, by omega⟩
      rw [hData, (ok_loadLatestLive answers).1, hGives]
    · left
      omega

theorem Known.fetchEnd (h : Known c) {i : Nat} {answers : GitHubAnswers} {now : Int}
    (hAllowed : RefreshGivesRelease (.fetchEnd i answers now) c) (hClock : c.clock ≤ now)
    {fetch : Job FetchInput (Except Text (CachedResult GitHubReleaseResolveResult))}
    (hRunning : Job.running? c.cache.fetches i = some fetch) :
    Known { c with
      cache := c.cache.fetchEnd i fetch.input (.ok (loadLatestLive answers)) now
      clock := now } := by
  obtain ⟨hKey, hGrace⟩ := h.inputs i fetch (Job.running?_eq_some.mp hRunning).1
  set c' : ReleaseCache := { c with
    cache := c.cache.fetchEnd i fetch.input (.ok (loadLatestLive answers)) now
    clock := now } with hc'
  have hStored : c'.cache.envelopes cacheKeyLatest = some
      { data := loadLatestLive answers
        fetchedAt := now
        expiresAt := now + fetch.input.options.ttlMs
        staleUntil := now + defaultStaleGraceMs
        fetch := i } := by
    simp only [hc', ServerCache.fetchEnd, hKey, hGrace, Function.update_self]
  have hLasts := lasts_fetchEnd c' h hAllowed hClock rfl hStored rfl rfl
  have hLive : Sound c' (loadLatestLive answers) now := by
    intro hOk
    refine ⟨?_, Or.inr ⟨_, hStored, hOk, le_refl _⟩⟩
    rw [(ok_loadLatestLive answers).2, ← (ok_loadLatestLive answers).1, hOk]
  constructor
  · intro j fetch' hGet
    have hLt : j < c.cache.fetches.length := by
      have hLt' := (List.getElem?_eq_some_iff.mp hGet).1
      rwa [hc', ServerCache.fetchEnd, Job.length_finish] at hLt'
    have hOld := List.getElem?_eq_getElem hLt
    obtain ⟨t, hGet', hInput⟩ := Job.exists_finish hOld i _
    obtain rfl := Option.some.inj (hGet'.symm.trans hGet)
    rw [hInput]
    exact h.inputs j _ hOld
  · intro e he
    obtain rfl := Option.some.inj (hStored.symm.trans he)
    exact ⟨rfl, le_refl _, hLive⟩
  · intro j input r hEnded
    rcases (Job.ended_finish hRunning).mp hEnded with hOld | ⟨-, -, rfl⟩
    · obtain ⟨v, rfl, hSound⟩ := h.ended j input r hOld
      exact ⟨v, rfl, hSound.mono hLasts⟩
    · exact ⟨_, rfl, hLive⟩
  · intro j key v hCall
    exact (h.resolved j key v hCall).mono hLasts
  · intro j r hReturned
    obtain ⟨v, rfl, hSound⟩ := h.returned j r hReturned
    exact ⟨v, rfl, hSound.mono hLasts⟩

theorem Known.resolve (h : Known c) (forceRefresh : Bool) {now : Int} (hClock : c.clock ≤ now) :
    Known (c.resolveLatestStableRelease ttl forceRefresh now) := by
  have hLasts := lasts_of_envelopes c
    (c.resolveLatestStableRelease ttl forceRefresh now) envelopes_cachedFetch hClock
  have hFetches := fetches_cachedFetch c.cache cacheKeyLatest
    (fetchOptions ttl (forceRefresh && c.canForceRefreshGitHub now)) now
  constructor
  · intro j fetch hGet
    rcases hFetches with hSame | hStarted
    · exact h.inputs j fetch (hSame ▸ hGet)
    · have hAt : (c.cache.fetches ++ [_])[j]? = some fetch := hStarted ▸ hGet
      rcases getElem?_concat_eq_some.mp hAt with hOld | ⟨-, rfl⟩
      · exact h.inputs j fetch hOld
      · exact ⟨rfl, rfl⟩
  · intro e he
    obtain ⟨hUntil, hBefore, hSound⟩ := h.stored e (by rw [← envelopes_cachedFetch]; exact he)
    exact ⟨hUntil, le_trans hBefore hClock, hSound.mono hLasts⟩
  · intro j input r hEnded
    have hOld : Job.Ended c.cache.fetches j input r := by
      rcases hFetches with hSame | hStarted
      · exact hSame ▸ hEnded
      · exact Job.ended_start.mp (hStarted ▸ hEnded)
    obtain ⟨v, rfl, hSound⟩ := h.ended j input r hOld
    exact ⟨v, rfl, hSound.mono hLasts⟩
  · intro j key v hCall
    rcases resolved_cachedFetch hCall with hOld | ⟨e, he, rfl⟩
    · exact (h.resolved j key v hOld).mono hLasts
    · exact (h.stored e he).2.2.mono hLasts
  · intro j r hReturned
    obtain ⟨call, hCall, hr⟩ := hReturned
    rcases getElem?_concat_eq_some.mp hCall with hOld | ⟨-, rfl⟩
    · obtain ⟨v, rfl, hSound⟩ := h.returned j r ⟨call, hOld, hr⟩
      exact ⟨v, rfl, hSound.mono hLasts⟩
    · cases hr

theorem Known.later (h : Known c) (hCache : c'.cache = c.cache) (hClock : c.clock ≤ c'.clock)
    (hReturned : ∀ i r, c'.Returned i r → c.Returned i r ∨
      ∃ v : ResolvedRelease, r = .ok v ∧ Sound c v.result v.info.fetchedAt) : Known c' := by
  have hLasts := lasts_of_envelopes c c' (by rw [hCache]) hClock
  constructor
  · rw [hCache]
    exact h.inputs
  · intro e he
    obtain ⟨hUntil, hBefore, hOld⟩ := h.stored e (hCache ▸ he)
    exact ⟨hUntil, le_trans hBefore hClock, hOld.mono hLasts⟩
  · intro j input r hEnded
    obtain ⟨v, rfl, hOld⟩ := h.ended j input r (hCache ▸ hEnded)
    exact ⟨v, rfl, hOld.mono hLasts⟩
  · intro j key v hCall
    exact (h.resolved j key v (hCache ▸ hCall)).mono hLasts
  · intro j r hAt
    rcases hReturned j r hAt with hOld | ⟨v, rfl, hSound⟩
    · obtain ⟨v, rfl, hSound⟩ := h.returned j r hOld
      exact ⟨v, rfl, hSound.mono hLasts⟩
    · exact ⟨v, rfl, hSound.mono hLasts⟩

theorem Known.settled (h : Known c) {i : Nat}
    {r : Except Text (CachedResult GitHubReleaseResolveResult)}
    (hSettled : settled? c.cache i = some r) :
    ∃ v, r = .ok v ∧ Sound c v.value v.info.fetchedAt := by
  unfold settled? at hSettled
  split at hSettled
  · rename_i key v hCall
    obtain rfl := Option.some.inj hSettled
    exact ⟨v, rfl, h.resolved i key v hCall⟩
  · rename_i key j hCall
    obtain ⟨⟨input, result, overtaken⟩, hGet, rfl⟩ := Option.bind_eq_some_iff.mp hSettled
    exact h.ended j input r ⟨overtaken, hGet⟩
  · cases hSettled

theorem Known.resumed (h : Known c) {v : CachedResult GitHubReleaseResolveResult}
    (hSound : Sound c v.value v.info.fetchedAt) (call : ReleaseCall) (now : Int) :
    ∃ w : ResolvedRelease, c.resumed call (.ok v) now = .ok w ∧
      Sound c w.result w.info.fetchedAt := by
  let resolved := applyStaleToResolve (c.cache.envelopes cacheKeyLatest) v.value v.info now
  have hApplied : Sound c resolved.result resolved.info.fetchedAt := by
    unfold resolved
    unfold applyStaleToResolve
    split
    · exact hSound
    · split
      · rename_i e he
        split
        · exact (h.stored e he).2.2
        · exact hSound
      · exact hSound
  refine ⟨_, rfl, ?_⟩
  split
  · exact hApplied
  · exact hApplied

theorem resume_eq_ok {i : Nat} {now : Int} :
    c.resume i now = .ok c' ↔ ∃ settled call, settled? c.cache i = some settled ∧
      c.calls[i]? = some call ∧ call.returned = none ∧ c' = { c with
        clock := now
        calls := c.calls.set i { call with returned := some (c.resumed call settled now) } } := by
  unfold resume
  constructor
  · intro h
    split at h
    · rename_i settled call hSettled hCall
      split at h
      · cases h
      · rename_i hNone
        exact ⟨settled, call, hSettled, hCall, by simpa using hNone, (Except.ok.inj h).symm⟩
    · cases h
  · rintro ⟨settled, call, hSettled, hCall, hNone, rfl⟩
    simp [hSettled, hCall, hNone]

theorem Known.resume (h : Known c) {i : Nat} {now : Int} (hClock : c.clock ≤ now)
    (hStep : c.resume i now = .ok c') : Known c' := by
  obtain ⟨settled, call, hSettled, hCall, -, rfl⟩ := resume_eq_ok.mp hStep
  obtain ⟨v, rfl, hSound⟩ := h.settled hSettled
  obtain ⟨w, hResumed, hReturned⟩ := h.resumed hSound call now
  rw [hResumed]
  refine h.later rfl hClock fun j r hAt => ?_
  obtain ⟨other, hOther, hr⟩ := hAt
  by_cases hSame : i = j
  · subst hSame
    have hLt : i < c.calls.length := (List.getElem?_eq_some_iff.mp hCall).1
    rw [List.getElem?_set_self hLt] at hOther
    obtain rfl := Option.some.inj hOther
    obtain rfl := Option.some.inj hr
    exact Or.inr ⟨w, rfl, hReturned⟩
  · rw [List.getElem?_set_ne hSame] at hOther
    exact Or.inl ⟨other, hOther, hr⟩

theorem Known.step (x : ReleaseStep) (c c' : ReleaseCache) (hAllowed : RefreshGivesRelease x c)
    (hStep : ReleaseCache.step ttl x c = .ok c') (h : Known c) : Known c' := by
  unfold ReleaseCache.step at hStep
  split at hStep
  · cases hStep
  · rename_i hNow
    have hClock : c.clock ≤ x.now := by omega
    cases x with
    | resolve forceRefresh now =>
      obtain rfl := Except.ok.inj hStep
      exact h.resolve forceRefresh hClock
    | fetchTags now =>
      obtain rfl := Except.ok.inj hStep
      exact h.later rfl hClock fun i r hAt => Or.inl hAt
    | fetchEnd i answers now =>
      dsimp only at hStep
      split at hStep
      · rename_i fetch hRunning
        obtain rfl := Except.ok.inj hStep
        exact h.fetchEnd hAllowed hClock hRunning
      · cases hStep
    | resume i now => exact h.resume hClock hStep

theorem known_of_run {events : List ReleaseStep}
    (hRun : Run (ReleaseCache.step ttl) RefreshGivesRelease {} events c) : Known c := by
  refine hRun.invariant Known.step ?_
  constructor <;> simp [Job.Ended, Returned]

theorem ok_resumed (h : Known c) {f now : Int} (hLasts : Lasts c f) (hClock : c.clock ≤ now)
    (hWithin : now < f + defaultStaleGraceMs) {v : CachedResult GitHubReleaseResolveResult}
    (hSound : Sound c v.value v.info.fetchedAt) (call : ReleaseCall) :
    ∃ w : ResolvedRelease, c.resumed call (.ok v) now = .ok w ∧ w.result.ok = true ∧
      w.result.latest.isSome = true ∧ (v.value.ok = false → w.info.source = .stale) := by
  cases hOk : v.value.ok with
  | true =>
    refine ⟨_, rfl, ?_⟩
    simp only [applyStaleToResolve, hOk, if_true]
    split
    · exact ⟨hOk, (hSound hOk).1, by simp⟩
    · exact ⟨hOk, (hSound hOk).1, by simp⟩
  | false =>
    have hHeld : ∃ e, c.cache.envelopes cacheKeyLatest = some e ∧ e.data.ok = true ∧
        f ≤ e.fetchedAt := by
      rcases hLasts with hPast | hHeld
      · omega
      · exact hHeld
    obtain ⟨e, he, hData, hNewer⟩ := hHeld
    obtain ⟨hUntil, -, hStored⟩ := h.stored e he
    have hLatest := (hStored hData).1
    have hStale : now < e.staleUntil := by omega
    refine ⟨_, rfl, ?_⟩
    simp only [applyStaleToResolve, hOk, he, hStale, hData, hLatest, decide_true, Bool.and_self,
      Bool.false_eq_true, if_false, if_true]
    split
    · exact ⟨hData, hLatest, fun _ => rfl⟩
    · exact ⟨hData, hLatest, fun _ => rfl⟩

end ReleaseCache

/-- Once a call has returned a release, every call that returns within the grace of that release
returns one too, a stale one if its own refresh has failed. -/
def KeepsRelease (ttl : Int) (allowed : ReleaseStep → ReleaseCache → Prop) : Prop :=
  ∀ events c, Run (ReleaseCache.step ttl) allowed {} events c →
    ∀ i v, c.Returned i (.ok v) → v.result.ok = true →
      ∀ j now c' r, ReleaseCache.step ttl (.resume j now) c = .ok c' → c'.Returned j r →
        now < v.info.fetchedAt + defaultStaleGraceMs →
          ∃ w, r = .ok w ∧ w.result.ok = true ∧ w.result.latest.isSome = true ∧
            ∀ s, settled? c.cache j = some (.ok s) → s.value.ok = false →
              w.info.source = .stale

/-- A known release survives as long as no refresh without one replaces it. -/
theorem known_release_kept (ttl : Int) : KeepsRelease ttl ReleaseCache.RefreshGivesRelease := by
  intro events c hRun i v hReturned hOk j now c' r hStep hr hWithin
  have hKnown := ReleaseCache.known_of_run hRun
  obtain ⟨v', hv', hSound⟩ := hKnown.returned i _ hReturned
  obtain rfl := Except.ok.inj hv'
  unfold ReleaseCache.step at hStep
  split at hStep
  · cases hStep
  · rename_i hNow
    have hClock : c.clock ≤ now := not_lt.mp hNow
    obtain ⟨settled, call, hSettled, hCall, -, rfl⟩ := ReleaseCache.resume_eq_ok.mp hStep
    obtain ⟨s, rfl, hServed⟩ := hKnown.settled hSettled
    obtain ⟨w, hResumed, hRelease, hLatest, hStale⟩ :=
      ReleaseCache.ok_resumed hKnown (hSound hOk).2 hClock hWithin hServed call
    obtain ⟨call', hCall', hReturned'⟩ := hr
    have hLt : j < c.calls.length := (List.getElem?_eq_some_iff.mp hCall).1
    rw [List.getElem?_set_self hLt] at hCall'
    obtain rfl := Option.some.inj hCall'
    obtain rfl := Option.some.inj hReturned'
    refine ⟨w, hResumed, hRelease, hLatest, fun s' hs' => ?_⟩
    obtain rfl := Except.ok.inj (Option.some.inj (hSettled.symm.trans hs'))
    exact hStale

private def releaseAnswer : GitHubAnswers :=
  { releases := .response 200 (.ok (some "1.2.3".toList)), tags := .response 403 (.error "") }

private def rateLimited : GitHubAnswers :=
  { releases := .response 403 (.error ""), tags := .response 403 (.error "") }

private def refreshes : List ReleaseStep :=
  [.resolve false 60000, .fetchEnd 0 releaseAnswer 60001, .resume 0 60001,
    .resolve false 60100, .fetchEnd 1 rateLimited 60101]

theorem rate_limit_loses_release : ¬ ∀ ttl, KeepsRelease ttl fun _ _ => True := by
  intro h
  obtain ⟨w, hReturned, hOk, -⟩ := h 50 refreshes _ (.cons trivial rfl (.cons trivial rfl
    (.cons trivial rfl (.cons trivial rfl (.cons trivial rfl (.nil _)))))) 0 _ ⟨_, rfl, rfl⟩ rfl
    1 60102 _ _ rfl ⟨_, rfl, rfl⟩ (by decide)
  obtain rfl := Except.ok.inj hReturned
  exact absurd hOk (by decide)

end EsosWebui.Esos
