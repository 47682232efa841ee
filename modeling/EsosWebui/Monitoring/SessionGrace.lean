import EsosWebui.Js.Number
import EsosWebui.Js.OrderedMap
import EsosWebui.Js.Strings

/-! The alerts about missing sessions and their grace window: what is reported at each poll of a
run, with the polls of any SANs one between the other. -/
namespace EsosWebui.Monitoring

open Js

structure InitiatorGroup where
  name : Text
  initiators : List Text

structure PolledTarget where
  name : Text
  groups : List InitiatorGroup

structure PolledSession where
  target : Text
  initiatorName : Text

structure PolledOverview where
  targets : List PolledTarget
  sessions : List PolledSession

inductive SessionAlertPolicy where
  | strict
  | multipath
  deriving DecidableEq

/-- The settings of the session alerts. -/
structure AlertSettings where
  sessionEnabled : Bool := true
  sessionPolicy : SessionAlertPolicy := .strict
  sessionGraceSec : Int := 120
  sessionMinActive : Int := 1

structure SessionMeta where
  target : Text
  group : Text
  initiator : Option Text := none
  activeInitiatorCount : Nat
  minRequired : Option Int := none
  pathCount : Nat
  missingSinceMs : Option Int := none

structure SessionViolDetail where
  title : Text
  message : Text
  alertMeta : SessionMeta

structure SessionAlert where
  id : Text
  level : Text := "warning".toList
  title : Text
  message : Text
  source : Text := "session".toList
  since : Int
  alertMeta : SessionMeta

/-- What a session alert is about. Only the strict policy names an initiator. -/
structure Combination where
  target : Text
  group : Text
  initiator : Option Text
  deriving DecidableEq

def SessionMeta.combination (m : SessionMeta) : Combination := ⟨m.target, m.group, m.initiator⟩

/-- `s.replace(/\|/g, '_')` -/
def escKey (s : Text) : Text := s.map fun c => if c = '|' then '_' else c

def buildSessionStrictDedupe (sanKey targetName groupName initiator : Text) : Text :=
  ['|'].intercalate
    ["session-lost".toList, sanKey, escKey targetName, escKey groupName, escKey initiator]

def buildSessionMultipathDedupe (sanKey targetName groupName : Text) : Text :=
  ['|'].intercalate ["session-low".toList, sanKey, escKey targetName, escKey groupName]

def Combination.key (sanKey : Text) (c : Combination) : Text :=
  match c.initiator with
  | some initiator => buildSessionStrictDedupe sanKey c.target c.group initiator
  | none => buildSessionMultipathDedupe sanKey c.target c.group

def lowSessions (settings : AlertSettings) (target group : Text) (missing : List Text)
    (activeCount pathCount : Nat) : SessionViolDetail where
  title := "Sessions insuffisantes (multipathing)".toList
  message :=
    target ++ " — groupe « ".toList ++ group ++ " » : ".toList ++ Number.natText activeCount ++
      " initiateur(s) distinct(s) avec session (< seuil ".toList ++
      (toString settings.sessionMinActive).toList ++
      "). Sessions (chemins) vers initiateurs du groupe : ".toList ++ Number.natText pathCount ++
      ". ".toList ++
      (if missing = [] then []
        else "Sans session : ".toList ++ ", ".toList.intercalate (missing.take 8) ++
          (if 8 < missing.length then "…".toList else []) ++ ". ".toList) ++
      "(politique multipathing.)".toList
  alertMeta :=
    { target, group, activeInitiatorCount := activeCount
      minRequired := some settings.sessionMinActive, pathCount }

def lostSession (target group : Text) (activeInitiators pathCount : Nat) (initiator : Text) :
    SessionViolDetail where
  title := "Session perdue".toList
  message :=
    initiator ++ " — target ".toList ++ target ++ ", groupe « ".toList ++ group ++
      " » : aucune session active. Initiateurs actifs sur ce target : ".toList ++
      Number.natText activeInitiators ++ ". Sessions (chemins vers ce groupe) : ".toList ++
      Number.natText pathCount ++ ['.']
  alertMeta :=
    { target, group, initiator := some initiator, activeInitiatorCount := activeInitiators
      pathCount }

def groupViolations (settings : AlertSettings) (overview : PolledOverview) (target : PolledTarget)
    (group : InitiatorGroup) : List SessionViolDetail :=
  let sessionsForTarget := overview.sessions.filter (·.target = target.name)
  let activeInitiators := unique (sessionsForTarget.map (·.initiatorName))
  let missing := group.initiators.filter (· ∉ activeInitiators)
  let activeCount := (group.initiators.filter (· ∈ activeInitiators)).length
  let pathCount := (sessionsForTarget.filter (·.initiatorName ∈ group.initiators)).length
  if group.initiators = [] then []
  else
    match settings.sessionPolicy with
    | .multipath =>
      if activeCount < settings.sessionMinActive then
        [lowSessions settings target.name group.name missing activeCount pathCount]
      else []
    | .strict =>
      missing.map (lostSession target.name group.name activeInitiators.length pathCount)

def violations (settings : AlertSettings) (overview : PolledOverview) : List SessionViolDetail :=
  if settings.sessionEnabled then
    overview.targets.flatMap fun target =>
      target.groups.flatMap (groupViolations settings overview target)
  else []

/-- The table `alert_session_state`: when the violation of a key of a SAN began. -/
abbrev GraceTable := Text → Text → Option Int

def clearSessionGraceState (table : GraceTable) (sanId : Text) : GraceTable := fun san key =>
  if san = sanId then none else table san key

/-- The rows of other keys are deleted, and a row is inserted for each key that has none. -/
def finalizeSessionGrace (table : GraceTable) (sanId : Text) (violated : List Text)
    (graceSec nowMs : Int) : GraceTable × List (Text × Int) :=
  if violated = [] then (clearSessionGraceState table sanId, [])
  else
    let after : GraceTable := fun san key =>
      if san = sanId then
        if key ∈ violated then (table san key).or (some nowMs) else none
      else table san key
    let emit := violated.filterMap fun key =>
      (after sanId key).bind fun first =>
        if graceSec = 0 ∨ graceSec * 1000 ≤ nowMs - first then some (key, first) else none
    (after, emit)

def SessionViolDetail.alert (id : Text) (since : Int) (d : SessionViolDetail) : SessionAlert :=
  { id, title := d.title, message := d.message, since
    alertMeta := { d.alertMeta with missingSinceMs := some since } }

def sessionCandidates (settings : AlertSettings) (sanKey : Text) (overview : PolledOverview) :
    OrderedMap Text SessionViolDetail :=
  OrderedMap.empty.setAll
    ((violations settings overview).map fun d => (d.alertMeta.combination.key sanKey, d))

/-- One poll of a SAN, at the time `now` in milliseconds. -/
structure Poll where
  sanKey : Text
  now : Int
  overview : PolledOverview

/-- The session part of `detectAlerts`. -/
def detectAlerts (settings : AlertSettings) (table : GraceTable) (poll : Poll) :
    GraceTable × List SessionAlert :=
  let { sanKey, now, overview } := poll
  let cleared :=
    if settings.sessionEnabled = false ∨ settings.sessionGraceSec = 0 then
      clearSessionGraceState table sanKey
    else table
  let candidates := sessionCandidates settings sanKey overview
  if settings.sessionEnabled = false then (cleared, [])
  else if 0 < settings.sessionGraceSec then
    let (after, emitSince) :=
      finalizeSessionGrace cleared sanKey candidates.keys settings.sessionGraceSec now
    (after, emitSince.filterMap fun (key, since) =>
      (candidates.get key).map (SessionViolDetail.alert key since))
  else (cleared, candidates.entries.map fun (key, d) => d.alert key now)

section

variable (settings : AlertSettings)

def tableAfter (polls : List Poll) : GraceTable :=
  polls.foldl (fun table poll => (detectAlerts settings table poll).1) fun _ _ => none

def reported (before : List Poll) (poll : Poll) : List SessionAlert :=
  (detectAlerts settings (tableAfter settings before) poll).2

def Poll.violated (poll : Poll) : List Combination :=
  (violations settings poll.overview).map (·.alertMeta.combination)

def pollsOf (sanKey : Text) (polls : List Poll) : List Poll :=
  (polls.filter (·.sanKey = sanKey)).reverse

def violatedSince (c : Combination) (polls : List Poll) : Option Int :=
  ((polls.takeWhile fun poll => c ∈ poll.violated settings).getLast?).map (·.now)

/-- What is reported at a poll: each combination once that has been violated for the grace time,
whatever other SANs are polled. -/
structure HonoursGrace (before : List Poll) (poll : Poll) : Prop where
  due : ∀ c since,
    (∃ alert ∈ reported settings before poll,
        alert.alertMeta.combination = c ∧ alert.since = since) ↔
      violatedSince settings c (poll :: pollsOf poll.sanKey before) = some since ∧
        settings.sessionGraceSec * 1000 ≤ poll.now - since
  apart : ((reported settings before poll).map (·.alertMeta.combination)).Nodup ∧
    ((reported settings before poll).map (·.id)).Nodup
  isolated : reported settings before poll =
    reported settings (before.filter (·.sanKey = poll.sanKey)) poll

def RunHonoursGrace (polls : List Poll) : Prop :=
  ∀ before poll after, polls = before ++ poll :: after → HonoursGrace settings before poll

/-- No two combinations that are violated at a poll, or one at the poll and one at the last poll
of the SAN before it, have the same key. -/
def KeysApart (before : List Poll) (poll : Poll) : Prop :=
  ∀ c ∈ poll.violated settings,
    ∀ c' ∈ poll.violated settings ++
        ((pollsOf poll.sanKey before).head?.elim [] (·.violated settings)),
      c.key poll.sanKey = c'.key poll.sanKey → c = c'

def KeysApartIn (polls : List Poll) : Prop :=
  ∀ before poll after, polls = before ++ poll :: after → KeysApart settings before poll

variable {settings} {table : GraceTable} {poll : Poll} {polls : List Poll} {c : Combination}
  {sanKey key : Text}

theorem mem_keys_sessionCandidates :
    key ∈ (sessionCandidates settings sanKey poll.overview).keys ↔
      ∃ c ∈ poll.violated settings, c.key sanKey = key := by
  rw [sessionCandidates, OrderedMap.mem_keys_setAll]
  simp [Poll.violated, OrderedMap.keys, OrderedMap.empty]

theorem of_get_sessionCandidates {d : SessionViolDetail}
    (h : (sessionCandidates settings sanKey poll.overview).get key = some d) :
    d.alertMeta.combination ∈ poll.violated settings ∧
      d.alertMeta.combination.key sanKey = key := by
  rcases OrderedMap.mem_entries_of_setAll (OrderedMap.get_eq_some_iff.mp h) with hOld | hNew
  · cases hOld
  · obtain ⟨d', hd', hSame⟩ := List.mem_map.mp hNew
    cases hSame
    exact ⟨List.mem_map_of_mem hd', rfl⟩

theorem keys_of_disabled (h : settings.sessionEnabled = false) :
    (sessionCandidates settings sanKey poll.overview).keys = [] := by
  simp [sessionCandidates, violations, h, OrderedMap.setAll, OrderedMap.keys, OrderedMap.empty]

theorem row_detectAlerts (hGrace : 0 < settings.sessionGraceSec) (table : GraceTable) (poll : Poll)
    (sanKey key : Text) :
    (detectAlerts settings table poll).1 sanKey key =
      if sanKey = poll.sanKey then
        if key ∈ (sessionCandidates settings poll.sanKey poll.overview).keys then
          (table sanKey key).or (some poll.now)
        else none
      else table sanKey key := by
  unfold detectAlerts
  cases hEnabled : settings.sessionEnabled with
  | false => simp [clearSessionGraceState, keys_of_disabled hEnabled]
  | true =>
    have hNe : settings.sessionGraceSec ≠ 0 := hGrace.ne'
    simp only [hNe, hGrace, or_self, if_false, if_true, Bool.true_eq_false]
    unfold finalizeSessionGrace clearSessionGraceState
    split
    · rename_i hNone
      simp [hNone]
    · rfl

variable (settings poll) in
def alertFor (row : Text → Option Int) (key : Text) : Option SessionAlert :=
  (row key).bind fun first =>
    if settings.sessionGraceSec * 1000 ≤ poll.now - first then
      ((sessionCandidates settings poll.sanKey poll.overview).get key).map (·.alert key first)
    else none

theorem alertFor_eq_some {row : Text → Option Int} {alert : SessionAlert} :
    alertFor settings poll row key = some alert ↔ ∃ first d, row key = some first ∧
      settings.sessionGraceSec * 1000 ≤ poll.now - first ∧
      (sessionCandidates settings poll.sanKey poll.overview).get key = some d ∧
      d.alert key first = alert := by
  simp only [alertFor, Option.bind_eq_some_iff, Option.ite_none_right_eq_some,
    Option.map_eq_some_iff, exists_and_left]

theorem alerts_detectAlerts (hGrace : 0 < settings.sessionGraceSec) (table : GraceTable)
    (poll : Poll) : (detectAlerts settings table poll).2 =
      (sessionCandidates settings poll.sanKey poll.overview).keys.filterMap
        (alertFor settings poll ((detectAlerts settings table poll).1 poll.sanKey)) := by
  unfold detectAlerts alertFor
  cases hEnabled : settings.sessionEnabled with
  | false => simp [keys_of_disabled hEnabled]
  | true =>
    have hNe : settings.sessionGraceSec ≠ 0 := hGrace.ne'
    simp only [hNe, hGrace, or_self, if_false, if_true, Bool.true_eq_false]
    unfold finalizeSessionGrace
    split
    · rename_i hNone
      simp [hNone]
    · rw [List.filterMap_filterMap]
      refine List.filterMap_congr fun key hKey => ?_
      simp only [hNe, false_or, Option.bind_assoc]
      congr 1
      funext first
      split <;> rfl

theorem tableAfter_concat : tableAfter settings (polls ++ [poll]) =
    (detectAlerts settings (tableAfter settings polls) poll).1 := by
  rw [tableAfter, List.foldl_append]
  rfl

theorem pollsOf_concat : pollsOf sanKey (polls ++ [poll]) =
    if poll.sanKey = sanKey then poll :: pollsOf sanKey polls else pollsOf sanKey polls := by
  rw [pollsOf, List.filter_append, List.reverse_append]
  split <;> simp [pollsOf, *]

theorem tableAfter_filter (hGrace : 0 < settings.sessionGraceSec) (polls : List Poll)
    (sanKey key : Text) : tableAfter settings (polls.filter (·.sanKey = sanKey)) sanKey key =
      tableAfter settings polls sanKey key := by
  induction polls using List.reverseRecOn with
  | nil => rfl
  | append_singleton polls poll ih =>
    rw [tableAfter_concat, row_detectAlerts hGrace, List.filter_append]
    by_cases hOwn : poll.sanKey = sanKey
    · rw [List.filter_cons_of_pos (by simpa using hOwn), List.filter_nil, tableAfter_concat,
        row_detectAlerts hGrace, ih]
    · rw [List.filter_cons_of_neg (by simpa using hOwn), List.filter_nil, List.append_nil, ih,
        if_neg fun h => hOwn h.symm]

theorem violatedSince_cons_of_mem (hc : c ∈ poll.violated settings) :
    violatedSince settings c (poll :: polls) =
      some ((violatedSince settings c polls).getD poll.now) := by
  rw [violatedSince, List.takeWhile_cons_of_pos (by simpa using hc), List.getLast?_cons,
    violatedSince]
  cases (polls.takeWhile fun poll => c ∈ poll.violated settings).getLast? <;> rfl

theorem violatedSince_cons_of_notMem (hc : c ∉ poll.violated settings) :
    violatedSince settings c (poll :: polls) = none := by
  rw [violatedSince, List.takeWhile_cons_of_neg (by simpa using hc)]
  rfl

variable (settings) in
def lastViolated (polls : List Poll) : List Combination :=
  polls.head?.elim [] (·.violated settings)

theorem violatedSince_of_notMem (hc : c ∉ lastViolated settings polls) :
    violatedSince settings c polls = none := by
  cases polls with
  | nil => rfl
  | cons poll polls => exact violatedSince_cons_of_notMem hc

variable (settings) in
/-- The rows of a SAN tell since when its combinations are violated. -/
structure RowsOf (sanKey : Text) (polls : List Poll) (row : Text → Option Int) : Prop where
  absent : ∀ key, (∀ c ∈ lastViolated settings polls, c.key sanKey ≠ key) → row key = none
  present : ∀ c ∈ lastViolated settings polls,
    row (c.key sanKey) = violatedSince settings c polls

theorem RowsOf.row_eq {row : Text → Option Int} (h : RowsOf settings sanKey polls row)
    (hKeys : ∀ c' ∈ lastViolated settings polls, c.key sanKey = c'.key sanKey → c = c') :
    row (c.key sanKey) = violatedSince settings c polls := by
  by_cases hc : c ∈ lastViolated settings polls
  · exact h.present c hc
  · rw [violatedSince_of_notMem hc]
    refine h.absent _ fun c' hc' hKey => ?_
    rw [hKeys c' hc' hKey.symm] at hc
    exact hc hc'

theorem rowsOf_tableAfter (hGrace : 0 < settings.sessionGraceSec)
    (hKeys : KeysApartIn settings polls) (sanKey : Text) :
    RowsOf settings sanKey (pollsOf sanKey polls) (tableAfter settings polls sanKey) := by
  induction polls using List.reverseRecOn with
  | nil => exact ⟨fun _ _ => rfl, fun _ hc => by cases hc⟩
  | append_singleton polls poll ih =>
    have hBefore : KeysApartIn settings polls := fun before p after hPolls =>
      hKeys before p (after ++ [poll]) (by simp [hPolls])
    have hLast := hKeys polls poll [] rfl
    have hRows := ih hBefore
    rw [pollsOf_concat, tableAfter_concat]
    by_cases hOwn : poll.sanKey = sanKey
    · subst hOwn
      rw [if_pos rfl]
      refine ⟨fun key hAbsent => ?_, fun c hc => ?_⟩
      · rw [row_detectAlerts hGrace, if_pos rfl, if_neg]
        rw [mem_keys_sessionCandidates]
        rintro ⟨c, hc, hKey⟩
        exact hAbsent c hc hKey
      · rw [row_detectAlerts hGrace, if_pos rfl,
          if_pos (mem_keys_sessionCandidates.mpr ⟨c, hc, rfl⟩), violatedSince_cons_of_mem hc,
          hRows.row_eq fun c' hc' => hLast c hc c' (List.mem_append_right _ hc')]
        cases violatedSince settings c (pollsOf poll.sanKey polls) <;> rfl
    · rw [if_neg hOwn]
      have hSame : (detectAlerts settings (tableAfter settings polls) poll).1 sanKey =
          tableAfter settings polls sanKey := by
        funext key
        rw [row_detectAlerts hGrace, if_neg fun h => hOwn h.symm]
      rw [hSame]
      exact hRows

theorem mem_reported (hGrace : 0 < settings.sessionGraceSec) {before : List Poll}
    {alert : SessionAlert} : alert ∈ reported settings before poll ↔
      ∃ key, alertFor settings poll (tableAfter settings (before ++ [poll]) poll.sanKey) key =
        some alert := by
  rw [reported, alerts_detectAlerts hGrace, List.mem_filterMap, tableAfter_concat]
  refine exists_congr fun key => and_iff_right_of_imp fun hAlert => ?_
  obtain ⟨first, d, -, -, hGet, -⟩ := alertFor_eq_some.mp hAlert
  exact OrderedMap.mem_keys_iff_get.mpr ⟨d, hGet⟩

theorem combination_of_alertFor {row : Text → Option Int} {alert : SessionAlert}
    (h : alertFor settings poll row key = some alert) :
    alert.alertMeta.combination ∈ poll.violated settings ∧
      alert.alertMeta.combination.key poll.sanKey = key ∧ alert.id = key := by
  obtain ⟨first, d, -, -, hGet, rfl⟩ := alertFor_eq_some.mp h
  obtain ⟨hViolated, hKey⟩ := of_get_sessionCandidates hGet
  exact ⟨hViolated, hKey, rfl⟩

theorem nodup_ids (hGrace : 0 < settings.sessionGraceSec) (before : List Poll) (poll : Poll) :
    ((reported settings before poll).map (·.id)).Nodup := by
  rw [reported, alerts_detectAlerts hGrace, List.map_filterMap]
  refine List.Nodup.filterMap (fun key key' id hId hId' => ?_) (OrderedMap.nodup _)
  obtain ⟨alert, hAlert, rfl⟩ := Option.map_eq_some_iff.mp hId
  obtain ⟨other, hOther, hSame⟩ := Option.map_eq_some_iff.mp hId'
  rw [← (combination_of_alertFor hAlert).2.2, ← hSame, (combination_of_alertFor hOther).2.2]

theorem nodup_combinations (hGrace : 0 < settings.sessionGraceSec) (before : List Poll)
    (poll : Poll) : ((reported settings before poll).map (·.alertMeta.combination)).Nodup := by
  have hIds : (reported settings before poll).map (·.id) =
      ((reported settings before poll).map (·.alertMeta.combination)).map (·.key poll.sanKey) := by
    rw [List.map_map]
    refine List.map_congr_left fun alert hAlert => ?_
    obtain ⟨key, hAlert⟩ := (mem_reported hGrace).mp hAlert
    obtain ⟨-, hKey, hId⟩ := combination_of_alertFor hAlert
    exact hId.trans hKey.symm
  have hNodup := nodup_ids hGrace before poll
  rw [hIds] at hNodup
  exact hNodup.of_map _

theorem reported_filter (hGrace : 0 < settings.sessionGraceSec) (before : List Poll)
    (poll : Poll) : reported settings before poll =
      reported settings (before.filter (·.sanKey = poll.sanKey)) poll := by
  have hRow : (detectAlerts settings (tableAfter settings before) poll).1 poll.sanKey =
      (detectAlerts settings (tableAfter settings (before.filter (·.sanKey = poll.sanKey)))
        poll).1 poll.sanKey := by
    funext key
    rw [row_detectAlerts hGrace, row_detectAlerts hGrace, tableAfter_filter hGrace]
  rw [reported, reported, alerts_detectAlerts hGrace, alerts_detectAlerts hGrace, hRow]

theorem keysApartIn_of_forall (h : ∀ p ∈ polls, ∀ q ∈ polls, ∀ c ∈ p.violated settings,
    ∀ c' ∈ q.violated settings, c.key p.sanKey = c'.key p.sanKey → c = c') :
    KeysApartIn settings polls := by
  intro before poll after hPolls c hc c' hc' hKey
  have hPoll : poll ∈ polls := by simp [hPolls]
  rcases List.mem_append.mp hc' with hc' | hc'
  · exact h poll hPoll poll hPoll c hc c' hc' hKey
  · cases hLast : (pollsOf poll.sanKey before).head? with
    | none => simp [hLast] at hc'
    | some q =>
      have hq : q ∈ before := by
        have hMem := List.mem_of_mem_head? (Option.mem_def.mpr hLast)
        simp only [pollsOf, List.mem_reverse, List.mem_filter] at hMem
        exact hMem.1
      rw [hLast] at hc'
      exact h poll hPoll q (by simp [hPolls, hq]) c hc c' hc' hKey

/-- In every run whose keys are apart, each poll reports what has been violated for the grace
time. -/
theorem grace_window_honoured (hGrace : 0 < settings.sessionGraceSec) {polls : List Poll}
    (hKeys : KeysApartIn settings polls) : RunHonoursGrace settings polls := by
  intro before poll after hPolls
  have hStep := hKeys before poll after hPolls
  have hPrefix : KeysApartIn settings (before ++ [poll]) := fun front p back hSplit =>
    hKeys front p (back ++ after) (by
      rw [hPolls]
      simpa using congrArg (· ++ after) hSplit)
  have hRows := rowsOf_tableAfter hGrace hPrefix poll.sanKey
  rw [pollsOf_concat, if_pos rfl] at hRows
  refine ⟨fun c since => ⟨?_, ?_⟩,
    ⟨nodup_combinations hGrace before poll, nodup_ids hGrace before poll⟩,
    reported_filter hGrace before poll⟩
  · rintro ⟨alert, hAlert, rfl, rfl⟩
    obtain ⟨key, hAlert⟩ := (mem_reported hGrace).mp hAlert
    obtain ⟨hViolated, hKey, -⟩ := combination_of_alertFor hAlert
    obtain ⟨first, d, hRow, hDue, -, rfl⟩ := alertFor_eq_some.mp hAlert
    rw [← hRows.present _ hViolated, hKey]
    exact ⟨hRow, hDue⟩
  · rintro ⟨hSince, hDue⟩
    have hViolated : c ∈ poll.violated settings := by
      by_contra hNot
      rw [violatedSince_cons_of_notMem hNot] at hSince
      cases hSince
    obtain ⟨d, hGet⟩ := OrderedMap.mem_keys_iff_get.mp
      (mem_keys_sessionCandidates.mpr ⟨c, hViolated, rfl⟩)
    obtain ⟨hOther, hKey⟩ := of_get_sessionCandidates hGet
    refine ⟨d.alert (c.key poll.sanKey) since, (mem_reported hGrace).mpr ⟨c.key poll.sanKey,
      alertFor_eq_some.mpr ⟨since, d, (hRows.present c hViolated).trans hSince, hDue, hGet, rfl⟩⟩,
      ?_, rfl⟩
    exact (hStep c hViolated _ (List.mem_append_left _ hOther) hKey.symm).symm

end

/-- A group with one initiator, which has no session. -/
def lostIn (now : Int) (group : Text) : Poll where
  sanKey := "san1".toList
  now
  overview :=
    { targets := [⟨"iqn.t".toList, [⟨group, ["iqn.i".toList]⟩]⟩]
      sessions := [] }

theorem grace_window_honoured_lostSession :
    RunHonoursGrace {} [lostIn 0 "g".toList, lostIn 120000 "g".toList] := by
  refine grace_window_honoured (by decide) (keysApartIn_of_forall ?_)
  decide +kernel

/-- A group is reported at once when one whose name differs in a bar has just recovered. -/
theorem barInName_reported_at_once :
    (reported {} [lostIn 0 "a|b".toList] (lostIn 120000 "a_b".toList)).map
        (fun alert => (alert.alertMeta.group, alert.since)) = [("a_b".toList, 0)] ∧
      ¬ RunHonoursGrace {} [lostIn 0 "a|b".toList, lostIn 120000 "a_b".toList] := by
  refine ⟨by decide +kernel, fun h => ?_⟩
  have hDue := (h [_] _ [] rfl).due ⟨"iqn.t".toList, "a_b".toList, some "iqn.i".toList⟩ 0
  have hSince := (hDue.mp (by decide +kernel)).1
  exact absurd hSince (by decide +kernel)

end EsosWebui.Monitoring
