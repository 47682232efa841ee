import EsosWebui.Scst.PreviewLines

/-! When a preflight and the change it is made for agree. -/
namespace EsosWebui.Scst

open Js

section

variable (toLowerCase : Text → Text)

/-- The preflight is ok exactly when the change is accepted, and then it shows the lines by which
the written file differs. -/
def HostRequest.Agrees (c : ScstConfig) (x : HostRequest) : Prop :=
  ((x.preflight toLowerCase c).ok = true ↔ ∃ c', (x.mutator c).edit toLowerCase c = .ok c') ∧
    ∀ c', (x.preflight toLowerCase c).ok = true → (x.mutator c).edit toLowerCase c = .ok c' →
      x.Shows c c' (x.preflight toLowerCase c).configPreview

def resolvedType (initiatorRaw : Text) (type : Option InitiatorType) : InitiatorType :=
  if type.getD .auto = .auto then detectInitiatorType (trim initiatorRaw) else type.getD .auto

def namesAdapter (initiatorRaw : Text) (options : ValidateInitiatorOptions) : Bool :=
  options.ibOneTargetPerPort = some false ∧ resolvedType initiatorRaw options.type = .ib

def usableInitiator (target : Target) (groupName initiatorRaw : Text)
    (options : ValidateInitiatorOptions) : Option Text :=
  ((validateInitiatorValue toLowerCase initiatorRaw options).toOption.map (·.normalized)).filter
    fun normalized => initiatorAlreadyOnTarget toLowerCase target.groups normalized (some groupName)
      = false

/-- An initiator that is added is not in the group yet; named for the whole adapter, the preflight
refuses it and so does the change. An initiator that is removed is spelled as in the group. -/
def HostRequest.Coincides (c : ScstConfig) : HostRequest → Prop
  | addInitiator targetName groupName initiator options => ∀ target group,
      findTarget c targetName = some target →
      target.groups.find? (·.name = groupName) = some group →
      if namesAdapter initiator options then
        usableInitiator toLowerCase target groupName initiator ⟨options.type, none⟩ = none ∧
          ∀ normalized, usableInitiator toLowerCase target groupName initiator options =
            some normalized → ∃ i ∈ group.initiators, toLowerCase (trim i) = toLowerCase normalized
      else
        ∀ normalized, usableInitiator toLowerCase target groupName initiator options =
          some normalized → ∀ i ∈ group.initiators, toLowerCase (trim i) ≠ toLowerCase normalized
  | removeInitiator targetName groupName initiator => ∀ target group i,
      findTarget c targetName = some target →
      target.groups.find? (·.name = groupName) = some group →
      group.initiators.find? (fun i => toLowerCase (trim i) = toLowerCase (trim initiator)) =
        some i → i = trim initiator
  | _ => True

end

variable {toLowerCase : Text → Text} {c c' : ScstConfig}

theorem agrees_iff {x : HostRequest} {check : Except Text ScstPreflightResult}
    (hCheck : x.preflight toLowerCase c = orBlocked check)
    (hOk : ∀ result, check = .ok result → result.ok = true) :
    x.Agrees toLowerCase c ↔
      ((∃ result, check = .ok result) ↔ ∃ c', (x.mutator c).edit toLowerCase c = .ok c') ∧
      ∀ result c', check = .ok result → (x.mutator c).edit toLowerCase c = .ok c' →
        x.Shows c c' result.configPreview := by
  unfold HostRequest.Agrees
  rw [hCheck, orBlocked_ok_iff hOk]
  refine and_congr_right fun _ =>
    ⟨fun h result c' hResult hEdit => ?_, fun h c' hResult hEdit => ?_⟩
  · have hShows := h c' ⟨result, hResult⟩ hEdit
    rwa [hResult] at hShows
  · obtain ⟨result, hResult⟩ := hResult
    rw [hResult]
    exact h result c' hResult hEdit

variable (targetName groupName : Text)

theorem createGroup_agrees :
    (HostRequest.createGroup targetName groupName).Agrees toLowerCase c := by
  refine (agrees_iff rfl ?_).mpr ⟨?_, ?_⟩
  · simp only [bind_eq_ok, pure_eq_ok]
    rintro result ⟨_, -, _, -, _, -, rfl⟩
    rfl
  · simp only [HostRequest.mutator, Request.edit, createGroup, bind_eq_ok, mapError_eq_ok,
      orThrow_eq_ok, throwIf_eq_ok, pure_eq_ok, exists_const, findTarget_eq_some]
    constructor
    · rintro ⟨_, _, ⟨found, hFound, rfl⟩, normalized, hName, hNew, -⟩
      exact ⟨_, normalized, hName, found, hFound, hNew, rfl⟩
    · rintro ⟨_, normalized, hName, found, hFound, hNew, -⟩
      exact ⟨_, found.target, ⟨found, hFound, rfl⟩, normalized, hName, hNew, rfl⟩
  · intro result c' hResult hEdit
    simp only [bind_eq_ok, mapError_eq_ok, pure_eq_ok] at hResult
    obtain ⟨_, -, normalized, hName, _, -, rfl⟩ := hResult
    obtain ⟨rfl, -⟩ := validateGroupName_eq_ok.mp hName
    exact createGroup_shows hEdit

theorem deleteGroup_agrees :
    (HostRequest.deleteGroup targetName groupName).Agrees toLowerCase c := by
  refine (agrees_iff rfl ?_).mpr ⟨?_, ?_⟩
  · simp only [bind_eq_ok, pure_eq_ok]
    rintro result ⟨_, -, _, -, rfl⟩
    rfl
  · simp only [HostRequest.mutator, Request.edit, deleteGroup, bind_eq_ok, orThrow_eq_ok,
      throwIf_eq_ok, pure_eq_ok, exists_const]
    constructor
    · rintro ⟨_, target, hTarget, group, hGroup, -⟩
      obtain ⟨found, hFound, rfl⟩ := findTarget_eq_some.mp hTarget
      obtain ⟨foundGroup, hFoundGroup, rfl⟩ := find?_eq_some_iff_findGroup.mp hGroup
      refine ⟨_, found, hFound, foundGroup, hFoundGroup, ?_, rfl⟩
      -- The confirmation that the preflight asks for forces the deletion.
      rintro ⟨hContents, hForce⟩
      simp [preflightDeleteGroup, orBlocked, hTarget, hGroup, orThrow, bind, Except.bind,
        hContents, pure, Except.pure] at hForce
    · rintro ⟨_, found, hFound, foundGroup, hFoundGroup, -⟩
      exact ⟨_, found.target, findTarget_eq_some.mpr ⟨found, hFound, rfl⟩, foundGroup.value,
        find?_eq_some_iff_findGroup.mpr ⟨foundGroup, hFoundGroup, rfl⟩, rfl⟩
  · intro result c' hResult hEdit
    simp only [bind_eq_ok, pure_eq_ok] at hResult
    obtain ⟨_, -, _, -, rfl⟩ := hResult
    exact deleteGroup_shows hEdit

theorem mapLun_agrees (lunId : Number) (deviceName : Text) (readOnly : Bool) :
    (HostRequest.mapLun targetName groupName lunId deviceName readOnly).Agrees toLowerCase c := by
  refine (agrees_iff rfl ?_).mpr ⟨?_, ?_⟩
  · simp only [bind_eq_ok, pure_eq_ok]
    rintro result ⟨_, -, _, -, rfl⟩
    rfl
  · simp only [HostRequest.mutator, Request.edit, addLunToGroup, bind_eq_ok, map_eq_ok,
      mapError_eq_ok, orThrow_eq_ok, pure_eq_ok]
    constructor
    · rintro ⟨_, target, hTarget, line, hLine, -⟩
      obtain ⟨found, hFound, rfl⟩ := findTarget_eq_some.mp hTarget
      have hValid := hLine
      simp only [validateMapLun, bind_eq_ok, orThrow_eq_ok] at hValid
      obtain ⟨group, hGroup, -⟩ := hValid
      obtain ⟨foundGroup, hFoundGroup, rfl⟩ := find?_eq_some_iff_findGroup.mp hGroup
      exact ⟨_, _, ⟨found, hFound, line, hLine, foundGroup, hFoundGroup, rfl⟩, rfl⟩
    · rintro ⟨_, _, ⟨found, hFound, line, hLine, -⟩, -⟩
      exact ⟨_, found.target, findTarget_eq_some.mpr ⟨found, hFound, rfl⟩, line, hLine, rfl⟩
  · intro result c' hResult hEdit
    simp only [bind_eq_ok, pure_eq_ok] at hResult
    obtain ⟨_, -, line, hLine, rfl⟩ := hResult
    obtain ⟨added, hAdded, rfl⟩ := map_eq_ok.mp hEdit
    simp only [validateMapLun, bind_eq_ok, orThrow_eq_ok, throwIf_eq_ok, pure_eq_ok] at hLine
    obtain ⟨_, -, _, -, _, -, _, -, _, -, _, -, _, -, _, -, rfl⟩ := hLine
    exact mapLun_shows hAdded

theorem unmapLun_agrees (lunId : Number) :
    (HostRequest.unmapLun targetName groupName lunId).Agrees toLowerCase c := by
  refine (agrees_iff rfl ?_).mpr ⟨?_, ?_⟩
  · simp only [bind_eq_ok, pure_eq_ok]
    rintro result ⟨_, -, _, -, rfl⟩
    rfl
  · simp only [HostRequest.mutator, Request.edit, removeLunFromGroup, bind_eq_ok, mapError_eq_ok,
      orThrow_eq_ok, pure_eq_ok]
    constructor
    · rintro ⟨_, target, hTarget, _, hUnmap, -⟩
      obtain ⟨found, hFound, rfl⟩ := findTarget_eq_some.mp hTarget
      have hValid := hUnmap
      simp only [validateUnmapLun, bind_eq_ok, orThrow_eq_ok] at hValid
      obtain ⟨group, hGroup, -⟩ := hValid
      obtain ⟨foundGroup, hFoundGroup, rfl⟩ := find?_eq_some_iff_findGroup.mp hGroup
      exact ⟨_, found, hFound, _, hUnmap, foundGroup, hFoundGroup, rfl⟩
    · rintro ⟨_, found, hFound, _, hUnmap, -⟩
      exact ⟨_, found.target, findTarget_eq_some.mpr ⟨found, hFound, rfl⟩, _, hUnmap, rfl⟩
  · intro result c' hResult hEdit
    simp only [bind_eq_ok, pure_eq_ok] at hResult
    obtain ⟨_, -, _, -, rfl⟩ := hResult
    exact unmapLun_shows hEdit

theorem removeInitiator_agrees_iff (hc : c.WellFormed) (targetName groupName initiator : Text) :
    (HostRequest.removeInitiator targetName groupName initiator).Agrees toLowerCase c ↔
      (HostRequest.removeInitiator targetName groupName initiator).Coincides toLowerCase c := by
  refine (agrees_iff rfl ?_).trans ?_
  · simp only [bind_eq_ok, pure_eq_ok]
    rintro result ⟨_, -, _, -, _, -, rfl⟩
    rfl
  simp only [HostRequest.mutator, Request.edit, removeInitiator, bind_eq_ok, orThrow_eq_ok,
    throwIf_eq_ok, pure_eq_ok, exists_const, Bool.not_eq_false, List.any_eq_true]
  constructor
  · rintro ⟨-, h⟩ target group i hTarget hGroup hFind
    obtain ⟨found, hFound, rfl⟩ := findTarget_eq_some.mp hTarget
    obtain ⟨foundGroup, hFoundGroup, rfl⟩ := find?_eq_some_iff_findGroup.mp hGroup
    have hSame : decide (toLowerCase (trim i) = toLowerCase (trim initiator)) = true := by
      simpa using List.find?_some hFind
    have hAny : ∃ i ∈ foundGroup.value.initiators,
        decide (toLowerCase (trim i) = toLowerCase (trim initiator)) = true :=
      ⟨i, List.mem_of_find?_eq_some hFind, hSame⟩
    rw [← map_value_findFirst] at hFind
    obtain ⟨first, hFirst, rfl⟩ := Option.map_eq_some_iff.mp hFind
    have hShows := h _ _ ⟨found.target, hTarget, foundGroup.value, hGroup, hAny, rfl⟩
      ⟨found, hFound, foundGroup, hFoundGroup, first, hFirst, rfl⟩
    exact (removeInitiator_shows_iff hc hFound hFoundGroup hFirst).mp hShows
  · intro h
    refine ⟨⟨?_, ?_⟩, ?_⟩
    · rintro ⟨_, target, hTarget, group, hGroup, ⟨i, hi, hSame⟩, -⟩
      obtain ⟨found, hFound, rfl⟩ := findTarget_eq_some.mp hTarget
      obtain ⟨foundGroup, hFoundGroup, rfl⟩ := find?_eq_some_iff_findGroup.mp hGroup
      cases hFirst : findFirst (fun i => toLowerCase (trim i) = toLowerCase (trim initiator))
          foundGroup.value.initiators with
      | none => exact absurd (findFirst_eq_none hFirst i hi) (by simpa using hSame)
      | some first => exact ⟨_, found, hFound, foundGroup, hFoundGroup, first, hFirst, rfl⟩
    · rintro ⟨_, found, hFound, foundGroup, hFoundGroup, first, hFirst, -⟩
      obtain ⟨hAt, hSame⟩ := findFirst_eq_some hFirst
      exact ⟨_, found.target, findTarget_eq_some.mpr ⟨found, hFound, rfl⟩, foundGroup.value,
        find?_eq_some_iff_findGroup.mpr ⟨foundGroup, hFoundGroup, rfl⟩,
        ⟨first.value, List.mem_of_getElem? hAt, hSame⟩, rfl⟩
    · rintro result c' ⟨_, -, _, -, -, rfl⟩ ⟨found, hFound, foundGroup, hFoundGroup, first,
        hFirst, rfl⟩
      refine (removeInitiator_shows_iff hc hFound hFoundGroup hFirst).mpr ?_
      exact h _ _ _ (findTarget_eq_some.mpr ⟨found, hFound, rfl⟩)
        (find?_eq_some_iff_findGroup.mpr ⟨foundGroup, hFoundGroup, rfl⟩) (find?_of_findFirst hFirst)

variable {options : ValidateInitiatorOptions} {target : Target}

theorem usableInitiator_eq_some {groupName initiatorRaw normalized : Text} :
    usableInitiator toLowerCase target groupName initiatorRaw options = some normalized ↔
      ∃ v, validateInitiatorValue toLowerCase initiatorRaw options = .ok v ∧
        v.normalized = normalized ∧
        initiatorAlreadyOnTarget toLowerCase target.groups normalized (some groupName) = false := by
  unfold usableInitiator
  rw [Option.filter_eq_some_iff, Option.map_eq_some_iff, decide_eq_true_eq]
  cases validateInitiatorValue toLowerCase initiatorRaw options with
  | error message => simp [Except.toOption]
  | ok v => simp [Except.toOption]

theorem isWord_of_usableInitiator {groupName initiatorRaw normalized : Text}
    (h : usableInitiator toLowerCase target groupName initiatorRaw options = some normalized) :
    IsWord normalized := by
  obtain ⟨v, hValid, rfl, -⟩ := usableInitiator_eq_some.mp h
  exact isWord_of_validateInitiatorValue hValid

variable {type : Option InitiatorType}

theorem preflightAddInitiator_ok_iff {targetName groupName initiator : Text} :
    (preflightAddInitiator toLowerCase targetName groupName initiator type c).ok = true ↔
      ∃ target group normalized, findTarget c targetName = some target ∧
        target.groups.find? (·.name = groupName) = some group ∧
        usableInitiator toLowerCase target groupName initiator ⟨type, none⟩ = some normalized := by
  refine (orBlocked_ok_iff ?_).trans ?_
  · simp only [bind_eq_ok, pure_eq_ok]
    rintro result ⟨_, -, _, -, _, -, _, -, _, -, rfl⟩
    rfl
  simp only [bind_eq_ok, mapError_eq_ok, orThrow_eq_ok, throwIf_eq_ok, pure_eq_ok, exists_const,
    usableInitiator_eq_some, Bool.not_eq_true]
  constructor
  · rintro ⟨_, target, hTarget, group, hGroup, v, hValid, -, hFree, -⟩
    rw [validateInitiatorValue_getD] at hValid
    exact ⟨target, group, _, hTarget, hGroup, v, hValid, rfl, hFree⟩
  · rintro ⟨target, group, _, hTarget, hGroup, v, hValid, rfl, hFree⟩
    have hNe := (isWord_of_validateInitiatorValue hValid).1
    rw [← validateInitiatorValue_getD] at hValid
    exact ⟨_, target, hTarget, group, hGroup, v, hValid, hNe, hFree, rfl⟩

theorem preflightAddInitiator_configPreview {targetName groupName initiator normalized : Text}
    {group : Group} (hTarget : findTarget c targetName = some target)
    (hGroup : target.groups.find? (·.name = groupName) = some group)
    (h : usableInitiator toLowerCase target groupName initiator ⟨type, none⟩ = some normalized) :
    (preflightAddInitiator toLowerCase targetName groupName initiator type c).configPreview =
      ["INITIATOR ".toList ++ normalized] := by
  obtain ⟨v, hValid, rfl, hFree⟩ := usableInitiator_eq_some.mp h
  have hNe := (isWord_of_validateInitiatorValue hValid).1
  rw [← validateInitiatorValue_getD] at hValid
  unfold preflightAddInitiator
  rw [hTarget]
  simp [orBlocked, orThrow, hGroup, hValid, hNe, hFree, throwIf, Except.mapError, bind, Except.bind,
    pure, Except.pure]

theorem exists_addInitiator_iff {targetName groupName initiator normalized : Text} :
    (∃ c', addInitiator toLowerCase targetName groupName initiator options c =
        .ok (c', normalized)) ↔
      ∃ target group, findTarget c targetName = some target ∧
        target.groups.find? (·.name = groupName) = some group ∧
        usableInitiator toLowerCase target groupName initiator options = some normalized ∧
        ∀ i ∈ group.initiators, toLowerCase (trim i) ≠ toLowerCase normalized := by
  simp only [addInitiator, bind_eq_ok, mapError_eq_ok, orThrow_eq_ok, throwIf_eq_ok, pure_eq_ok,
    exists_const, usableInitiator_eq_some, Bool.not_eq_true, validateInitiatorValue_getD,
    Prod.mk.injEq]
  constructor
  · rintro ⟨_, found, hFound, foundGroup, hGroup, v, hValid, -, hFresh, hFree, -, rfl⟩
    exact ⟨found.target, foundGroup.value, findTarget_eq_some.mpr ⟨found, hFound, rfl⟩,
      find?_eq_some_iff_findGroup.mpr ⟨foundGroup, hGroup, rfl⟩, ⟨v, hValid, rfl, hFree⟩,
      by simpa using hFresh⟩
  · rintro ⟨target, group, hTarget, hGroup, ⟨v, hValid, rfl, hFree⟩, hFresh⟩
    obtain ⟨found, hFound, rfl⟩ := findTarget_eq_some.mp hTarget
    obtain ⟨foundGroup, hFoundGroup, rfl⟩ := find?_eq_some_iff_findGroup.mp hGroup
    exact ⟨_, found, hFound, foundGroup, hFoundGroup, v, hValid,
      (isWord_of_validateInitiatorValue hValid).1, by simpa using hFresh, hFree, rfl, rfl⟩

theorem addInitiator_agrees_iff_usable (targetName groupName initiator : Text)
    (options : ValidateInitiatorOptions) :
    (HostRequest.addInitiator targetName groupName initiator options).Agrees toLowerCase c ↔
      ∀ target group, findTarget c targetName = some target →
        target.groups.find? (·.name = groupName) = some group → ∀ normalized,
          usableInitiator toLowerCase target groupName initiator ⟨options.type, none⟩ =
              some normalized ↔
            usableInitiator toLowerCase target groupName initiator options = some normalized ∧
              ∀ i ∈ group.initiators, toLowerCase (trim i) ≠ toLowerCase normalized := by
  have hEdit {c' : ScstConfig} : Request.edit toLowerCase c
      (.addInitiator targetName groupName initiator options) = .ok c' ↔
      ∃ normalized, addInitiator toLowerCase targetName groupName initiator options c =
        .ok (c', normalized) := by
    simp [Request.edit, map_eq_ok]
  unfold HostRequest.Agrees HostRequest.preflight HostRequest.mutator
  simp only [hEdit]
  constructor
  · rintro ⟨hSame, hShows⟩ target group hTarget hGroup normalized
    constructor
    · intro hUsable
      have hOk := preflightAddInitiator_ok_iff.mpr
        ⟨target, group, normalized, hTarget, hGroup, hUsable⟩
      obtain ⟨c', added, hAdd⟩ := hSame.mp hOk
      obtain ⟨target', group', hTarget', hGroup', hAdded, hFresh⟩ :=
        exists_addInitiator_iff.mp ⟨c', hAdd⟩
      obtain rfl := Option.some.inj (hTarget'.symm.trans hTarget)
      obtain rfl := Option.some.inj (hGroup'.symm.trans hGroup)
      have hShown := hShows c' hOk ⟨added, hAdd⟩
      rw [preflightAddInitiator_configPreview hTarget hGroup hUsable] at hShown
      obtain rfl := (addInitiator_shows_iff (isWord_of_usableInitiator hUsable) hAdd).mp hShown
      exact ⟨hAdded, hFresh⟩
    · rintro ⟨hAdded, hFresh⟩
      obtain ⟨c', hAdd⟩ := exists_addInitiator_iff.mpr
        ⟨target, group, hTarget, hGroup, hAdded, hFresh⟩
      have hOk := hSame.mpr ⟨c', normalized, hAdd⟩
      obtain ⟨target', group', shown, hTarget', hGroup', hUsable⟩ :=
        preflightAddInitiator_ok_iff.mp hOk
      obtain rfl := Option.some.inj (hTarget'.symm.trans hTarget)
      have hShown := hShows c' hOk ⟨normalized, hAdd⟩
      rw [preflightAddInitiator_configPreview hTarget hGroup hUsable] at hShown
      obtain rfl := (addInitiator_shows_iff (isWord_of_usableInitiator hUsable) hAdd).mp hShown
      exact hUsable
  · intro h
    refine ⟨⟨?_, ?_⟩, ?_⟩
    · intro hOk
      obtain ⟨target, group, normalized, hTarget, hGroup, hUsable⟩ :=
        preflightAddInitiator_ok_iff.mp hOk
      obtain ⟨c', hAdd⟩ := exists_addInitiator_iff.mpr
        ⟨target, group, hTarget, hGroup, (h target group hTarget hGroup normalized).mp hUsable⟩
      exact ⟨c', normalized, hAdd⟩
    · rintro ⟨c', normalized, hAdd⟩
      obtain ⟨target, group, hTarget, hGroup, hAdded⟩ := exists_addInitiator_iff.mp ⟨c', hAdd⟩
      exact preflightAddInitiator_ok_iff.mpr ⟨target, group, normalized, hTarget, hGroup,
        (h target group hTarget hGroup normalized).mpr hAdded⟩
    · rintro c' - ⟨normalized, hAdd⟩
      obtain ⟨target, group, hTarget, hGroup, hAdded⟩ := exists_addInitiator_iff.mp ⟨c', hAdd⟩
      have hUsable := (h target group hTarget hGroup normalized).mpr hAdded
      rw [preflightAddInitiator_configPreview hTarget hGroup hUsable]
      exact (addInitiator_shows_iff (isWord_of_usableInitiator hUsable) hAdd).mpr rfl

variable {initiator : Text}

/-- The naming of InfiniBand ports matters for no other type. -/
theorem validateInitiatorValue_of_ne (h : resolvedType initiator type ≠ .ib)
    (ib₀ ib : Option Bool) :
    validateInitiatorValue toLowerCase initiator ⟨type, ib₀⟩ =
      validateInitiatorValue toLowerCase initiator ⟨type, ib⟩ := by
  unfold validateInitiatorValue
  refine congrArg (throwIf (trim initiator = []) _ >>= ·) (funext fun _ => ?_)
  dsimp only
  cases type with
  | none =>
    have hType : detectInitiatorType (trim initiator) ≠ .ib := h
    revert hType
    cases detectInitiatorType (trim initiator) with
    | ib => exact fun hType => absurd rfl hType
    | auto | pattern | fc | iscsi => exact fun _ => rfl
  | some type =>
    cases type with
    | fc | iscsi | pattern => rfl
    | ib => exact absurd rfl h
    | auto =>
      have hType : detectInitiatorType (trim initiator) ≠ .ib := h
      revert hType
      cases detectInitiatorType (trim initiator) with
      | ib => exact fun hType => absurd rfl hType
      | auto | pattern | fc | iscsi => exact fun _ => rfl

theorem validateInitiatorValue_of_eq (h : resolvedType initiator type = .ib) (ib : Option Bool) :
    validateInitiatorValue toLowerCase initiator ⟨type, ib⟩ =
      (throwIf (trim initiator = []) "storage.hosts.errors.initiator_required".toList >>= fun _ =>
        normalizeIb toLowerCase (trim initiator) (ib.getD true)) := by
  unfold validateInitiatorValue
  refine congrArg (throwIf (trim initiator = []) _ >>= ·) (funext fun _ => ?_)
  dsimp only
  cases type with
  | none =>
    have hType : detectInitiatorType (trim initiator) = .ib := h
    rw [hType]
  | some type =>
    cases type with
    | fc | iscsi | pattern => cases h
    | ib => rfl
    | auto =>
      have hType : detectInitiatorType (trim initiator) = .ib := h
      rw [hType]

theorem validateInitiatorValue_default (h : namesAdapter initiator options = false) :
    validateInitiatorValue toLowerCase initiator ⟨options.type, none⟩ =
      validateInitiatorValue toLowerCase initiator options := by
  obtain ⟨type, ib⟩ := options
  cases ib with
  | none => rfl
  | some onePerPort =>
    cases onePerPort with
    | true => rfl
    | false =>
      simp only [namesAdapter, true_and, decide_eq_false_iff_not] at h
      exact validateInitiatorValue_of_ne h none (some false)

theorem normalized_of_namesAdapter {shown normalized : NormalizedInitiator}
    (h : namesAdapter initiator options)
    (hShown : validateInitiatorValue toLowerCase initiator ⟨options.type, none⟩ = .ok shown)
    (hValid : validateInitiatorValue toLowerCase initiator options = .ok normalized) :
    isIbGuidColons shown.normalized = true ∧
      ∃ x s, normalized.normalized = '0' :: x :: s ∧ (x = 'x' ∨ x = 'X') := by
  obtain ⟨type, ib⟩ := options
  simp only [namesAdapter, decide_eq_true_eq] at h
  obtain ⟨rfl, hType⟩ := h
  rw [validateInitiatorValue_of_eq hType] at hShown hValid
  simp only [normalizeIb, Option.getD_none, Option.getD_some, if_true, bind_eq_ok, throwIf_eq_ok,
    pure_eq_ok, exists_const, Bool.not_eq_false, Bool.false_eq_true, if_false] at hShown hValid
  obtain ⟨-, hColons, rfl⟩ := hShown
  refine ⟨hColons, ?_⟩
  obtain ⟨-, hValid⟩ := hValid
  split at hValid
  · rename_i hHex
    obtain rfl := pure_eq_ok.mp hValid
    dsimp only
    unfold isIbGuidHex at hHex
    split at hHex
    · rename_i x s hLower
      simp only [Bool.and_eq_true, Bool.or_eq_true, beq_iff_eq] at hHex
      exact ⟨x, s, hLower, hHex.1⟩
    · cases hHex
  · simp only [bind_eq_ok, throwIf_eq_ok, pure_eq_ok, exists_const] at hValid
    obtain ⟨-, rfl⟩ := hValid
    exact ⟨'x', _, rfl, Or.inl rfl⟩

theorem usableInitiator_ne {groupName initiator shown normalized : Text}
    (h : namesAdapter initiator options)
    (hShown : usableInitiator toLowerCase target groupName initiator ⟨options.type, none⟩ =
      some shown)
    (hUsable : usableInitiator toLowerCase target groupName initiator options = some normalized) :
    shown ≠ normalized := by
  obtain ⟨v₀, hValid₀, rfl, -⟩ := usableInitiator_eq_some.mp hShown
  obtain ⟨v, hValid, rfl, -⟩ := usableInitiator_eq_some.mp hUsable
  obtain ⟨hColons, x, s, hHex, hx⟩ := normalized_of_namesAdapter h hValid₀ hValid
  intro hSame
  rw [hSame, hHex, isIbGuidColons_eq_false hx] at hColons
  cases hColons

theorem addInitiator_agrees_iff (targetName groupName initiator : Text)
    (options : ValidateInitiatorOptions) :
    (HostRequest.addInitiator targetName groupName initiator options).Agrees toLowerCase c ↔
      (HostRequest.addInitiator targetName groupName initiator options).Coincides
        toLowerCase c := by
  rw [addInitiator_agrees_iff_usable]
  unfold HostRequest.Coincides
  refine forall_congr' fun target => forall_congr' fun group => forall_congr' fun hTarget =>
    forall_congr' fun hGroup => ?_
  cases hAdapter : namesAdapter initiator options with
  | false =>
    have hSame : usableInitiator toLowerCase target groupName initiator ⟨options.type, none⟩ =
        usableInitiator toLowerCase target groupName initiator options := by
      rw [usableInitiator, validateInitiatorValue_default hAdapter, ← usableInitiator]
    rw [hSame, if_neg Bool.false_ne_true]
    exact forall_congr' fun normalized => iff_self_and
  | true =>
    rw [if_pos rfl]
    constructor
    · intro h
      have hNone : usableInitiator toLowerCase target groupName initiator ⟨options.type, none⟩ =
          none := by
        refine Option.eq_none_iff_forall_ne_some.mpr fun shown hShown => ?_
        exact usableInitiator_ne hAdapter hShown ((h shown).mp hShown).1 rfl
      refine ⟨hNone, fun normalized hUsable => ?_⟩
      by_contra hFresh
      push Not at hFresh
      have hShown := (h normalized).mpr ⟨hUsable, hFresh⟩
      rw [hNone] at hShown
      cases hShown
    · rintro ⟨hNone, hTaken⟩ normalized
      rw [hNone]
      constructor
      · intro hShown
        cases hShown
      · rintro ⟨hUsable, hFresh⟩
        obtain ⟨i, hi, hSame⟩ := hTaken normalized hUsable
        exact absurd hSame (hFresh i hi)

/-- The preflight of a request agrees with the change exactly if they coincide: always for groups
and LUNs, and for initiators in what the preflight does not look at. -/
theorem preflight_agrees_iff (t : Text) (x : HostRequest) :
    x.Agrees toLowerCase (parseScstConfSafe t) ↔
      x.Coincides toLowerCase (parseScstConfSafe t) := by
  cases x with
  | createGroup targetName groupName => exact iff_of_true (createGroup_agrees _ _) trivial
  | addInitiator targetName groupName initiator options => exact addInitiator_agrees_iff _ _ _ _
  | deleteGroup targetName groupName => exact iff_of_true (deleteGroup_agrees _ _) trivial
  | removeInitiator targetName groupName initiator =>
    have hc : (parseScstConfSafe t).WellFormed := by
      rw [parseScstConfSafe_eq]
      exact parseScstConf_wellFormed t
    exact removeInitiator_agrees_iff hc _ _ _
  | mapLun targetName groupName lunId deviceName readOnly =>
    exact iff_of_true (mapLun_agrees _ _ _ _ _) trivial
  | unmapLun targetName groupName lunId => exact iff_of_true (unmapLun_agrees _ _ _) trivial

def groupedHostConf : Text :=
  ("TARGET_DRIVER iscsi \x7b\n\tTARGET iqn.t \x7b\n\t\tGROUP g \x7b\n" ++
    "\t\t\tINITIATOR iqn.2020-01.host:a\n\t\t\x7d\n\t\x7d\n\x7d\n").toList

def addAgain : HostRequest :=
  .addInitiator "iqn.t".toList "g".toList "iqn.2020-01.host:a".toList ⟨none, none⟩

/-- The initiator is added to the group once more: the preflight is ok, the change is refused. -/
theorem groupedHostConf_disagrees :
    ¬ addAgain.Agrees (·.map Char.toLower) (parseScstConfSafe groupedHostConf) := by
  rintro ⟨hSame, -⟩
  obtain ⟨c', hEdit⟩ := hSame.mp (by decide +kernel)
  have hRefused : ((addAgain.mutator (parseScstConfSafe groupedHostConf)).edit (·.map Char.toLower)
      (parseScstConfSafe groupedHostConf)).isOk = false := by
    decide +kernel
  rw [hEdit] at hRefused
  cases hRefused

end EsosWebui.Scst
