import EsosWebui.Scst.Entries
import EsosWebui.Scst.HostsPreflight
import EsosWebui.Scst.Rewritable

/-! The lines by which the written file differs, and what the previews show of them. -/
namespace EsosWebui.Scst

open Js

/-- The lines of one file are those of another one with some more among them. -/
def DiffersBy (fewer more lines : List Text) : Prop :=
  fewer.Sublist more ∧ (fewer ++ lines).Perm more

namespace DiffersBy

theorem context {fewer more lines : List Text} (h : DiffersBy fewer more lines)
    (before after : List Text) :
    DiffersBy (before ++ fewer ++ after) (before ++ more ++ after) lines := by
  refine ⟨((List.Sublist.refl before).append h.1).append (List.Sublist.refl after), ?_⟩
  rw [List.append_assoc]
  refine (List.Perm.append_left _ List.perm_append_comm).trans ?_
  rw [← List.append_assoc, List.append_assoc before]
  exact (h.2.append_left before).append_right after

theorem insert (before lines after : List Text) :
    DiffersBy (before ++ after) (before ++ lines ++ after) lines := by
  simpa using (show DiffersBy [] lines lines from ⟨List.nil_sublist _, .refl _⟩).context before after

theorem filter {α : Type} (lines : α → List Text) (p : α → Bool) (l : List α) :
    DiffersBy ((l.filter p).flatMap lines) (l.flatMap lines)
      ((l.filter (!p ·)).flatMap lines) := by
  refine ⟨List.filter_sublist.flatMap lines, ?_⟩
  rw [← List.flatMap_append]
  exact (List.filter_append_perm p l).flatMap_right lines

theorem eq_singleton {fewer more lines : List Text} {line : Text} (h : DiffersBy fewer more [line])
    (h' : DiffersBy fewer more lines) : lines = [line] :=
  List.perm_singleton.mp ((List.perm_append_left_iff fewer).mp (h'.2.trans h.2.symm))

end DiffersBy

theorem flatMap_modify_split {α β : Type} {l : List α} {i : Nat} {a : α} (hAt : l[i]? = some a)
    (g : α → List β) :
    ∃ before after, l.flatMap g = before ++ g a ++ after ∧
      ∀ f, (l.modify i f).flatMap g = before ++ g (f a) ++ after := by
  induction l generalizing i with
  | nil => cases hAt
  | cons x l ih =>
    cases i with
    | zero =>
      obtain rfl := Option.some.inj hAt
      exact ⟨[], l.flatMap g, by simp, fun f => by simp⟩
    | succ i =>
      obtain ⟨before, after, hOld, hNew⟩ := ih hAt
      exact ⟨g x ++ before, after, by simp [hOld], fun f => by simp [hNew]⟩

section

variable {c : ScstConfig} {d t g : Nat} {driver : Driver} {target : Target} {group : Group}

theorem lines_modifyTarget (hDriver : c.drivers[d]? = some driver)
    (hTarget : driver.targets[t]? = some target) :
    ∃ before after, c.lines = before ++ target.lines ++ after ∧
      ∀ f, (c.modifyTarget d t f).lines = before ++ (f target).lines ++ after := by
  obtain ⟨b₁, a₁, hOld₁, hNew₁⟩ := flatMap_modify_split hDriver Driver.lines
  obtain ⟨b₂, a₂, hOld₂, hNew₂⟩ := flatMap_modify_split hTarget Target.lines
  refine ⟨c.handlers.flatMap Handler.lines ++ b₁ ++
      [templateLine 0 [Keyword.targetDriver, driver.name, openBrace]] ++
      (if driver.enabled then [] else [templateLine 1 [Keyword.enabled, ['0']]]) ++ b₂,
    a₂ ++ [templateLine 0 [closeBrace], []] ++ a₁ ++
      c.deviceGroups.flatMap AluaDeviceGroupConfig.lines, ?_, fun f => ?_⟩
  · rw [ScstConfig.lines, hOld₁]
    simp only [Driver.lines, hOld₂, List.append_assoc]
  · rw [ScstConfig.lines]
    simp only [ScstConfig.modifyTarget, ScstConfig.modifyDriver, hNew₁]
    simp only [Driver.lines, Driver.modifyTarget, hNew₂, List.append_assoc]
    rfl

theorem lines_modifyGroup (hDriver : c.drivers[d]? = some driver)
    (hTarget : driver.targets[t]? = some target) (hGroup : target.groups[g]? = some group) :
    ∃ before after, c.lines = before ++ group.lines ++ after ∧
      ∀ f, (c.modifyGroup d t g f).lines = before ++ (f group).lines ++ after := by
  obtain ⟨b₁, a₁, hOld₁, hNew₁⟩ := lines_modifyTarget hDriver hTarget
  obtain ⟨b₂, a₂, hOld₂, hNew₂⟩ := flatMap_modify_split hGroup Group.lines
  refine ⟨b₁ ++ [templateLine 1 [Keyword.target, target.name, openBrace]] ++
      (if target.hwTarget then [templateLine 2 [Keyword.hwTarget]] else []) ++
      (if target.enabled then [] else [templateLine 2 [Keyword.enabled, ['0']]]) ++
      attrLines 2 target.attrs ++ b₂,
    a₂ ++ target.luns.flatMap (Lun.lines 2) ++ [templateLine 1 [closeBrace]] ++ a₁,
    ?_, fun f => ?_⟩
  · rw [hOld₁]
    simp only [Target.lines, hOld₂, List.append_assoc]
  · rw [ScstConfig.modifyGroup, hNew₁]
    simp only [Target.lines, Target.modifyGroup, hNew₂, List.append_assoc]
    rfl

end

def shownLines (preview : List Text) : List Text :=
  ((preview.flatMap (·.splitOn '\n')).map trim).filter (·.head? ≠ some '#')

/-- A preview shows the lines that come to the file up to the tabs before them, and as a comment
what goes: the line of an initiator, the groups of a name, the LUNs of an id. -/
def HostRequest.Shows (c c' : ScstConfig) (preview : List Text) : HostRequest → Prop
  | createGroup _ _ | addInitiator _ _ _ _ | mapLun _ _ _ _ _ =>
    ∃ lines, DiffersBy c.lines c'.lines lines ∧ lines.map trim = shownLines preview
  | removeInitiator _ _ _ =>
    ∃ lines, DiffersBy c'.lines c.lines lines ∧
      preview = lines.map fun line => "# remove ".toList ++ trim line
  | deleteGroup _ _ =>
    ∃ groups : List Group, groups ≠ [] ∧
      DiffersBy c'.lines c.lines (groups.flatMap Group.lines) ∧
      ∀ g ∈ groups, preview = ["# remove GROUP ".toList ++ g.name]
  | unmapLun _ groupName _ =>
    ∃ luns : List Lun, luns ≠ [] ∧ DiffersBy c'.lines c.lines (luns.flatMap (Lun.lines 3)) ∧
      ∀ l ∈ luns,
        preview = ["# remove LUN ".toList ++ l.id.toText ++ " from GROUP ".toList ++ groupName]

variable {toLowerCase : Text → Text} {c c' : ScstConfig}

theorem shownLines_cons (line : Text) (preview : List Text) :
    shownLines (line :: preview) = shownLines [line] ++ shownLines preview := by
  simp [shownLines]

theorem shownLines_intercalate {lines : List (Nat × List Text)} (hNe : lines ≠ [])
    (h : ∀ l ∈ lines, (∀ w ∈ l.2, IsWord w) ∧ ([' '].intercalate l.2).head? ≠ some '#') :
    shownLines [['\n'].intercalate (lines.map fun l => templateLine l.1 l.2)] =
      lines.map fun l => [' '].intercalate l.2 := by
  have hOne : ∀ l ∈ lines.map (fun l => templateLine l.1 l.2), '\n' ∉ l :=
    List.forall_mem_map.mpr fun l hl => oneLine_of_words l.1 (h l hl).1
  have hSplit := List.splitOn_intercalate '\n' hOne (by simpa using hNe)
  have hTrim : (lines.map fun l => templateLine l.1 l.2).map trim =
      lines.map fun l => [' '].intercalate l.2 := by
    rw [List.map_map]
    exact List.map_congr_left fun l hl => trim_templateLine l.1 (h l hl).1
  rw [shownLines, List.flatMap_singleton, hSplit, hTrim, List.filter_eq_self]
  exact List.forall_mem_map.mpr fun l hl => by simpa using (h l hl).2

theorem shownLines_words {parts : List Text} (h : ∀ w ∈ parts, IsWord w)
    (hComment : ([' '].intercalate parts).head? ≠ some '#') :
    shownLines [[' '].intercalate parts] = [[' '].intercalate parts] := by
  have hOne : ∀ l ∈ [((0 : Nat), parts)],
      (∀ w ∈ l.2, IsWord w) ∧ ([' '].intercalate l.2).head? ≠ some '#' := by
    simpa using ⟨h, hComment⟩
  simpa [List.intercalate, templateLine] using shownLines_intercalate (by simp) hOne

theorem createGroup_shows {targetName groupName : Text}
    (h : createGroup targetName groupName c = .ok c') :
    (HostRequest.createGroup targetName groupName).Shows c c'
      ["GROUP ".toList ++ trim groupName ++ " \x7b".toList, "\t# INITIATOR …".toList,
        "\t# LUN …".toList, "\x7d".toList] := by
  obtain ⟨hWord, found, hFound, -, rfl⟩ := createGroup_eq_ok h
  obtain ⟨driver, hDriver, -, hTarget, -⟩ := exists_driver_of_findTargetInConfig hFound
  obtain ⟨before, after, hOld, hNew⟩ := lines_modifyTarget hDriver hTarget
  refine ⟨(Group.mk (trim groupName) [] []).lines, ?_, ?_⟩
  · rw [hOld, hNew]
    apply DiffersBy.context
    have hInsert := DiffersBy.insert (templateLine 1 [Keyword.target, found.target.name, openBrace] ::
        (found.target.ownLines ++ found.target.groups.flatMap Group.lines))
      (Group.mk (trim groupName) [] []).lines
      (found.target.luns.flatMap (Lun.lines 2) ++ [templateLine 1 [closeBrace]])
    simpa [ParserState.target_lines, Target.addGroup, Target.ownLines] using hInsert
  · have hHead : "GROUP ".toList ++ trim groupName ++ " \x7b".toList =
        [' '].intercalate [Keyword.group, trim groupName, openBrace] := by
      simp [List.intercalate, Keyword.group, openBrace]
    have hWords : ∀ w ∈ [Keyword.group, trim groupName, openBrace], IsWord w := by
      simpa using ⟨by decide, hWord, by decide⟩
    rw [shownLines_cons, hHead, shownLines_words hWords (by simp [List.intercalate, Keyword.group])]
    simp only [Group.lines, List.map_append, List.map_cons, List.map_nil, List.flatMap_nil,
      List.append_nil, trim_templateLine 2 hWords]
    have hRest : shownLines ["\t# INITIATOR …".toList, "\t# LUN …".toList, "\x7d".toList] =
        [trim (templateLine 2 [closeBrace])] := by decide
    rw [hRest]

theorem addInitiator_differsBy {targetName groupName initiatorRaw initiator : Text}
    {options : ValidateInitiatorOptions}
    (h : addInitiator toLowerCase targetName groupName initiatorRaw options c =
      .ok (c', initiator)) :
    DiffersBy c.lines c'.lines [templateLine 3 [Keyword.initiator, initiator]] := by
  obtain ⟨-, rfl, found, group, hFound, hGroup, -, -, rfl⟩ := addInitiator_eq_ok h
  obtain ⟨driver, hDriver, -, hTarget, -⟩ := exists_driver_of_findTargetInConfig hFound
  obtain ⟨before, after, hOld, hNew⟩ :=
    lines_modifyGroup hDriver hTarget (findGroup_eq_some hGroup).1
  rw [hOld, hNew]
  apply DiffersBy.context
  have hInsert := DiffersBy.insert (templateLine 2 [Keyword.group, group.value.name, openBrace] ::
      group.value.initiators.map fun i => templateLine 3 [Keyword.initiator, i])
    [templateLine 3 [Keyword.initiator, normalizedInitiator toLowerCase initiatorRaw options]]
    (group.value.luns.flatMap (Lun.lines 3) ++ [templateLine 2 [closeBrace]])
  simpa [ParserState.group_lines, Group.addInitiator] using hInsert

theorem initiatorLine_eq (initiator : Text) :
    [' '].intercalate [Keyword.initiator, initiator] = "INITIATOR ".toList ++ initiator := by
  rw [show "INITIATOR ".toList = Keyword.initiator ++ [' '] from rfl]
  simp [List.intercalate]

theorem initiatorLine_trim {initiator : Text} (h : IsWord initiator) (n : Nat) :
    trim (templateLine n [Keyword.initiator, initiator]) = "INITIATOR ".toList ++ initiator := by
  have hKeyword : IsWord Keyword.initiator := by decide
  have hWords : ∀ w ∈ [Keyword.initiator, initiator], IsWord w := by simpa using ⟨hKeyword, h⟩
  rw [trim_templateLine n hWords, initiatorLine_eq]

theorem addInitiator_shows_iff {targetName groupName initiatorRaw initiator shown : Text}
    {options : ValidateInitiatorOptions} (hShown : IsWord shown)
    (h : addInitiator toLowerCase targetName groupName initiatorRaw options c =
      .ok (c', initiator)) :
    (HostRequest.addInitiator targetName groupName initiatorRaw options).Shows c c'
      ["INITIATOR ".toList ++ shown] ↔ shown = initiator := by
  have hDiffers := addInitiator_differsBy h
  have hWord := (addInitiator_eq_ok h).1
  have hPreview : shownLines ["INITIATOR ".toList ++ shown] = ["INITIATOR ".toList ++ shown] := by
    have hKeyword : IsWord Keyword.initiator := by decide
    have hWords : ∀ w ∈ [Keyword.initiator, shown], IsWord w := by
      simpa using ⟨hKeyword, hShown⟩
    rw [← initiatorLine_eq]
    exact shownLines_words hWords (show some 'I' ≠ some '#' by decide)
  constructor
  · rintro ⟨lines, hLines, hEq⟩
    rw [hDiffers.eq_singleton hLines, hPreview, List.map_singleton, initiatorLine_trim hWord] at hEq
    exact (List.append_cancel_left (List.singleton_inj.mp hEq)).symm
  · rintro rfl
    exact ⟨_, hDiffers, by rw [hPreview, List.map_singleton, initiatorLine_trim hWord]⟩

theorem deleteGroup_shows {targetName groupName : Text} {force : Bool}
    (h : deleteGroup targetName groupName force c = .ok c') :
    (HostRequest.deleteGroup targetName groupName).Shows c c'
      ["# remove GROUP ".toList ++ groupName] := by
  simp only [deleteGroup, bind_eq_ok, orThrow_eq_ok, throwIf_eq_ok, pure_eq_ok, exists_const] at h
  obtain ⟨found, hFound, group, hGroup, -, rfl⟩ := h
  obtain ⟨driver, hDriver, -, hTarget, -⟩ := exists_driver_of_findTargetInConfig hFound
  obtain ⟨hAt, hName⟩ := findGroup_eq_some hGroup
  obtain ⟨before, after, hOld, hNew⟩ := lines_modifyTarget hDriver hTarget
  refine ⟨found.target.groups.filter fun g => !decide (g.name ≠ groupName), ?_, ?_, ?_⟩
  · exact List.ne_nil_of_mem (List.mem_filter.mpr ⟨List.mem_of_getElem? hAt, by simpa using hName⟩)
  · rw [hOld, hNew]
    apply DiffersBy.context
    have hFilter := (DiffersBy.filter Group.lines (fun g : Group => decide (g.name ≠ groupName))
      found.target.groups).context
        (templateLine 1 [Keyword.target, found.target.name, openBrace] :: found.target.ownLines)
        (found.target.luns.flatMap (Lun.lines 2) ++ [templateLine 1 [closeBrace]])
    simpa [ParserState.target_lines, Target.ownLines] using hFilter
  · intro g hg
    have hSame : g.name = groupName := by simpa using (List.mem_filter.mp hg).2
    rw [hSame]

theorem isWord_of_mem_initiators (hc : c.WellFormed) {d t g : Nat} {driver : Driver}
    {target : Target} {group : Group} (hDriver : c.drivers[d]? = some driver)
    (hTarget : driver.targets[t]? = some target) (hGroup : target.groups[g]? = some group)
    {initiator : Text} (h : initiator ∈ group.initiators) : IsWord initiator :=
  (((hc.drivers driver (List.mem_of_getElem? hDriver)).targets target
    (List.mem_of_getElem? hTarget)).groups group (List.mem_of_getElem? hGroup)).initiators _ h

/-- The preview of a removal shows the line that goes exactly if it is spelled as in the file. -/
theorem removeInitiator_shows_iff {targetName groupName initiatorRaw : Text} (hc : c.WellFormed)
    {found : FoundTarget} {group : Found Group} {initiator : Found Text}
    (hFound : findTargetInConfig c targetName = some found)
    (hGroup : findGroup found.target groupName = some group)
    (hInitiator : findFirst (fun i => toLowerCase (trim i) = toLowerCase (trim initiatorRaw))
      group.value.initiators = some initiator) :
    (HostRequest.removeInitiator targetName groupName initiatorRaw).Shows c
        (c.modifyGroup found.driver found.index group.index fun group =>
          { group with initiators := group.initiators.eraseIdx initiator.index })
        ["# remove INITIATOR ".toList ++ trim initiatorRaw] ↔
      initiator.value = trim initiatorRaw := by
  obtain ⟨driver, hDriver, -, hTarget, -⟩ := exists_driver_of_findTargetInConfig hFound
  obtain ⟨hGroupAt, -⟩ := findGroup_eq_some hGroup
  obtain ⟨hAt, -⟩ := findFirst_eq_some hInitiator
  obtain ⟨before, after, hOld, hNew⟩ := lines_modifyGroup hDriver hTarget hGroupAt
  have hWord := isWord_of_mem_initiators hc hDriver hTarget hGroupAt (List.mem_of_getElem? hAt)
  have hDiffers : DiffersBy (c.modifyGroup found.driver found.index group.index fun group =>
      { group with initiators := group.initiators.eraseIdx initiator.index }).lines c.lines
      [templateLine 3 [Keyword.initiator, initiator.value]] := by
    rw [hOld, hNew]
    apply DiffersBy.context
    obtain ⟨first, last, hList, hErase⟩ := exists_split_at hAt
    have hInsert := DiffersBy.insert
      (templateLine 2 [Keyword.group, group.value.name, openBrace] ::
        first.map fun i => templateLine 3 [Keyword.initiator, i])
      [templateLine 3 [Keyword.initiator, initiator.value]]
      (last.map (fun i => templateLine 3 [Keyword.initiator, i]) ++
        (group.value.luns.flatMap (Lun.lines 3) ++ [templateLine 2 [closeBrace]]))
    simp only [ParserState.group_lines, hErase]
    rw [hList]
    simpa using hInsert
  have hRemove : "# remove ".toList ++ ("INITIATOR ".toList ++ initiator.value) =
      "# remove INITIATOR ".toList ++ initiator.value := rfl
  constructor
  · rintro ⟨lines, hLines, hEq⟩
    rw [hDiffers.eq_singleton hLines, List.map_singleton, initiatorLine_trim hWord, hRemove] at hEq
    exact (List.append_cancel_left (List.singleton_inj.mp hEq)).symm
  · intro hSame
    refine ⟨_, hDiffers, ?_⟩
    rw [List.map_singleton, initiatorLine_trim hWord, hRemove, hSame]

def lunParts (lunId : Number) (deviceName : Text) (readOnly : Bool) : List (Nat × List Text) :=
  if readOnly then
    [(0, [Keyword.lun, lunId.toText, deviceName, openBrace]), (1, [Keyword.readOnly, ['1']]),
      (0, [closeBrace])]
  else [(0, [Keyword.lun, lunId.toText, deviceName])]

theorem lunPreview_eq (lunId : Number) (deviceName : Text) (readOnly : Bool) :
    buildLunPreviewLine lunId deviceName readOnly =
      ['\n'].intercalate ((lunParts lunId deviceName readOnly).map fun l =>
        templateLine l.1 l.2) := by
  unfold buildLunPreviewLine lunParts
  rw [show "LUN ".toList = Keyword.lun ++ [' '] from rfl,
    show "\n\tread_only 1\n".toList = '\n' :: '\t' :: (Keyword.readOnly ++ [' ', '1', '\n']) from rfl]
  cases readOnly <;> simp [List.intercalate, templateLine]

theorem lunParts_words {lunId : Number} {deviceName : Text} (hId : IsWord lunId.toText)
    (hDevice : IsWord deviceName) (readOnly : Bool) :
    lunParts lunId deviceName readOnly ≠ [] ∧ ∀ l ∈ lunParts lunId deviceName readOnly,
      (∀ w ∈ l.2, IsWord w) ∧ ([' '].intercalate l.2).head? ≠ some '#' := by
  have hLun : IsWord Keyword.lun := by decide
  have hBrace : IsWord openBrace := by decide
  have hReadOnly : ∀ w ∈ [Keyword.readOnly, ['1']], IsWord w := by decide
  have hClose : ∀ w ∈ [closeBrace], IsWord w := by decide
  cases readOnly with
  | false =>
    refine ⟨List.cons_ne_nil _ _, List.forall_mem_singleton.mpr ⟨?_, ?_⟩⟩
    · simpa using ⟨hLun, hId, hDevice⟩
    · exact show some 'L' ≠ some '#' by decide
  | true =>
    refine ⟨List.cons_ne_nil _ _, List.forall_mem_cons.mpr ⟨⟨?_, ?_⟩,
      List.forall_mem_cons.mpr ⟨⟨hReadOnly, ?_⟩, List.forall_mem_singleton.mpr ⟨hClose, ?_⟩⟩⟩⟩
    · simpa using ⟨hLun, hId, hDevice, hBrace⟩
    · exact show some 'L' ≠ some '#' by decide
    · decide
    · decide

theorem mapLun_shows {targetName groupName : Text} {lunId : Number} {deviceName : Text}
    {readOnly : Bool} {result : Number × Text}
    (h : addLunToGroup targetName groupName lunId deviceName readOnly c = .ok (c', result)) :
    (HostRequest.mapLun targetName groupName lunId deviceName readOnly).Shows c c'
      [buildLunPreviewLine lunId (trim deviceName) readOnly] := by
  obtain ⟨hId, hDevice, found, group, hFound, hGroup, -, -, -, rfl⟩ := addLunToGroup_eq_ok h
  obtain ⟨driver, hDriver, -, hTarget, -⟩ := exists_driver_of_findTargetInConfig hFound
  obtain ⟨before, after, hOld, hNew⟩ :=
    lines_modifyGroup hDriver hTarget (findGroup_eq_some hGroup).1
  refine ⟨Lun.lines 3 (Lun.mk lunId (trim deviceName) readOnly .empty), ?_, ?_⟩
  · rw [hOld, hNew]
    apply DiffersBy.context
    have hInsert := DiffersBy.insert
      (templateLine 2 [Keyword.group, group.value.name, openBrace] ::
        (group.value.initiators.map (fun i => templateLine 3 [Keyword.initiator, i]) ++
          group.value.luns.flatMap (Lun.lines 3)))
      (Lun.lines 3 (Lun.mk lunId (trim deviceName) readOnly .empty)) [templateLine 2 [closeBrace]]
    simpa [ParserState.group_lines, Group.addLun] using hInsert
  · obtain ⟨hNe, hParts⟩ := lunParts_words
      (isWord_of_isDigits (printsAsDigits_of_isLunId hId).1) (isWord_of_isDeviceName hDevice) readOnly
    rw [lunPreview_eq, shownLines_intercalate hNe hParts]
    cases readOnly with
    | false =>
      have hWords := (hParts _ List.mem_cons_self).1
      exact congrArg (fun line => [line]) (trim_templateLine 3 hWords)
    | true =>
      have hFirst := (hParts _ List.mem_cons_self).1
      have hSecond := (hParts _ (List.mem_cons_of_mem _ List.mem_cons_self)).1
      have hThird := (hParts _ (List.mem_cons_of_mem _ (List.mem_cons_of_mem _
        List.mem_cons_self))).1
      show [_, _, _] = [_, _, _]
      rw [trim_templateLine 3 hFirst, trim_templateLine 4 hSecond, trim_templateLine 3 hThird]

theorem unmapLun_shows {targetName groupName : Text} {lunId : Number}
    (h : removeLunFromGroup targetName groupName lunId c = .ok c') :
    (HostRequest.unmapLun targetName groupName lunId).Shows c c'
      ["# remove LUN ".toList ++ lunId.toText ++ " from GROUP ".toList ++ groupName] := by
  simp only [removeLunFromGroup, validateUnmapLun, bind_eq_ok, mapError_eq_ok, orThrow_eq_ok,
    throwIf_eq_ok, pure_eq_ok, exists_const] at h
  obtain ⟨found, hFound, ⟨checked, hChecked, -, hAny⟩, group, hGroup, rfl⟩ := h
  obtain rfl : checked = group.value :=
    Option.some.inj (hChecked.symm.trans (find?_of_findFirst hGroup))
  obtain ⟨driver, hDriver, -, hTarget, -⟩ := exists_driver_of_findTargetInConfig hFound
  obtain ⟨before, after, hOld, hNew⟩ :=
    lines_modifyGroup hDriver hTarget (findGroup_eq_some hGroup).1
  refine ⟨group.value.luns.filter fun l => !decide (l.id ≠ lunId), ?_, ?_, ?_⟩
  · rw [Bool.not_eq_false] at hAny
    obtain ⟨l, hl, hSame⟩ := List.any_eq_true.mp hAny
    exact List.ne_nil_of_mem (List.mem_filter.mpr ⟨hl, by simpa using hSame⟩)
  · rw [hOld, hNew]
    apply DiffersBy.context
    have hFilter := (DiffersBy.filter (Lun.lines 3) (fun l : Lun => decide (l.id ≠ lunId))
      group.value.luns).context
        (templateLine 2 [Keyword.group, group.value.name, openBrace] ::
          group.value.initiators.map fun i => templateLine 3 [Keyword.initiator, i])
        [templateLine 2 [closeBrace]]
    simpa [ParserState.group_lines] using hFilter
  · intro l hl
    have hSame : l.id = lunId := by simpa using (List.mem_filter.mp hl).2
    rw [hSame]

end EsosWebui.Scst
