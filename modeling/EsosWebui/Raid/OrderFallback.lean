import EsosWebui.Raid.OsPathStrategies
import EsosWebui.Turns.Fallback

/-! What the order fallback makes of the drives that identifiers, sizes and mounts leave. -/
namespace EsosWebui.Raid.OsPaths

open Js
open Inventory (LogicalDrive HardwareController)
open Turns

variable (lang : Language) (ctx : Context)

def leftTurns : List (List Text × LogicalDrive) :=
  misses Hit.path (strategies lang ctx) [] ctx.ctrl.logicalDrives

def leftDrives : List LogicalDrive := (leftTurns lang ctx).map Prod.snd

def usedByStrategies : List Text :=
  takenAfter Hit.path (strategies lang ctx) [] ctx.ctrl.logicalDrives

def leftPaths : List Text := availablePaths ctx (usedByStrategies lang ctx)

def leftMappings (drives : List EnrichedDrive) : List (Option Hit) :=
  resultsOf (assign Hit.path (strategies lang ctx) [] ctx.ctrl.logicalDrives)
    (drives.map EnrichedDrive.mapping)

def byOrder (path : Text) : Hit := ⟨path, .order, .low, none⟩

def sortMappings (entries : List (LogicalDrive × Option Hit)) : List (LogicalDrive × Option Hit) :=
  entries.mergeSort fun a b => indexLe (parseVdIndex a.1.id) (parseVdIndex b.1.id)

/-- As many drives as paths are left, and the fallback maps all of them, in their order; or their
numbers differ, and it maps none. -/
structure AllOrNothing (drives : List EnrichedDrive) : Prop where
  all : (leftDrives lang ctx).length = (leftPaths lang ctx).length →
    (sortMappings ((leftDrives lang ctx).zip (leftMappings lang ctx drives))).map Prod.snd =
      (sortPaths lang (leftPaths lang ctx)).map fun path => some (byOrder path)
  nothing : (leftDrives lang ctx).length ≠ (leftPaths lang ctx).length →
    ∀ mapping ∈ leftMappings lang ctx drives, ∀ hit ∈ mapping, hit.method ≠ .order

/-- The drive is one of those that are counted, and their number is that of the unused paths. -/
def Fires (unmappedLds : List LogicalDrive) (used : List Text) (ld : LogicalDrive) : Prop :=
  unmappedLds.length = (availablePaths ctx used).length ∧ ld.id ∈ unmappedLds.map (·.id)

/-- No drive is left; or one drive and one path are, and at the drive's turn the counts agree and
its place is that of the path; or their numbers differ, and the counts agree at no turn of a drive
that is left. -/
inductive FallbackFits : Prop where
  | nobody (hLeft : leftTurns lang ctx = [])
  | one {used : List Text} {ld : LogicalDrive} {path : Text} {i : Nat}
      (hLeft : leftTurns lang ctx = [(used, ld)]) (hPath : leftPaths lang ctx = [path])
      (hCount : ctx.withoutCli.length = (availablePaths ctx used).length)
      (hPlace : (sortDrives ctx.withoutCli).findIdx? (fun l => l.id = ld.id) = some i)
      (hPlaced : (sortPaths lang (availablePaths ctx used))[i]? = some path)
  | silent (hCounts : (leftDrives lang ctx).length ≠ (leftPaths lang ctx).length)
      (hFirst : ∀ turn ∈ leftTurns lang ctx, ¬ Fires ctx ctx.withoutCli turn.1 turn.2)
      (hSecond : 2 ≤ (leftDrives lang ctx).length →
        ∀ turn ∈ misses Hit.path (strategies lang ctx) (usedByStrategies lang ctx)
          (leftDrives lang ctx), ¬ Fires ctx (leftDrives lang ctx) turn.1 turn.2)

variable {lang ctx}

theorem mapping_enrichLogicalDrive (unmappedLds : List LogicalDrive) (used : List Text)
    (ld : LogicalDrive) : (enrichLogicalDrive lang ctx unmappedLds used ld).1.mapping =
      orElse (strategies lang ctx) (orderedFallback lang ctx unmappedLds) used ld := by
  unfold enrichLogicalDrive orElse
  dsimp only
  split
  · rename_i hit hHit
    exact hHit.symm
  · rename_i hNone
    exact hNone.symm

theorem enrichLogicalDrive_of_some {unmappedLds : List LogicalDrive} {used : List Text}
    {ld : LogicalDrive} {hit : Hit}
    (h : orElse (strategies lang ctx) (orderedFallback lang ctx unmappedLds) used ld = some hit) :
    (enrichLogicalDrive lang ctx unmappedLds used ld).2 = hit.path :: used := by
  unfold orElse at h
  unfold enrichLogicalDrive
  rw [h]

theorem enrichLogicalDrive_of_none {unmappedLds : List LogicalDrive} {used : List Text}
    {ld : LogicalDrive}
    (h : orElse (strategies lang ctx) (orderedFallback lang ctx unmappedLds) used ld = none) :
    (enrichLogicalDrive lang ctx unmappedLds used ld).2 = used ∧
      (enrichLogicalDrive lang ctx unmappedLds used ld).1.drive = ld := by
  unfold orElse at h
  unfold enrichLogicalDrive
  rw [h]
  exact ⟨rfl, rfl⟩

def IsEntry (enriched : EnrichedDrive) (entry : LogicalDrive × Option Hit) : Prop :=
  enriched.mapping = entry.2 ∧ (entry.2 = none → enriched.drive = entry.1)

theorem enrichDrives_eq (unmappedLds : List LogicalDrive) (used : List Text)
    (lds : List LogicalDrive) :
    List.Forall₂ IsEntry (enrichDrives lang ctx unmappedLds used lds).1
        (lds.zip (assign Hit.path (orElse (strategies lang ctx)
          (orderedFallback lang ctx unmappedLds)) used lds)) ∧
      (enrichDrives lang ctx unmappedLds used lds).2 =
        takenAfter Hit.path (orElse (strategies lang ctx)
          (orderedFallback lang ctx unmappedLds)) used lds := by
  induction lds generalizing used with
  | nil => exact ⟨List.Forall₂.nil, rfl⟩
  | cons ld lds ih =>
    have hMapping := @mapping_enrichLogicalDrive lang ctx unmappedLds used ld
    unfold enrichDrives assign takenAfter
    cases hHit : orElse (strategies lang ctx) (orderedFallback lang ctx unmappedLds) used ld with
    | some hit =>
      obtain ⟨hEntries, hTaken⟩ := ih (hit.path :: used)
      dsimp only
      rw [enrichLogicalDrive_of_some hHit]
      exact ⟨List.Forall₂.cons ⟨hMapping.trans hHit, fun hNone => by cases hNone⟩ hEntries,
        hTaken⟩
    | none =>
      obtain ⟨hUsed, hDrive⟩ := enrichLogicalDrive_of_none hHit
      obtain ⟨hEntries, hTaken⟩ := ih used
      dsimp only
      rw [hUsed]
      exact ⟨List.Forall₂.cons ⟨hMapping.trans hHit, fun _ => hDrive⟩ hEntries, hTaken⟩

section

variable {enriched : List EnrichedDrive} {entries : List (LogicalDrive × Option Hit)}

theorem map_mapping_eq (h : List.Forall₂ IsEntry enriched entries) :
    enriched.map EnrichedDrive.mapping = entries.map Prod.snd :=
  (map_eq_of_forall₂ h fun _ _ hEntry => hEntry.1.symm).symm

theorem map_drive_eq (h : List.Forall₂ IsEntry enriched entries) :
    (enriched.filter (·.mapping.isNone)).map EnrichedDrive.drive = without entries := by
  induction h with
  | nil => rfl
  | @cons e entry enriched entries hEntry _ ih =>
    obtain ⟨ld, mapping⟩ := entry
    cases mapping with
    | some hit =>
      rw [List.filter_cons_of_neg (by simp [hEntry.1]), ih]
      rfl
    | none =>
      rw [List.filter_cons_of_pos (by simp [hEntry.1]), List.map_cons, ih, hEntry.2 rfl]
      rfl

theorem enrichUnmapped_eq (unmapped : List LogicalDrive) (used : List Text)
    (h : List.Forall₂ IsEntry enriched entries) :
    (enrichUnmapped lang ctx unmapped used enriched).map EnrichedDrive.mapping =
      retry Hit.path (orElse (strategies lang ctx) (orderedFallback lang ctx unmapped)) used
        entries := by
  induction h generalizing used with
  | nil => rfl
  | @cons e entry enriched entries hEntry _ ih =>
    obtain ⟨ld, mapping⟩ := entry
    unfold enrichUnmapped
    cases mapping with
    | some hit =>
      rw [if_pos (by rw [hEntry.1]; rfl), List.map_cons, hEntry.1, ih, retry]
    | none =>
      rw [if_neg (by rw [hEntry.1]; exact Bool.false_ne_true), hEntry.2 rfl, retry]
      have hMapping := @mapping_enrichLogicalDrive lang ctx unmapped used ld
      cases hHit : orElse (strategies lang ctx) (orderedFallback lang ctx unmapped) used ld with
      | some hit =>
        dsimp only
        rw [enrichLogicalDrive_of_some hHit, List.map_cons, hMapping, hHit, ih]
      | none =>
        dsimp only
        rw [(enrichLogicalDrive_of_none hHit).1, List.map_cons, hMapping, hHit, ih]

end

theorem enrichController_eq : (enrichController lang ctx).map EnrichedDrive.mapping =
    twoPasses Hit.path (strategies lang ctx) (orderedFallback lang ctx) ctx.withoutCli
      ctx.ctrl.logicalDrives := by
  obtain ⟨hEntries, hTaken⟩ := @enrichDrives_eq lang ctx ctx.withoutCli []
    ctx.ctrl.logicalDrives
  have hLeft := map_drive_eq hEntries
  have hLength := congrArg List.length hLeft
  rw [List.length_map] at hLength
  have hFirst := map_mapping_eq hEntries
  rw [List.map_snd_zip (Nat.le_of_eq length_assign)] at hFirst
  unfold enrichController twoPasses
  dsimp only
  rw [hLength]
  split
  · exact hFirst
  · rw [hTaken]
    exact (congrArg (fun left => List.map EnrichedDrive.mapping (enrichUnmapped lang ctx left _ _))
      hLeft).trans (enrichUnmapped_eq _ _ hEntries)

theorem leftMappings_eq : leftMappings lang ctx (enrichController lang ctx) =
    leftResults Hit.path (strategies lang ctx) (orderedFallback lang ctx) ctx.withoutCli
      ctx.ctrl.logicalDrives := by
  rw [leftMappings, enrichController_eq, leftResults]

section

variable {unmappedLds : List LogicalDrive} {used : List Text} {ld : LogicalDrive} {hit : Hit}

theorem orderedFallback_eq_some : orderedFallback lang ctx unmappedLds used ld = some hit ↔
    unmappedLds.length = (availablePaths ctx used).length ∧ ∃ i path,
      (sortDrives unmappedLds).findIdx? (fun l => l.id = ld.id) = some i ∧
        (sortPaths lang (availablePaths ctx used))[i]? = some path ∧ hit = byOrder path := by
  unfold orderedFallback
  dsimp only
  constructor
  · intro h
    split at h
    · cases h
    · rename_i hCount
      obtain ⟨hEqual, -⟩ := not_or.mp hCount
      obtain ⟨i, hIdx, hPath⟩ := Option.bind_eq_some_iff.mp h
      obtain ⟨path, hGet, rfl⟩ := Option.map_eq_some_iff.mp hPath
      exact ⟨not_not.mp hEqual, i, path, hIdx, hGet, rfl⟩
  · rintro ⟨hCount, i, path, hIdx, hGet, rfl⟩
    have hSome : (availablePaths ctx used).length ≠ 0 := by
      intro hZero
      rw [List.length_eq_zero_iff.mp hZero, sortPaths, List.mergeSort_nil] at hGet
      cases hGet
    rw [if_neg (not_or.mpr ⟨not_not.mpr hCount, hSome⟩), hIdx, Option.bind_some, hGet]
    rfl

/-- It gives nothing when the counts differ, or the drive is none of those that are counted. -/
theorem orderedFallback_eq_none :
    orderedFallback lang ctx unmappedLds used ld = none ↔ ¬ Fires ctx unmappedLds used ld := by
  constructor
  · rintro hNone ⟨hCount, hMem⟩
    obtain ⟨counted, hCounted, hId⟩ := List.mem_map.mp hMem
    have hAny : ((sortDrives unmappedLds).findIdx? fun l => l.id = ld.id).isSome := by
      rw [List.findIdx?_isSome, List.any_eq_true]
      exact ⟨counted, List.mem_mergeSort.mpr hCounted, decide_eq_true hId⟩
    obtain ⟨i, hIdx⟩ := Option.isSome_iff_exists.mp hAny
    obtain ⟨hBound, -⟩ := List.findIdx?_eq_some_iff_getElem.mp hIdx
    have hPlace : i < (sortPaths lang (availablePaths ctx used)).length := by
      rw [sortPaths, List.length_mergeSort, ← hCount]
      rwa [sortDrives, List.length_mergeSort] at hBound
    have hSome := orderedFallback_eq_some.mpr
      ⟨hCount, i, _, hIdx, List.getElem?_eq_getElem hPlace, rfl⟩
    rw [hNone] at hSome
    cases hSome
  · intro hNot
    cases hGiven : orderedFallback lang ctx unmappedLds used ld with
    | none => rfl
    | some hit =>
      obtain ⟨hCount, i, -, hIdx, -⟩ := orderedFallback_eq_some.mp hGiven
      obtain ⟨hBound, hId, -⟩ := List.findIdx?_eq_some_iff_getElem.mp hIdx
      have hMem := List.mem_mergeSort.mp (List.getElem_mem hBound)
      exact absurd ⟨hCount, List.mem_map.mpr ⟨_, hMem, of_decide_eq_true hId⟩⟩ hNot

theorem silent_iff {taken : List Text} {lds : List LogicalDrive} :
    Silent Hit.path (strategies lang ctx) (orderedFallback lang ctx unmappedLds) taken lds ↔
      ∀ turn ∈ misses Hit.path (strategies lang ctx) taken lds,
        ¬ Fires ctx unmappedLds turn.1 turn.2 := by
  unfold Silent
  simp only [orderedFallback_eq_none]

theorem counted_orderedFallback (unmappedLds : List LogicalDrive) :
    Counted Hit.path (orderedFallback lang ctx unmappedLds) (kernelPaths ctx)
      unmappedLds.length where
  mem hGiven := by
    obtain ⟨-, i, path, -, hGet, rfl⟩ := orderedFallback_eq_some.mp hGiven
    have hMem := List.mem_mergeSort.mp (List.mem_of_getElem? hGet)
    obtain ⟨hPath, hFree⟩ := List.mem_filter.mp hMem
    exact ⟨hPath, of_decide_eq_true hFree⟩
  count hGiven := by
    rw [(orderedFallback_eq_some.mp hGiven).1]
    exact congrArg List.length (List.filter_congr fun p _ => decide_eq_decide.mpr Iff.rfl)

end

theorem marked_orderedFallback (unmappedLds : List LogicalDrive) :
    Marked (fun hit => hit.method = .order) (strategies lang ctx)
      (orderedFallback lang ctx unmappedLds) where
  picked h := decide_eq_false (method_of_strategies h)
  given h := by
    obtain ⟨-, i, path, -, -, rfl⟩ := orderedFallback_eq_some.mp h
    rfl

theorem nothing_iff : (∀ mapping ∈ leftMappings lang ctx (enrichController lang ctx),
      ∀ hit ∈ mapping, hit.method ≠ .order) ↔
    (∀ turn ∈ leftTurns lang ctx, ¬ Fires ctx ctx.withoutCli turn.1 turn.2) ∧
      (2 ≤ (leftDrives lang ctx).length →
        ∀ turn ∈ misses Hit.path (strategies lang ctx) (usedByStrategies lang ctx)
          (leftDrives lang ctx), ¬ Fires ctx (leftDrives lang ctx) turn.1 turn.2) := by
  have hResult (mapping : Option Hit) : (∀ hit ∈ mapping, hit.method ≠ .order) ↔
      mapping.any (fun hit => decide (hit.method = .order)) = false := by
    cases mapping <;> simp
  have hBoth := @none_fromFallback_iff _ _ _ (fun hit => hit.method = .order) Hit.path
    (strategies lang ctx) (orderedFallback lang ctx) ctx.withoutCli ctx.ctrl.logicalDrives _
    (kernelPaths ctx) marked_orderedFallback counted_orderedFallback
  rw [silent_iff, silent_iff, ← leftMappings_eq] at hBoth
  simp only [hResult]
  rw [hBoth, leftDrives, List.length_map]
  rfl

theorem length_leftMappings :
    (leftMappings lang ctx (enrichController lang ctx)).length = (leftDrives lang ctx).length := by
  rw [leftMappings_eq, length_leftResults, leftDrives, List.length_map]
  rfl

/-- As each drive that is counted changes the count, two drives or more are not served. -/
theorem not_all_of_many (hMany : 2 ≤ (leftDrives lang ctx).length)
    (hNamed : (leftDrives lang ctx).length = 2 → NamedByPath lang ctx) :
    ¬ ∀ mapping ∈ leftMappings lang ctx (enrichController lang ctx),
      ∃ path ∈ leftPaths lang ctx, mapping = some (byOrder path) := by
  intro hAll
  rw [leftDrives, List.length_map] at hMany hNamed
  have hNot := @not_all_fromFallback _ _ _ (fun hit => hit.method = .order) Hit.path
    (strategies lang ctx) (orderedFallback lang ctx) ctx.withoutCli ctx.ctrl.logicalDrives _
    (kernelPaths ctx) marked_orderedFallback counted_orderedFallback hMany
    fun hTwo => stable_strategies (hNamed hTwo)
  rw [← leftMappings_eq] at hNot
  apply hNot
  intro mapping hMapping
  obtain ⟨path, hPath, rfl⟩ := hAll mapping hMapping
  exact ⟨byOrder path, rfl, rfl, of_decide_eq_true (List.mem_filter.mp hPath).2⟩

theorem AllOrNothing.path_of_mem
    (h : AllOrNothing lang ctx (enrichController lang ctx))
    (hCounts : (leftDrives lang ctx).length = (leftPaths lang ctx).length)
    {mapping : Option Hit}
    (hMapping : mapping ∈ leftMappings lang ctx (enrichController lang ctx)) :
    ∃ path ∈ leftPaths lang ctx, mapping = some (byOrder path) := by
  have hSnd : ((leftDrives lang ctx).zip
      (leftMappings lang ctx (enrichController lang ctx))).map Prod.snd =
        leftMappings lang ctx (enrichController lang ctx) :=
    List.map_snd_zip (Nat.le_of_eq length_leftMappings)
  rw [← hSnd] at hMapping
  obtain ⟨entry, hEntry, rfl⟩ := List.mem_map.mp hMapping
  have hSorted : entry.2 ∈ (sortMappings ((leftDrives lang ctx).zip
      (leftMappings lang ctx (enrichController lang ctx)))).map Prod.snd :=
    List.mem_map_of_mem (List.mem_mergeSort.mpr hEntry)
  rw [h.all hCounts] at hSorted
  obtain ⟨path, hPath, hSame⟩ := List.mem_map.mp hSorted
  exact ⟨path, List.mem_mergeSort.mp hPath, hSame.symm⟩

section

variable {used : List Text} {ld : LogicalDrive} {path : Text}

theorem leftMappings_of_one (hLeft : leftTurns lang ctx = [(used, ld)]) :
    leftMappings lang ctx (enrichController lang ctx) =
      [orderedFallback lang ctx ctx.withoutCli used ld] := by
  rw [leftMappings_eq]
  exact leftResults_of_one (counted_orderedFallback ctx.withoutCli) hLeft

theorem all_of_one_iff (hLeft : leftTurns lang ctx = [(used, ld)])
    (hPath : leftPaths lang ctx = [path]) :
    (sortMappings ((leftDrives lang ctx).zip
        (leftMappings lang ctx (enrichController lang ctx)))).map Prod.snd =
        (sortPaths lang (leftPaths lang ctx)).map (fun path => some (byOrder path)) ↔
      orderedFallback lang ctx ctx.withoutCli used ld = some (byOrder path) := by
  have hDrives : leftDrives lang ctx = [ld] := by rw [leftDrives, hLeft]; rfl
  rw [hDrives, leftMappings_of_one hLeft, hPath, sortPaths, List.mergeSort_singleton, sortMappings]
  simp

end

theorem allOrNothing_of_fits (h : FallbackFits lang ctx) :
    AllOrNothing lang ctx (enrichController lang ctx) := by
  cases h with
  | nobody hLeft =>
    have hDrives : leftDrives lang ctx = [] := by rw [leftDrives, hLeft]; rfl
    have hMappings : leftMappings lang ctx (enrichController lang ctx) = [] := by
      rw [← List.length_eq_zero_iff, length_leftMappings, hDrives]
      rfl
    constructor
    · intro hCounts
      rw [hDrives, List.length_nil] at hCounts
      rw [hDrives, List.length_eq_zero_iff.mp hCounts.symm, sortPaths, sortMappings]
      simp
    · intro _ mapping hMapping
      rw [hMappings] at hMapping
      cases hMapping
  | one hLeft hPath hCount hPlace hPlaced =>
    constructor
    · intro _
      exact (all_of_one_iff hLeft hPath).mpr
        (orderedFallback_eq_some.mpr ⟨hCount, _, _, hPlace, hPlaced, rfl⟩)
    · intro hCounts
      rw [leftDrives, hLeft, hPath] at hCounts
      exact absurd rfl hCounts
  | silent hCounts hFirst hSecond =>
    exact ⟨fun hSame => absurd hSame hCounts, fun _ => nothing_iff.mpr ⟨hFirst, hSecond⟩⟩

theorem fits_of_allOrNothing
    (hNamed : (leftDrives lang ctx).length = 2 → NamedByPath lang ctx)
    (h : AllOrNothing lang ctx (enrichController lang ctx)) : FallbackFits lang ctx := by
  by_cases hCounts : (leftDrives lang ctx).length = (leftPaths lang ctx).length
  · cases hLeft : leftTurns lang ctx with
    | nil => exact .nobody hLeft
    | cons turn turns =>
      cases turns with
      | nil =>
        obtain ⟨used, ld⟩ := turn
        have hOne : (leftPaths lang ctx).length = 1 := by
          rw [← hCounts, leftDrives, hLeft]
          rfl
        obtain ⟨path, hPath⟩ := List.length_eq_one_iff.mp hOne
        obtain ⟨hCount, i, path', hPlace, hPlaced, hSame⟩ :=
          orderedFallback_eq_some.mp ((all_of_one_iff hLeft hPath).mp (h.all hCounts))
        cases hSame
        exact .one hLeft hPath hCount hPlace hPlaced
      | cons second turns =>
        have hMany : 2 ≤ (leftDrives lang ctx).length := by
          rw [leftDrives, hLeft]
          simp
        exact absurd (fun _ => h.path_of_mem hCounts) (not_all_of_many hMany hNamed)
  · obtain ⟨hFirst, hSecond⟩ := nothing_iff.mp (h.nothing hCounts)
    exact .silent hCounts hFirst hSecond

/-- The fallback is all or nothing for a controller when it fits; and only then, but for two drives
that are left while a mount names a disk by another path. -/
theorem allOrNothing_iff_fits (input : MappingInput) {ctrl : HardwareController}
    {drives : List EnrichedDrive} (h : (ctrl, drives) ∈ enrichHardwareLdOsPaths lang input) :
    (FallbackFits lang (input.context lang ctrl) →
        AllOrNothing lang (input.context lang ctrl) drives) ∧
      (((leftDrives lang (input.context lang ctrl)).length = 2 →
          NamedByPath lang (input.context lang ctrl)) →
        AllOrNothing lang (input.context lang ctrl) drives →
          FallbackFits lang (input.context lang ctrl)) := by
  obtain ⟨ctrl', -, hEntry⟩ := List.mem_map.mp h
  cases hEntry
  exact ⟨allOrNothing_of_fits, fits_of_allOrNothing⟩

def plainLanguage : Language where
  toLowerCase text := text.map Char.toLower
  localeCompare a b := compare a b
  withinTolerance a b := 98 * max a b ≤ 100 * min a b

def numberedController (ids : List String) : HardwareController :=
  ⟨"0".toList, ids.map fun id => { id := id.toList, state := .optimal }⟩

def numberedInput (ids disks : List String) : MappingInput where
  controllers := [numberedController ids]
  blockDevices := []
  kernelLogicalDrives := disks.map fun disk =>
    ⟨disk.toList, [], "AVAGO".toList, "MR9361-8i".toList, some ("/dev/".toList ++ disk.toList)⟩

theorem allOrNothing_iff_fits_single :
    ∃ drives, (numberedController ["VD0"], drives) ∈
        enrichHardwareLdOsPaths plainLanguage (numberedInput ["VD0"] ["sda"]) ∧
      AllOrNothing plainLanguage ((numberedInput ["VD0"] ["sda"]).context plainLanguage
        (numberedController ["VD0"])) drives := by
  refine ⟨_, List.mem_cons_self, (allOrNothing_iff_fits _ List.mem_cons_self).1 ?_⟩
  refine .one rfl rfl rfl (i := 0) ?_ ?_
  · change (sortDrives [{ id := "VD0".toList, state := .optimal }]).findIdx? _ = _
    rw [sortDrives, List.mergeSort_singleton]
    rfl
  · change (sortPaths plainLanguage ["/dev/sda".toList])[0]? = _
    rw [sortPaths, List.mergeSort_singleton]
    rfl

/-- The first of two drives gets a path, which leaves one path for two drives that are counted;
and one drive has no second pass. -/
theorem two_drives_half_served :
    ∃ drives, (numberedController ["VD0", "VD1"], drives) ∈
        enrichHardwareLdOsPaths plainLanguage (numberedInput ["VD0", "VD1"] ["sda", "sdb"]) ∧
      ¬ AllOrNothing plainLanguage ((numberedInput ["VD0", "VD1"] ["sda", "sdb"]).context
        plainLanguage (numberedController ["VD0", "VD1"])) drives := by
  refine ⟨_, List.mem_cons_self, fun hAll => ?_⟩
  have hDrives : (leftDrives plainLanguage ((numberedInput ["VD0", "VD1"] ["sda", "sdb"]).context
      plainLanguage (numberedController ["VD0", "VD1"]))).length = 2 := by decide
  have hPaths : (leftPaths plainLanguage ((numberedInput ["VD0", "VD1"] ["sda", "sdb"]).context
      plainLanguage (numberedController ["VD0", "VD1"]))).length = 2 := by decide
  refine not_all_of_many (Nat.le_of_eq hDrives.symm) (fun _ dev hDev => ?_)
    fun _ => hAll.path_of_mem (hDrives.trans hPaths.symm)
  cases hDev

/-- Two drives of one controller are never mapped to one path, where the path of an exposed disk is
that of its name. -/
theorem mapped_paths_nodup (input : MappingInput) {ctrl : HardwareController}
    {drives : List EnrichedDrive} (h : (ctrl, drives) ∈ enrichHardwareLdOsPaths lang input)
    (hNamed : NamedByPath lang (input.context lang ctrl)) :
    (drives.filterMap fun drive => drive.mapping.map Hit.path).Nodup := by
  obtain ⟨ctrl', -, hEntry⟩ := List.mem_map.mp h
  cases hEntry
  have hPaths : (pathsOf Hit.path ((enrichController lang (input.context lang ctrl)).map
      EnrichedDrive.mapping)).Nodup := by
    rw [enrichController_eq]
    refine nodup_twoPasses (path_notMem_of_strategies hNamed) ?_
    intro counted taken d hit hGiven
    obtain ⟨-, i, path, -, hGet, rfl⟩ := orderedFallback_eq_some.mp hGiven
    have hMem := List.mem_mergeSort.mp (List.mem_of_getElem? hGet)
    simpa [byOrder] using (List.mem_filter.mp hMem).2
  rwa [pathsOf, List.filterMap_map] at hPaths

def namedInput : MappingInput :=
  { numberedInput ["VD0", "VD1"] ["sda", "sdb"] with
    blockDevices := ["sda".toList, "sdb".toList].map fun name =>
      { name, path := "/dev/".toList ++ name, type := .disk } }

theorem mapped_paths_nodup_two :
    ∃ drives, (numberedController ["VD0", "VD1"], drives) ∈
        enrichHardwareLdOsPaths plainLanguage namedInput ∧
      (drives.filterMap fun drive => drive.mapping.map Hit.path).Nodup := by
  refine ⟨_, List.mem_cons_self,
    mapped_paths_nodup namedInput List.mem_cons_self fun dev hDev _ => ?_⟩
  obtain ⟨name, -, rfl⟩ := List.mem_map.mp hDev
  rfl

end EsosWebui.Raid.OsPaths
