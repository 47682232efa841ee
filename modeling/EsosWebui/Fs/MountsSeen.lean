import EsosWebui.Fs.MountViews

/-! Whether the overview of the file systems shows every mount, whichever output of `findmnt` it
has. -/
namespace EsosWebui.Fs

open Js

def InSubtree (dir path : Text) : Prop := path = dir ∨ dir ++ ['/'] <+: path

/-- Neither the root directory nor in a file system of the kernel. -/
structure Mount.Wanted (m : Mount) : Prop where
  notRoot : m.target ≠ ['/']
  notProc : ¬ InSubtree "/proc".toList m.target
  notSys : ¬ InSubtree "/sys".toList m.target

section

variable (listing : Listing) (forest : List MountTree) (vdiskMountRoots : List Text)
  (df : Text → Text)

/-- Every wanted mount is there once, with its device, and nothing that is not mounted. -/
structure ShowsMounts (lsblk : Option (List BlockNode)) (map : MountMap) : Prop where
  complete : ∀ m ∈ mountsOf forest, m.Wanted →
    map.keys.count m.target = 1 ∧ ∃ entry, map.get m.target = some entry ∧
      entry.1.source = m.source
  sound : ∀ p ∈ map.keys,
    (∃ m ∈ mountsOf forest, m.target = p) ∨ p ∈ mountpointsOf (lsblk.getD [])

/-- The map shows the mounts and is the same with the tree, with the list and with both. -/
def AllMountsSeen : Prop :=
  ∀ tree list lsblk, PrintsTree forest tree → PrintsList listing (mountsOf forest) list →
    ShowsMounts forest lsblk (collectMounts [] list lsblk vdiskMountRoots df) ∧
    ∀ p, (collectMounts tree [] lsblk vdiskMountRoots df).get p =
        (collectMounts [] list lsblk vdiskMountRoots df).get p ∧
      (collectMounts tree list lsblk vdiskMountRoots df).get p =
        (collectMounts [] list lsblk vdiskMountRoots df).get p

def Listing.Plain (text : Text) : Prop := IsWord text ∧ ∀ c ∈ text, listing.coded c = false

/-- The mounts that no output hides. -/
structure PlainLayout : Prop where
  /-- The wanted paths are words and no other file or directory whose name starts as those of the
  kernel. -/
  words : ∀ m ∈ mountsOf forest, m.Wanted →
    listing.Plain m.target ∧ listing.Plain m.source ∧ isFsMountPath m.target = true
  /-- No mount hides another one that differs. -/
  agree : ∀ m ∈ mountsOf forest, m.Wanted → ∀ n ∈ mountsOf forest, n.target = m.target →
    n.row = m.row
  /-- No wanted mount is under another one only. -/
  onTop : ∀ m ∈ mountsOf forest, m.Wanted → ∃ tree ∈ forest, tree.top.target = m.target
  /-- The directories for disk images that have a size are mount points. -/
  measured : ∀ root ∈ measuredRoots vdiskMountRoots df, ∃ m ∈ mountsOf forest, m.target = root

end

variable {listing : Listing} {forest : List MountTree} {vdiskMountRoots : List Text}
  {df : Text → Text} {m n : Mount} {row : MountRow}

theorem Mount.Wanted.of_target (h : m.Wanted) (hSame : n.target = m.target) : n.Wanted :=
  ⟨hSame ▸ h.notRoot, hSame ▸ h.notProc, hSame ▸ h.notSys⟩

theorem isFsMountPath_of_prefix {dir path : Text}
    (hDir : dir = "/proc".toList ∨ dir = "/sys".toList) (h : dir <+: path) :
    isFsMountPath path = false := by
  have hStart := startsWith_iff.mpr h
  rcases hDir with rfl | rfl
  · simp only [isFsMountPath, hStart, Bool.or_true, Bool.true_or, Bool.not_true, Bool.and_false]
  · simp only [isFsMountPath, hStart, Bool.or_true, Bool.not_true, Bool.and_false]

theorem isWord_kernelDir {dir : Text} (hDir : dir = "/proc".toList ∨ dir = "/sys".toList) :
    IsWord dir ∧ (dir.all fun c => decide (IsGraphic c)) = true := by
  rcases hDir with rfl | rfl <;> decide

/-- A mount that is not wanted is the root or starts with the name of a directory of the kernel. -/
theorem not_wanted_cases (h : ¬ m.Wanted) :
    m.target = ['/'] ∨
      ∃ dir, (dir = "/proc".toList ∨ dir = "/sys".toList) ∧ dir <+: m.target := by
  have hPrefix {dir : Text} (hIn : InSubtree dir m.target) : dir <+: m.target := by
    rcases hIn with hSame | hIn
    · exact hSame ▸ List.prefix_refl _
    · exact (List.prefix_append dir ['/']).trans hIn
  by_contra hNone
  push Not at hNone
  refine h ⟨hNone.1, fun hIn => ?_, fun hIn => ?_⟩
  · exact hNone.2 _ (Or.inl rfl) (hPrefix hIn)
  · exact hNone.2 _ (Or.inr rfl) (hPrefix hIn)

theorem treeRow_of_not_wanted (h : ¬ m.Wanted) : m.treeRow = none := by
  have hPath : isFsMountPath (trim m.target) = false := by
    rcases not_wanted_cases h with hRoot | ⟨dir, hDir, hPrefix⟩
    · rw [hRoot]
      decide
    · exact isFsMountPath_of_prefix hDir (prefix_trim (isWord_kernelDir hDir).1 hPrefix)
  rw [Mount.treeRow, hPath]
  rfl

theorem findmntColumns_of_not_path {target : Text} (h : isFsMountPath target = false)
    (rest : List Text) : findmntColumns (target :: rest) = none := by
  unfold findmntColumns
  split
  · rename_i hEq
    obtain ⟨rfl, -⟩ := List.cons.inj hEq
    rw [h]
    rfl
  · rfl

theorem exists_words_append {word : Text} (hWord : IsWord word) (rest : Text) :
    ∃ more others, words (word ++ rest) = (word ++ more) :: others := by
  refine ⟨firstWord rest, words (afterWord rest), ?_⟩
  have hFirst : IsWord (word ++ firstWord rest) := by
    refine ⟨by simp [hWord.ne_nil], fun c hc => ?_⟩
    rcases List.mem_append.mp hc with hc | hc
    · exact hWord.2 c hc
    · exact firstWord_isSpace rest c hc
  conv_lhs => rw [← firstWord_append_afterWord rest, ← List.append_assoc]
  exact words_append hFirst (afterWord_startsWithSpace rest)

theorem listRow_of_not_wanted (listing : Listing) (h : ¬ m.Wanted) : listing.row m = none := by
  have hWords : ∃ first others, words (listing.shown m.target) = first :: others ∧
      isFsMountPath first = false := by
    rcases not_wanted_cases h with hRoot | ⟨dir, hDir, rest, hRest⟩
    · have hSlash : listing.coded '/' = false := listing.graphic _ (by decide)
      refine ⟨['/'], [], ?_, by decide⟩
      rw [hRoot, shown_eq_self (by simpa using hSlash)]
      exact words_word (by decide)
    · obtain ⟨hWord, hGraphic⟩ := isWord_kernelDir hDir
      obtain ⟨more, others, hSplit⟩ := exists_words_append hWord (listing.shown rest)
      refine ⟨dir ++ more, others, ?_, isFsMountPath_of_prefix hDir (List.prefix_append _ _)⟩
      rw [← hRest, shown_append, shown_eq_self (coded_of_graphic listing hGraphic), hSplit]
  obtain ⟨first, others, hFirst, hPath⟩ := hWords
  rw [Listing.row, hFirst, List.cons_append, List.cons_append]
  exact findmntColumns_of_not_path hPath _

theorem rows_of_plain (hTarget : listing.Plain m.target) (hSource : listing.Plain m.source)
    (hPath : isFsMountPath m.target) :
    m.treeRow = some m.row ∧ listing.row m = some m.row := by
  have hType : ∀ fstype ∈ fsTypes, IsWord fstype := by decide
  constructor
  · rw [Mount.treeRow, hTarget.1.trim_eq, hSource.1.trim_eq, if_pos hPath]
    rfl
  · rw [Listing.row, shown_eq_self hTarget.2, shown_eq_self hSource.2, words_word hTarget.1,
      words_word hSource.1, words_word (hType m.fstype m.supported)]
    simp [findmntColumns, hPath, m.supported, Mount.row]

theorem findmntColumns_eq_some {columns : List Text} (h : findmntColumns columns = some row) :
    row.target ∈ columns ∧ row.source ∈ columns ∧ isFsMountPath row.target = true := by
  unfold findmntColumns at h
  split at h
  · split_ifs at h with hPath hType
    obtain rfl := Option.some.inj h
    simpa using hPath
  · cases h

theorem plain_of_listRow (h : listing.row m = some row) :
    listing.Plain row.target ∧ listing.Plain row.source ∧ isFsMountPath row.target = true := by
  have hPlain {word : Text} (hMem : word ∈ words (listing.shown m.target) ++
      words (listing.shown m.source) ++ words m.fstype) : listing.Plain word := by
    rw [List.mem_append, List.mem_append] at hMem
    rcases hMem with (hMem | hMem) | hMem
    · exact ⟨isWord_of_mem_words hMem, fun c hc => coded_of_mem_shown (mem_of_mem_words hMem hc)⟩
    · exact ⟨isWord_of_mem_words hMem, fun c hc => coded_of_mem_shown (mem_of_mem_words hMem hc)⟩
    · refine ⟨isWord_of_mem_words hMem, fun c hc => ?_⟩
      exact coded_of_mem_fstype listing (mem_of_mem_words hMem hc)
  obtain ⟨hTarget, hSource, hPath⟩ := findmntColumns_eq_some h
  exact ⟨hPlain hTarget, hPlain hSource, hPath⟩

theorem top_mem_mountsOf {tree : MountTree} (h : tree ∈ forest) : tree.top ∈ mountsOf forest := by
  induction forest with
  | nil => cases h
  | cons first forest ih =>
    rw [mountsOf, List.mem_append]
    rcases List.mem_cons.mp h with rfl | h
    · obtain ⟨top, children⟩ := tree
      exact Or.inl List.mem_cons_self
    · exact Or.inr (ih h)

def treeRows (forest : List MountTree) : List MountRow :=
  forest.filterMap fun tree => tree.top.treeRow

theorem exists_printsList (listing : Listing) {order mounts : List Mount}
    (hOrder : order.Perm mounts) :
    ∃ text, PrintsList listing mounts text ∧
      parseFindmntLines text = order.filterMap listing.row := by
  have hLines : List.Forall₂ listing.ShowsLine order (order.map fun m =>
      listing.shown m.target ++ List.replicate (0 + 1) ' ' ++
        (listing.shown m.source ++ List.replicate (0 + 1) ' ' ++
          (m.fstype ++ List.replicate 0 ' '))) := by
    rw [List.forall₂_map_right_iff, List.forall₂_same]
    exact fun m _ => ⟨0, 0, 0, rfl⟩
  have hNone : ∀ line ∈ ([] : List Text), "TARGET".toList <+: line ∧ '\n' ∉ line := by simp
  exact ⟨_, ⟨[], order, _, hNone, hOrder, hLines, rfl⟩, parseFindmntLines_eq hNone hLines⟩

theorem PrintsList.rows {text : Text} (h : PrintsList listing (mountsOf forest) text) :
    ∃ order : List Mount, order.Perm (mountsOf forest) ∧
      parseFindmntLines text = order.filterMap listing.row := by
  obtain ⟨headings, order, ls, hHeadings, hOrder, hLines, rfl⟩ := h
  exact ⟨order, hOrder, parseFindmntLines_eq hHeadings hLines⟩

theorem wanted_of_listRow (h : listing.row m = some row) : m.Wanted := by
  by_contra hNot
  rw [listRow_of_not_wanted listing hNot] at h
  cases h

theorem wanted_of_treeRow (h : m.treeRow = some row) : m.Wanted := by
  by_contra hNot
  rw [treeRow_of_not_wanted hNot] at h
  cases h

section

variable (h : PlainLayout listing forest vdiskMountRoots df)

include h

theorem PlainLayout.rows (hm : m ∈ mountsOf forest) (hWanted : m.Wanted) :
    m.treeRow = some m.row ∧ listing.row m = some m.row := by
  obtain ⟨hTarget, hSource, hPath⟩ := h.words m hm hWanted
  exact rows_of_plain hTarget hSource hPath

theorem PlainLayout.mem_listRows {order : List Mount} (hOrder : order.Perm (mountsOf forest)) :
    row ∈ order.filterMap listing.row ↔ ∃ m ∈ mountsOf forest, m.Wanted ∧ m.row = row := by
  rw [List.mem_filterMap]
  constructor
  · rintro ⟨m, hMem, hRow⟩
    have hm := hOrder.mem_iff.mp hMem
    have hWanted := wanted_of_listRow hRow
    rw [(h.rows hm hWanted).2] at hRow
    exact ⟨m, hm, hWanted, Option.some.inj hRow⟩
  · rintro ⟨m, hm, hWanted, rfl⟩
    exact ⟨m, hOrder.mem_iff.mpr hm, (h.rows hm hWanted).2⟩

theorem PlainLayout.mem_treeRows :
    row ∈ treeRows forest ↔ ∃ m ∈ mountsOf forest, m.Wanted ∧ m.row = row := by
  rw [treeRows, List.mem_filterMap]
  constructor
  · rintro ⟨tree, hMem, hRow⟩
    have hm := top_mem_mountsOf hMem
    have hWanted := wanted_of_treeRow hRow
    rw [(h.rows hm hWanted).1] at hRow
    exact ⟨tree.top, hm, hWanted, Option.some.inj hRow⟩
  · rintro ⟨m, hm, hWanted, rfl⟩
    obtain ⟨tree, hMem, hSame⟩ := h.onTop m hm hWanted
    refine ⟨tree, hMem, ?_⟩
    have hTop := top_mem_mountsOf hMem
    rw [(h.rows hTop (hWanted.of_target hSame)).1, h.agree m hm hWanted _ hTop hSame]

theorem PlainLayout.rowAt_treeRows {order : List Mount} (hOrder : order.Perm (mountsOf forest))
    (target : Text) :
    rowAt (treeRows forest) target = rowAt (order.filterMap listing.row) target := by
  refine rowAt_congr ?_ ?_ ?_ target
  · intro l hl r hr hSame
    obtain ⟨m, hm, hWanted, rfl⟩ := h.mem_treeRows.mp hl
    obtain ⟨n, hn, -, rfl⟩ := (h.mem_listRows hOrder).mp hr
    exact (h.agree m hm hWanted n hn hSame.symm).symm
  · exact fun l hl => ⟨l, (h.mem_listRows hOrder).mpr (h.mem_treeRows.mp hl), rfl⟩
  · exact fun r hr => ⟨r, h.mem_treeRows.mpr ((h.mem_listRows hOrder).mp hr), rfl⟩

theorem PlainLayout.rowAt_listRows {order : List Mount} (hOrder : order.Perm (mountsOf forest))
    (hm : m ∈ mountsOf forest) (hWanted : m.Wanted) :
    rowAt (order.filterMap listing.row) m.target = some m.row := by
  obtain ⟨first, hFirst⟩ :=
    rowAt_isSome ((h.mem_listRows hOrder).mpr ⟨m, hm, hWanted, rfl⟩)
  obtain ⟨n, hn, -, rfl⟩ := (h.mem_listRows hOrder).mp (mem_of_rowAt hFirst)
  rw [← h.agree m hm hWanted n hn (target_of_rowAt hFirst)]
  exact hFirst

end

theorem mountpoint_of_blockRow {name : Text} {path mountpoint fstype : Option Text}
    (h : blockRow name path mountpoint fstype = some row) : mountpoint = some row.target := by
  dsimp only [blockRow] at h
  split at h
  · rename_i hRow
    obtain rfl := Option.some.inj h
    cases mountpoint with
    | none => simp at hRow
    | some mp => rfl
  · cases h

mutual

theorem mem_mountpoints : ∀ block : BlockNode, ∀ row ∈ walkLsblk block,
    row.target ∈ block.mountpoints
  | .node name path mountpoint fstype children => by
      intro row hRow
      rw [walkLsblk, List.mem_append, Option.mem_toList] at hRow
      rw [BlockNode.mountpoints, List.mem_append, Option.mem_toList]
      rcases hRow with hRow | hRow
      · exact Or.inl (mountpoint_of_blockRow hRow)
      · exact Or.inr (mem_mountpointsOf children row hRow)

theorem mem_mountpointsOf : ∀ blocks : List BlockNode, ∀ row ∈ walkChildren blocks,
    row.target ∈ mountpointsOf blocks
  | [] => by
      intro row hRow
      cases hRow
  | block :: blocks => by
      intro row hRow
      rw [walkChildren, List.mem_append] at hRow
      rw [mountpointsOf, List.mem_append]
      exact hRow.imp (mem_mountpoints block row) (mem_mountpointsOf blocks row)

end

theorem otherAt_cases {lsblk : Option (List BlockNode)} {target : Text}
    {entry : MountRow × MountOrigin}
    (h : otherAt lsblk vdiskMountRoots df target = some entry) :
    (entry.2 = .lsblk ∧ target ∈ mountpointsOf (lsblk.getD [])) ∨
      (entry.2 = .df ∧ target ∈ measuredRoots vdiskMountRoots df ∧ entry.1.source = target) := by
  rcases Option.or_eq_some_iff.mp h with hBlock | ⟨-, hDf⟩
  · obtain ⟨row, hRow, rfl⟩ := Option.map_eq_some_iff.mp hBlock
    have hIn := mem_mountpointsOf _ row (mem_of_rowAt hRow)
    rw [target_of_rowAt hRow] at hIn
    exact Or.inl ⟨rfl, hIn⟩
  · obtain ⟨row, hRow, rfl⟩ := Option.map_eq_some_iff.mp hDf
    obtain ⟨root, hRoot, rfl⟩ := List.mem_map.mp (mem_of_rowAt hRow)
    obtain rfl : root = target := target_of_rowAt hRow
    exact Or.inr ⟨rfl, hRoot, rfl⟩

theorem PlainLayout.seen (h : PlainLayout listing forest vdiskMountRoots df) :
    AllMountsSeen listing forest vdiskMountRoots df := by
  intro tree list lsblk hTree hList
  obtain ⟨order, hOrder, hRows⟩ := hList.rows
  have hTreeRows : parseFindmntJson tree = treeRows forest := parseFindmntJson_eq hTree
  have hGet (p : Text) : (collectMounts [] list lsblk vdiskMountRoots df).get p =
      ((rowAt (order.filterMap listing.row) p).map fun row => (row, MountOrigin.findmnt)).or
        (otherAt lsblk vdiskMountRoots df p) := by
    rw [get_collectMounts, findmntRows_list, hRows]
  refine ⟨⟨?_, ?_⟩, ?_⟩
  · intro m hm hWanted
    have hEntry := hGet m.target
    rw [h.rowAt_listRows hOrder hm hWanted, Option.map_some, Option.some_or] at hEntry
    have hKey := OrderedMap.mem_keys_iff_get.mpr ⟨_, hEntry⟩
    exact ⟨List.count_eq_one_of_mem (OrderedMap.nodup _) hKey, _, hEntry, rfl⟩
  · intro p hp
    obtain ⟨entry, hEntry⟩ := OrderedMap.mem_keys_iff_get.mp hp
    rw [hGet, Option.or_eq_some_iff] at hEntry
    rcases hEntry with hFirst | ⟨-, hOther⟩
    · obtain ⟨row, hRow, rfl⟩ := Option.map_eq_some_iff.mp hFirst
      obtain ⟨m, hm, -, rfl⟩ := (h.mem_listRows hOrder).mp (mem_of_rowAt hRow)
      exact Or.inl ⟨m, hm, target_of_rowAt hRow⟩
    · rcases otherAt_cases hOther with ⟨-, hBlock⟩ | ⟨-, hRoot, -⟩
      · exact Or.inr hBlock
      · exact Or.inl (h.measured p hRoot)
  · intro p
    rw [hGet, get_collectMounts, get_collectMounts, findmntRows_tree, hTreeRows,
      h.rowAt_treeRows hOrder p]
    refine ⟨rfl, ?_⟩
    unfold findmntRows
    split_ifs with hNone
    · rw [hRows]
    · rw [hTreeRows, h.rowAt_treeRows hOrder p]

section

variable (h : AllMountsSeen listing forest vdiskMountRoots df)

include h

theorem AllMountsSeen.exists_row {order : List Mount} (hOrder : order.Perm (mountsOf forest))
    (hm : m ∈ mountsOf forest) (hWanted : m.Wanted) :
    ∃ row, rowAt (order.filterMap listing.row) m.target = some row ∧
      rowAt (treeRows forest) m.target = some row ∧ row.source = m.source := by
  obtain ⟨tree, hTree⟩ := exists_printsTree forest
  obtain ⟨list, hList, hRows⟩ := exists_printsList listing hOrder
  obtain ⟨hShows, hSame⟩ := h tree list none hTree hList
  obtain ⟨-, entry, hEntry, hSource⟩ := hShows.complete m hm hWanted
  have hTreeEntry := (hSame m.target).1.trans hEntry
  rw [get_collectMounts, findmntRows_list, hRows] at hEntry
  rw [get_collectMounts, findmntRows_tree, parseFindmntJson_eq hTree] at hTreeEntry
  rcases Option.or_eq_some_iff.mp hEntry with hFirst | ⟨-, hOther⟩
  · obtain ⟨row, hRow, rfl⟩ := Option.map_eq_some_iff.mp hFirst
    refine ⟨row, hRow, ?_, hSource⟩
    rcases Option.or_eq_some_iff.mp hTreeEntry with hTop | ⟨-, hOther⟩
    · obtain ⟨top, hTop, hEq⟩ := Option.map_eq_some_iff.mp hTop
      rw [← (Prod.mk.inj hEq).1]
      exact hTop
    · rcases otherAt_cases hOther with ⟨hKind, -⟩ | ⟨hKind, -⟩ <;> cases hKind
  · rcases otherAt_cases hOther with ⟨-, hBlock⟩ | ⟨-, -, hRoot⟩
    · cases hBlock
    · exact absurd (hSource.symm.trans hRoot) m.device

theorem AllMountsSeen.plain (hm : m ∈ mountsOf forest) (hWanted : m.Wanted) :
    listing.Plain m.target ∧ listing.Plain m.source ∧ isFsMountPath m.target = true := by
  obtain ⟨row, hRow, -, hSource⟩ := h.exists_row (List.Perm.refl _) hm hWanted
  obtain ⟨n, -, hLine⟩ := List.mem_filterMap.mp (mem_of_rowAt hRow)
  have hPlain := plain_of_listRow hLine
  rwa [target_of_rowAt hRow, hSource] at hPlain

theorem AllMountsSeen.rowAt_treeRows (hm : m ∈ mountsOf forest) (hWanted : m.Wanted) :
    rowAt (treeRows forest) m.target = some m.row := by
  obtain ⟨before, after, hSplit⟩ := List.append_of_mem hm
  have hOrder : (m :: (before ++ after)).Perm (mountsOf forest) := by
    rw [hSplit]
    exact List.perm_middle.symm
  obtain ⟨hTarget, hSource, hPath⟩ := h.plain hm hWanted
  obtain ⟨row, hRow, hTree, -⟩ := h.exists_row hOrder hm hWanted
  have hFirst : m.row.target = m.target := rfl
  rw [List.filterMap_cons, (rows_of_plain hTarget hSource hPath).2] at hRow
  dsimp only at hRow
  rw [rowAt_cons, if_pos hFirst] at hRow
  exact hTree.trans hRow.symm

theorem AllMountsSeen.onTop (hm : m ∈ mountsOf forest) (hWanted : m.Wanted) :
    ∃ tree ∈ forest, tree.top.target = m.target := by
  have hRow := h.rowAt_treeRows hm hWanted
  obtain ⟨tree, hTree, hTop⟩ := List.mem_filterMap.mp (mem_of_rowAt hRow)
  have hMem := top_mem_mountsOf hTree
  have hPlain := h.plain hMem (wanted_of_treeRow hTop)
  rw [(rows_of_plain hPlain.1 hPlain.2.1 hPlain.2.2).1] at hTop
  exact ⟨tree, hTree, congrArg MountRow.target (Option.some.inj hTop)⟩

theorem AllMountsSeen.layout : PlainLayout listing forest vdiskMountRoots df where
  words := fun _ hm hWanted => h.plain hm hWanted
  agree := by
    intro m hm hWanted n hn hSame
    have hRow := h.rowAt_treeRows hn (hWanted.of_target hSame)
    rw [hSame, h.rowAt_treeRows hm hWanted] at hRow
    exact (Option.some.inj hRow).symm
  onTop := fun _ hm hWanted => h.onTop hm hWanted
  measured := by
    intro root hRoot
    obtain ⟨tree, hTree⟩ := exists_printsTree forest
    obtain ⟨list, hList, -⟩ := exists_printsList listing (List.Perm.refl (mountsOf forest))
    obtain ⟨row, hRow⟩ := rowAt_isSome (List.mem_map_of_mem (f := dfRow) hRoot)
    have hKey : root ∈ (collectMounts [] list none vdiskMountRoots df).keys := by
      rw [OrderedMap.mem_keys_iff_get, get_collectMounts]
      refine Option.isSome_iff_exists.mp ?_
      have hOther : otherAt none vdiskMountRoots df root = some (row, .df) := by
        rw [otherAt]
        have hTarget : rowAt ((measuredRoots vdiskMountRoots df).map dfRow) root = some row := hRow
        rw [hTarget]
        rfl
      rw [hOther, Option.or_some]
      rfl
    rcases (h tree list none hTree hList).1.sound root hKey with hMount | hBlock
    · exact hMount
    · cases hBlock

end

/-- What is mounted under another file system is missed where the tree is read, and a directory for
disk images is taken for a mount. -/
theorem all_mounts_seen_iff (listing : Listing) (forest : List MountTree)
    (vdiskMountRoots : List Text) (df : Text → Text) :
    AllMountsSeen listing forest vdiskMountRoots df ↔
      PlainLayout listing forest vdiskMountRoots df :=
  ⟨fun h => h.layout, fun h => h.seen⟩

/-- Control characters as `?`. -/
def questionMarks : Listing where
  coded := fun c => c.toNat < 32
  code := fun _ => ['?']
  newline := by decide
  graphic := by
    intro c hc
    have hLow := hc.1
    simp only [decide_eq_false_iff_not]
    omega
  clean := by
    intro c d hd
    rw [List.mem_singleton.mp hd]
    decide

def mntA : Mount where
  target := "/mnt/a".toList
  source := "/dev/sdb1".toList
  fstype := "xfs".toList
  options := "rw".toList
  rooted := by decide
  supported := by decide
  device := by decide

def mntAB : Mount where
  target := "/mnt/a/b".toList
  source := "/dev/sdc1".toList
  fstype := "ext4".toList
  options := "rw".toList
  rooted := by decide
  supported := by decide
  device := by decide

/-- `/mnt/a/b` is mounted in `/mnt/a`, of which the tree gives a row. -/
theorem nested_mount_missed :
    ¬ ∀ (listing : Listing) (forest : List MountTree) (vdiskMountRoots : List Text)
      (df : Text → Text), AllMountsSeen listing forest vdiskMountRoots df := by
  intro hAll
  have hSeen := hAll questionMarks [.mount mntA [.mount mntAB []]] [] fun _ => []
  have hMem : mntAB ∈ mountsOf [.mount mntA [.mount mntAB []]] := by
    simp [mountsOf, MountTree.mounts]
  have hWanted : mntAB.Wanted := by
    refine ⟨by decide, ?_, ?_⟩
    · rintro (hSame | hIn)
      · exact absurd hSame (by decide)
      · exact absurd hIn (by decide)
    · rintro (hSame | hIn)
      · exact absurd hSame (by decide)
      · exact absurd hIn (by decide)
  obtain ⟨tree, hTree, hTop⟩ := hSeen.onTop hMem hWanted
  rw [List.mem_singleton.mp hTree] at hTop
  exact absurd hTop (by decide)

end EsosWebui.Fs
