import EsosWebui.Fs.MountSources
import EsosWebui.Js.JsonReads
import EsosWebui.Js.Throw

/-! What `findmnt` prints of a forest of mounts, as a tree and as a list, and the rows that are read
of it: of the tree those of the top mounts, and of a line the first three words. -/
namespace EsosWebui.Fs

open Js

/-- A mounted file system of a supported type. A block device is no directory. -/
structure Mount where
  target : Text
  source : Text
  fstype : Text
  options : Text
  rooted : ['/'] <+: target
  supported : fstype ∈ fsTypes
  device : source ≠ target

inductive MountTree where
  | mount (top : Mount) (children : List MountTree)

def MountTree.top : MountTree → Mount
  | .mount top _ => top

mutual

def MountTree.mounts : MountTree → List Mount
  | .mount top children => top :: mountsOf children

def mountsOf : List MountTree → List Mount
  | [] => []
  | tree :: forest => tree.mounts ++ mountsOf forest

end

def Mount.row (m : Mount) : MountRow :=
  { target := m.target, source := m.source, fstype := m.fstype }

mutual

/-- The mountpoints that `lsblk` shows, at any depth. -/
def BlockNode.mountpoints : BlockNode → List Text
  | .node _ _ mountpoint _ children => mountpoint.toList ++ mountpointsOf children

def mountpointsOf : List BlockNode → List Text
  | [] => []
  | block :: blocks => block.mountpoints ++ mountpointsOf blocks

end

mutual

def MountTree.json : MountTree → Json
  | .mount top [] => .object
      [("target".toList, .string top.target), ("source".toList, .string top.source),
        ("fstype".toList, .string top.fstype), ("options".toList, .string top.options)]
  | .mount top (child :: children) => .object
      [("target".toList, .string top.target), ("source".toList, .string top.source),
        ("fstype".toList, .string top.fstype), ("options".toList, .string top.options),
        ("children".toList, .array (child.json :: jsonOf children))]

def jsonOf : List MountTree → List Json
  | [] => []
  | tree :: forest => tree.json :: jsonOf forest

end

/-- A text that stands for what `findmnt -J` prints, however it is spaced. -/
def PrintsTree (forest : List MountTree) (text : Text) : Prop :=
  Json.parse text = some (.object [("filesystems".toList, .array (jsonOf forest))])

/-- How a listing prints the characters that would break a line or the terminal. -/
structure Listing where
  coded : Char → Bool
  code : Char → Text
  newline : coded '\n' = true
  graphic : ∀ c, IsGraphic c → coded c = false
  clean : ∀ c, ∀ d ∈ code c, coded d = false

def Listing.shown (listing : Listing) (text : Text) : Text :=
  text.flatMap fun c => if listing.coded c then listing.code c else [c]

/-- The line of a mount, whose columns are filled up with blanks. -/
def Listing.ShowsLine (listing : Listing) (m : Mount) (line : Text) : Prop :=
  ∃ first second third : Nat,
    line = listing.shown m.target ++ List.replicate (first + 1) ' ' ++
      (listing.shown m.source ++ List.replicate (second + 1) ' ' ++
        (m.fstype ++ List.replicate third ' '))

/-- A text that stands for what `findmnt -lo TARGET,SOURCE,FSTYPE` prints: the mounts in some order,
with or without the headings. -/
def PrintsList (listing : Listing) (mounts : List Mount) (text : Text) : Prop :=
  ∃ headings order ls, (∀ line ∈ headings, "TARGET".toList <+: line ∧ '\n' ∉ line) ∧
    order.Perm mounts ∧ List.Forall₂ listing.ShowsLine order ls ∧
    text = joinLines (headings ++ ls ++ [[]])

variable {listing : Listing} {forest : List MountTree} {m : Mount}

mutual

def MountTree.printed : MountTree → Text
  | .mount top [] => jsonObject
      [("target", jsonString (String.ofList top.target)),
        ("source", jsonString (String.ofList top.source)),
        ("fstype", jsonString (String.ofList top.fstype)),
        ("options", jsonString (String.ofList top.options))]
  | .mount top (child :: children) => jsonObject
      [("target", jsonString (String.ofList top.target)),
        ("source", jsonString (String.ofList top.source)),
        ("fstype", jsonString (String.ofList top.fstype)),
        ("options", jsonString (String.ofList top.options)),
        ("children", jsonArray id (child.printed :: printedOf children))]

def printedOf : List MountTree → List Text
  | [] => []
  | tree :: forest => tree.printed :: printedOf forest

end

theorem reads_jsonString (text : Text) :
    Json.Reads (jsonString (String.ofList text)) (.string text) := by
  have hReads := Json.Reads.string (String.ofList text)
  rwa [String.toList_ofList] at hReads

theorem fieldReads_jsonString (key : String) (text : Text) :
    Json.FieldReads (key, jsonString (String.ofList text)) (key.toList, .string text) :=
  ⟨rfl, reads_jsonString text⟩

mutual

theorem MountTree.reads_printed : ∀ tree : MountTree, Json.Reads tree.printed tree.json
  | .mount top [] => by
      rw [MountTree.printed, MountTree.json]
      exact Json.Reads.object
        (.cons (fieldReads_jsonString _ _) (.cons (fieldReads_jsonString _ _)
          (.cons (fieldReads_jsonString _ _) (.cons (fieldReads_jsonString _ _) .nil))))
  | .mount top (child :: children) => by
      rw [MountTree.printed, MountTree.json]
      have hChildren : Json.FieldReads
          ("children", jsonArray id (child.printed :: printedOf children))
          ("children".toList, .array (child.json :: jsonOf children)) :=
        ⟨rfl, Json.Reads.array (reads_printedOf (child :: children))⟩
      exact Json.Reads.object
        (.cons (fieldReads_jsonString _ _) (.cons (fieldReads_jsonString _ _)
          (.cons (fieldReads_jsonString _ _) (.cons (fieldReads_jsonString _ _)
            (.cons hChildren .nil)))))

theorem reads_printedOf : ∀ forest : List MountTree,
    List.Forall₂ (fun text value => Json.Reads (id text) value) (printedOf forest) (jsonOf forest)
  | [] => .nil
  | tree :: forest => .cons tree.reads_printed (reads_printedOf forest)

end

theorem exists_printsTree (forest : List MountTree) : ∃ text, PrintsTree forest text := by
  have hField : Json.FieldReads ("filesystems", jsonArray id (printedOf forest))
      ("filesystems".toList, .array (jsonOf forest)) :=
    ⟨rfl, Json.Reads.array (reads_printedOf forest)⟩
  exact ⟨_, (Json.Reads.object (.cons hField .nil)).parse⟩

theorem prefix_trim {word text : Text} (hWord : IsWord word) (h : word <+: text) :
    word <+: trim text := by
  obtain ⟨rest, rfl⟩ := h
  obtain ⟨c, tail, rfl⟩ := List.exists_cons_of_ne_nil hWord.ne_nil
  have hTrim : trimEnd (c :: tail) = c :: tail :=
    (trimEnd_eq_self_iff _).mpr fun d hd => hWord.2 d (List.mem_of_mem_getLast? hd)
  have hCons : c :: trimEnd (tail ++ rest) = trimEnd (c :: tail ++ rest) :=
    (trimEnd_append_cons (hWord.2 c List.mem_cons_self) [] (tail ++ rest)).symm
  rw [List.cons_append, trim_cons (hWord.2 c List.mem_cons_self), hCons, trimEnd_append hTrim]
  exact List.prefix_append _ _

def Mount.treeRow (m : Mount) : Option MountRow :=
  if isFsMountPath (trim m.target) then
    some { target := trim m.target, source := trim m.source, fstype := m.fstype }
  else none

theorem findmntElement_json (tree : MountTree) :
    findmntElement tree.json = some tree.top.treeRow := by
  obtain ⟨m, children⟩ := tree
  have hTarget :
      trimmedField "target" (MountTree.mount m children).json = some (trim m.target) := by
    cases children <;> rfl
  have hSource :
      trimmedField "source" (MountTree.mount m children).json = some (trim m.source) := by
    cases children <;> rfl
  have hType :
      trimmedField "fstype" (MountTree.mount m children).json = some (trim m.fstype) := by
    cases children <;> rfl
  have hSupported : ∀ fstype ∈ fsTypes, trim fstype = fstype ∧ fstype ≠ [] := by decide
  obtain ⟨hTrim, hNe⟩ := hSupported m.fstype m.supported
  have hKnown : fsTypes.contains m.fstype = true := List.contains_iff_mem.mpr m.supported
  rw [findmntElement, hTarget, hSource, hType, hTrim]
  simp only [Option.bind_eq_bind, Option.bind_some, hKnown, Bool.not_true, Bool.and_false,
    Bool.false_and, Bool.false_eq_true, if_false, if_neg hNe, Mount.treeRow, MountTree.top]
  by_cases hPath : isFsMountPath (trim m.target) = true
  · simp [hPath]
  · simp [hPath]

theorem findmntElements_jsonOf (forest : List MountTree) :
    findmntElements (jsonOf forest) = forest.filterMap fun tree => tree.top.treeRow := by
  induction forest with
  | nil => rfl
  | cons tree forest ih =>
    rw [jsonOf, findmntElements, findmntElement_json]
    dsimp only
    rw [ih, List.filterMap_cons]
    cases tree.top.treeRow <;> rfl

theorem parseFindmntJson_eq {text : Text} (h : PrintsTree forest text) :
    parseFindmntJson text = forest.filterMap fun tree => tree.top.treeRow := by
  have hField : Json.field "filesystems"
      (.object [("filesystems".toList, .array (jsonOf forest))]) =
        some (.array (jsonOf forest)) := rfl
  rw [parseFindmntJson, h, Option.bind_some, hField]
  exact findmntElements_jsonOf forest

def Listing.row (listing : Listing) (m : Mount) : Option MountRow :=
  findmntColumns (words (listing.shown m.target) ++ words (listing.shown m.source) ++
    words m.fstype)

theorem shown_append (listing : Listing) (s t : Text) :
    listing.shown (s ++ t) = listing.shown s ++ listing.shown t := List.flatMap_append

theorem shown_eq_self {text : Text} (h : ∀ c ∈ text, listing.coded c = false) :
    listing.shown text = text := by
  induction text with
  | nil => rfl
  | cons c text ih =>
    obtain ⟨hc, hRest⟩ := List.forall_mem_cons.mp h
    have hText : listing.shown text = text := ih hRest
    rw [Listing.shown, List.flatMap_cons, ← Listing.shown, hText, hc]
    rfl

theorem coded_of_mem_shown {text : Text} {c : Char} (h : c ∈ listing.shown text) :
    listing.coded c = false := by
  obtain ⟨d, -, hd⟩ := List.mem_flatMap.mp h
  split at hd
  · exact listing.clean d c hd
  · rename_i hPlain
    rw [List.mem_singleton.mp hd]
    simpa using hPlain

theorem mem_of_mem_words {text word : Text} {c : Char} (hWord : word ∈ words text)
    (hc : c ∈ word) : c ∈ text := by
  have hFlat : c ∈ (words text).flatten := List.mem_flatten.mpr ⟨word, hWord, hc⟩
  rw [flatten_words] at hFlat
  exact (List.mem_filter.mp hFlat).1

theorem words_blanks_append (s t : Text) (n : Nat) :
    words (s ++ List.replicate (n + 1) ' ' ++ t) = words s ++ words t := by
  have hBlanks : ∀ c ∈ List.replicate n ' ', isSpace c = true := by
    intro c hc
    rw [List.eq_of_mem_replicate hc]
    rfl
  rw [List.append_assoc, List.replicate_succ, List.cons_append, words_append_space rfl,
    words_spaces_append hBlanks]

theorem coded_of_graphic (listing : Listing) {text : Text}
    (h : (text.all fun c => decide (IsGraphic c))) :
    ∀ c ∈ text, listing.coded c = false := fun c hc =>
  listing.graphic c (of_decide_eq_true (List.all_eq_true.mp h c hc))

theorem coded_of_mem_fstype (listing : Listing) {c : Char} (h : c ∈ m.fstype) :
    listing.coded c = false := by
  have hGraphic : ∀ fstype ∈ fsTypes, (fstype.all fun c => decide (IsGraphic c)) = true := by
    decide
  exact coded_of_graphic listing (hGraphic m.fstype m.supported) c h

theorem newline_not_mem_shownLine {line : Text} (h : listing.ShowsLine m line) : '\n' ∉ line := by
  obtain ⟨first, second, third, rfl⟩ := h
  have hShown (text : Text) : '\n' ∉ listing.shown text := fun hMem =>
    absurd (coded_of_mem_shown hMem) (by simp [listing.newline])
  have hType : '\n' ∉ m.fstype := fun hMem =>
    absurd (coded_of_mem_fstype listing hMem) (by simp [listing.newline])
  simp [hShown, hType]

theorem shown_rooted (listing : Listing) (m : Mount) :
    ∃ rest, listing.shown m.target = '/' :: rest := by
  obtain ⟨rest, hRest⟩ := m.rooted
  have hSlash : listing.coded '/' = false := listing.graphic _ (by decide)
  refine ⟨listing.shown rest, ?_⟩
  rw [← hRest, shown_append, shown_eq_self (by simpa using hSlash)]
  rfl

theorem findmntLine_eq {line : Text} (h : listing.ShowsLine m line) :
    findmntLine line = listing.row m := by
  have hNoHeading : ¬ (trim line = [] ∨ startsWith (trim line) "TARGET".toList = true) := by
    obtain ⟨first, second, third, rfl⟩ := h
    obtain ⟨rest, hRest⟩ := shown_rooted listing m
    rw [hRest, List.append_assoc, List.cons_append, trim_cons (by decide)]
    rintro (hNil | hStart)
    · exact List.cons_ne_nil _ _ hNil
    · exact absurd (List.cons_prefix_cons.mp (startsWith_iff.mp hStart)).1 (by decide)
  have hBlanks (n : Nat) : ∀ c ∈ List.replicate n ' ', isSpace c = true := by
    intro c hc
    rw [List.eq_of_mem_replicate hc]
    rfl
  rw [findmntLine]
  rw [if_neg hNoHeading]
  obtain ⟨first, second, third, rfl⟩ := h
  rw [words_trim, words_blanks_append, words_blanks_append, words_append_spaces (hBlanks third),
    Listing.row, List.append_assoc]

theorem findmntLine_heading {line : Text} (h : "TARGET".toList <+: line) :
    findmntLine line = none := by
  have hStart := startsWith_iff.mpr (prefix_trim (by decide) h)
  rw [findmntLine, if_pos (Or.inr hStart)]

theorem findmntLines_eq {order : List Mount} {ls : List Text}
    (h : List.Forall₂ listing.ShowsLine order ls) :
    ls.filterMap findmntLine = order.filterMap listing.row := by
  induction h with
  | nil => rfl
  | cons hLine hRest ih => rw [List.filterMap_cons, List.filterMap_cons, findmntLine_eq hLine, ih]

theorem parseFindmntLines_eq {headings : List Text} {order : List Mount} {ls : List Text}
    (hHeadings : ∀ line ∈ headings, "TARGET".toList <+: line ∧ '\n' ∉ line)
    (hLines : List.Forall₂ listing.ShowsLine order ls) :
    parseFindmntLines (joinLines (headings ++ ls ++ [[]])) = order.filterMap listing.row := by
  have hNewline : ∀ line ∈ headings ++ ls ++ [[]], '\n' ∉ line := by
    intro line hLine
    rw [List.mem_append, List.mem_append, List.mem_singleton] at hLine
    rcases hLine with (hLine | hLine) | rfl
    · exact (hHeadings line hLine).2
    · obtain ⟨m, -, hShows⟩ := exists_of_forall₂_right hLines hLine
      exact newline_not_mem_shownLine hShows
    · exact List.not_mem_nil
  have hNone : headings.filterMap findmntLine = [] :=
    List.filterMap_eq_nil_iff.mpr fun line hLine => findmntLine_heading (hHeadings line hLine).1
  rw [parseFindmntLines, lines_joinLines hNewline (by simp), List.filterMap_append,
    List.filterMap_append, hNone, findmntLines_eq hLines]
  simp [findmntLine, trim, trimStart, trimEnd]

end EsosWebui.Fs
