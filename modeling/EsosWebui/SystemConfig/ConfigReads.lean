import EsosWebui.Ssh.RemoteFileWriter
import EsosWebui.SystemConfig.Hostname

/-! Several files that are read with one command: what the command prints, and what is taken for
the content of each file when the output is whole, and when it is cut. -/
namespace EsosWebui.SystemConfig

open Js
open Ssh (assertAllowedRemoteConfigPath allowedRemoteConfigPaths)

/-- The command that prints the files. -/
def configScript (paths : List Text) : Text :=
  "; ".toList.intercalate (paths.map fun p =>
    "echo \"".toList ++ fileMarker p ++ "\"; cat \"".toList ++ p ++
      "\" 2>/dev/null || echo \"".toList ++ fileNotFound ++ ['"'])

/-- Where the part for a file ends: at the marker of the next one, or with the output. A marker that
is not found has the place -1, which stands for the last character of the text. -/
def endOf (stdout : Text) (next : Option Text) : Nat :=
  next.elim stdout.length fun nextPath =>
    (indexOf (fileMarker nextPath) stdout).getD (stdout.length - 1)

/-- The part of the output that is taken for a file. -/
def fileBetween (stdout path : Text) (next : Option Text) : Text :=
  match indexOf (fileMarker path) stdout with
  | none => fileNotFound
  | some start =>
    let contentStart := start + (fileMarker path).length + 1
    trimEnd ((stdout.take (endOf stdout next)).drop contentStart)

def readFiles (stdout : Text) : List Text → List (Text × Text)
  | [] => []
  | path :: rest => (path, fileBetween stdout path rest.head?) :: readFiles stdout rest

/-- `manager.exec` answers with the output or throws. -/
def readConfigFiles (sanId : Text) (manager : Option (Text → Except Text Text))
    (paths : List Text) : Except Text (List (Text × Text)) := do
  paths.forM assertAllowedRemoteConfigPath
  match manager with
  | none => .error ("No SSH manager for SAN: ".toList ++ sanId)
  | some exec =>
    let stdout ← exec (configScript paths)
    return readFiles stdout paths

section

variable {part s front rest : Text} {i k : Nat}

theorem indexOf_eq_some_iff (hNe : part ≠ []) :
    indexOf part s = some i ↔ part <+: s.drop i ∧ ∀ j < i, ¬ part <+: s.drop j := by
  induction s generalizing i with
  | nil =>
    rw [indexOf, if_neg hNe, List.drop_nil, List.prefix_nil]
    exact iff_of_false (by simp) fun h => hNe h.1
  | cons c s ih =>
    rw [indexOf]
    by_cases hHere : part <+: c :: s
    · rw [if_pos (List.isPrefixOf_iff_prefix.mpr hHere)]
      cases i with
      | zero => exact iff_of_true rfl ⟨hHere, fun j hj => absurd hj (Nat.not_lt_zero j)⟩
      | succ i => exact iff_of_false (by simp) fun h => h.2 0 (Nat.succ_pos i) hHere
    · rw [if_neg fun h => hHere (List.isPrefixOf_iff_prefix.mp h)]
      cases i with
      | zero => exact iff_of_false (by simp) fun h => hHere h.1
      | succ i =>
        rw [Option.map_eq_some_iff]
        constructor
        · rintro ⟨i', hFirst, hEq⟩
          obtain rfl := Nat.succ.inj hEq
          obtain ⟨hThere, hBefore⟩ := ih.mp hFirst
          refine ⟨hThere, fun j hj => ?_⟩
          cases j with
          | zero => exact hHere
          | succ j => exact hBefore j (Nat.lt_of_succ_lt_succ hj)
        · rintro ⟨hThere, hBefore⟩
          exact ⟨i, ih.mpr ⟨hThere, fun j hj => hBefore (j + 1) (Nat.succ_lt_succ hj)⟩, rfl⟩

theorem indexOf_eq_none_iff (hNe : part ≠ []) :
    indexOf part s = none ↔ ∀ j, ¬ part <+: s.drop j := by
  constructor
  · intro hNone j
    induction j using Nat.strong_induction_on with
    | _ j ih =>
      intro hThere
      rw [(indexOf_eq_some_iff hNe).mpr ⟨hThere, ih⟩] at hNone
      cases hNone
  · intro hNowhere
    cases hFirst : indexOf part s with
    | none => rfl
    | some i => exact absurd ((indexOf_eq_some_iff hNe).mp hFirst).1 (hNowhere i)

theorem exists_indexOf_le (hNe : part ≠ []) (h : part <+: s.drop k) :
    ∃ i ≤ k, indexOf part s = some i := by
  cases hFirst : indexOf part s with
  | none => exact absurd h ((indexOf_eq_none_iff hNe).mp hFirst k)
  | some i =>
    refine ⟨i, Nat.le_of_not_lt fun hLt => ?_, rfl⟩
    exact ((indexOf_eq_some_iff hNe).mp hFirst).2 k hLt h

theorem prefix_drop_of_prefix_drop_append (h : part <+: (s ++ rest).drop k)
    (hFits : k + part.length ≤ s.length) : part <+: s.drop k := by
  rw [List.drop_append_of_le_length (by omega)] at h
  exact List.prefix_of_prefix_length_le h (List.prefix_append _ _) (by simp; omega)

theorem indexOf_take_of_first (hNe : part ≠ [])
    (hFirst : indexOf part (front ++ part) = some front.length) (rest : Text) (k : Nat) :
    indexOf part ((front ++ (part ++ rest)).take k) =
      if front.length + part.length ≤ k then some front.length else none := by
  have hBefore : ∀ j < front.length, ¬ part <+: ((front ++ (part ++ rest)).take k).drop j := by
    intro j hj hThere
    refine ((indexOf_eq_some_iff hNe).mp hFirst).2 j hj ?_
    have hWhole : part <+: (front ++ part ++ rest).drop j := by
      rw [List.append_assoc]
      exact hThere.trans (List.IsPrefix.drop (List.take_prefix k _) j)
    exact prefix_drop_of_prefix_drop_append hWhole (by simp; omega)
  split_ifs with hWhole
  · refine (indexOf_eq_some_iff hNe).mpr ⟨?_, hBefore⟩
    rw [← List.append_assoc, List.take_append, List.take_of_length_le (by simp; omega),
      List.append_assoc, List.drop_left]
    exact List.prefix_append _ _
  · refine (indexOf_eq_none_iff hNe).mpr fun j hThere => ?_
    by_cases hj : j < front.length
    · exact hBefore j hj hThere
    · have hLength := hThere.length_le
      have hPos := List.length_pos_of_ne_nil hNe
      simp only [List.length_drop, List.length_take] at hLength
      omega

end

def printedContent (files : Text → Option Text) (path : Text) : Text :=
  (files path).getD (fileNotFound ++ ['\n'])

/-- The whole output of the command; `files` has the content of the files that exist. -/
def printed (files : Text → Option Text) (paths : List Text) : Text :=
  paths.flatMap fun path => fileOutput path (files path)

/-- The marker of a file is found where it is printed: not in what is printed before it, nor across
the end of that. -/
def MarkerInPlace (files : Text → Option Text) (before : List Text) (path : Text) : Prop :=
  indexOf (fileMarker path) (printed files before ++ fileMarker path) =
    some (printed files before).length

def MarkersInPlace (files : Text → Option Text) (paths : List Text) : Prop :=
  ∀ before path after, paths = before ++ path :: after → MarkerInPlace files before path

/-- What is read of a file is its content, up to white space at its end, and does not look like the
answer for a file that does not exist; of a file that does not exist it is that answer. -/
def ReadsRight (content : Option Text) (read : Text) : Prop :=
  content.elim (read = fileNotFound) fun c => read = trimEnd c ∧ read ≠ fileNotFound

def Faithful (files : Text → Option Text) (paths : List Text) (result : List (Text × Text)) :
    Prop :=
  result.map Prod.fst = paths ∧ ∀ entry ∈ result, ReadsRight (files entry.1) entry.2

/-- Of an output that is cut after `kept` characters, a file has lost white space at its end and no
more. A file whose marker is not printed does not exist. Where the marker of the next file is not
whole, the last character that is kept is lost too, and of that marker no other one is kept. -/
def PathKept (files : Text → Option Text) (before : List Text) (path : Text)
    (next : Option Text) (kept : Nat) : Prop :=
  let start := (printed files before).length + (fileMarker path).length + 1
  let content := printedContent files path
  if kept + 1 < start then files path = none
  else next.elim ((trimEnd content).length ≤ kept - start) fun nextPath =>
    start + content.length + (fileMarker nextPath).length ≤ kept ∨
      (trimEnd content).length ≤ kept - 1 - start ∧ kept - 1 - start ≤ content.length

section

variable {files : Text → Option Text} {before after paths : List Text} {path nextPath : Text}
  {content rest s t : Text} {c : Char} {n kept : Nat}

theorem fileMarker_eq (path : Text) :
    fileMarker path = '=' :: '=' :: '=' :: 'F' :: ("ILE:".toList ++ path ++ "===".toList) := rfl

theorem exists_fileMarker_eq (path : Text) : ∃ front, fileMarker path = front ++ ['='] := by
  have hEnd : "===".toList = ['=', '='] ++ ['='] := rfl
  have hMarker : fileMarker path = "===FILE:".toList ++ path ++ (['=', '='] ++ ['=']) :=
    congrArg ("===FILE:".toList ++ path ++ ·) hEnd
  exact ⟨_, hMarker.trans (List.append_assoc _ _ _).symm⟩

theorem fileMarker_ne_nil (path : Text) : fileMarker path ≠ [] := List.cons_ne_nil _ _

theorem printed_append (before after : List Text) :
    printed files (before ++ after) = printed files before ++ printed files after :=
  List.flatMap_append

theorem printed_cons (path : Text) (after : List Text) : printed files (path :: after) =
    fileMarker path ++ '\n' :: (printedContent files path ++ printed files after) :=
  List.append_assoc _ _ _

theorem trimEnd_take_eq_iff : trimEnd (s.take n) = trimEnd s ↔ (trimEnd s).length ≤ n := by
  constructor
  · intro hEq
    rw [← hEq]
    exact (length_trimEnd_le _).trans (List.length_take_le n s)
  · intro hLe
    obtain ⟨q, hq, hSplit⟩ := exists_spaces_trimEnd s
    have hTake : s.take n = trimEnd s ++ q.take (n - (trimEnd s).length) := by
      conv_lhs => rw [← hSplit]
      rw [List.take_append, List.take_of_length_le hLe]
    rw [hTake, trimEnd_append_spaces fun d hd => hq d (List.mem_of_mem_take hd)]
    exact List.rdropWhile_idempotent _ _

theorem drop_take_content (before : Text) :
    ((before ++ (fileMarker path ++ '\n' :: s)).take n).drop
        (before.length + (fileMarker path).length + 1) =
      s.take (n - (before.length + (fileMarker path).length + 1)) := by
  rw [List.drop_take]
  congr 1
  rw [← List.append_assoc, List.drop_append, List.drop_of_length_le (by simp)]
  simp

theorem trimEnd_notFound : trimEnd (fileNotFound ++ ['\n']) = fileNotFound := by decide

theorem readsRight_iff_eq {read : Text} : ReadsRight (files path) read ↔
    read = trimEnd (printedContent files path) ∧ ∀ c ∈ files path, trimEnd c ≠ fileNotFound := by
  rw [ReadsRight, printedContent]
  cases files path with
  | none => simp [trimEnd_notFound]
  | some c =>
    simp only [Option.elim_some, Option.getD_some, Option.mem_def, Option.some.injEq,
      forall_eq']
    exact and_congr_right fun hRead => by rw [hRead]

theorem indexOf_printed (hPlace : MarkerInPlace files before path) (after : List Text)
    (kept : Nat) :
    indexOf (fileMarker path) ((printed files (before ++ path :: after)).take kept) =
      if (printed files before).length + (fileMarker path).length ≤ kept
        then some (printed files before).length else none := by
  rw [printed_append, printed_cons]
  exact indexOf_take_of_first (fileMarker_ne_nil path) hPlace _ kept

theorem fileBetween_of_missing (hPlace : MarkerInPlace files before path) (after : List Text)
    (next : Option Text)
    (hKept : kept + 1 < (printed files before).length + (fileMarker path).length + 1) :
    fileBetween ((printed files (before ++ path :: after)).take kept) path next =
      fileNotFound := by
  rw [fileBetween, indexOf_printed hPlace, if_neg (by omega)]

theorem fileBetween_of_whole {stop : Nat} {next : Option Text}
    (hPlace : MarkerInPlace files before path) (after : List Text)
    (hKept : (printed files before).length + (fileMarker path).length ≤ kept)
    (hStop : endOf ((printed files (before ++ path :: after)).take kept) next = stop) :
    fileBetween ((printed files (before ++ path :: after)).take kept) path next =
      trimEnd ((printedContent files path ++ printed files after).take
        (min stop kept - ((printed files before).length + (fileMarker path).length + 1))) := by
  have hIndex := indexOf_printed hPlace after kept
  rw [if_pos hKept] at hIndex
  simp only [fileBetween, hIndex, hStop]
  rw [List.take_take, printed_append, printed_cons, drop_take_content]

theorem trimEnd_take_marker_iff :
    trimEnd ((content ++ (fileMarker nextPath ++ rest)).take n) = trimEnd content ↔
      (trimEnd content).length ≤ n ∧ n ≤ content.length := by
  by_cases hn : n ≤ content.length
  · rw [List.take_append_of_le_length hn, trimEnd_take_eq_iff]
    exact (and_iff_left hn).symm
  · refine iff_of_false (fun hEq => ?_) fun h => hn h.2
    -- a sign of the marker is left, which is no white space
    have hTake : (content ++ (fileMarker nextPath ++ rest)).take n =
        content ++ '=' :: ((fileMarker nextPath ++ rest).tail.take (n - content.length - 1)) := by
      rw [List.take_append, List.take_of_length_le (by omega), fileMarker_eq, List.cons_append,
        List.tail_cons]
      congr 1
      obtain ⟨m, hm⟩ : ∃ m, n - content.length = m + 1 := ⟨n - content.length - 1, by omega⟩
      rw [hm, List.take_succ_cons]
      rfl
    rw [hTake, trimEnd_append_cons (by decide)] at hEq
    have hLength := congrArg List.length hEq
    have hLe := length_trimEnd_le content
    simp only [List.length_append, List.length_cons] at hLength
    omega

/-- A file whose marker is in its place is read right exactly when the cut takes no more of it than
white space. -/
theorem readsRight_iff_pathKept (hPlace : MarkerInPlace files before path)
    (hNext : ∀ nextPath ∈ after.head?, MarkerInPlace files (before ++ [path]) nextPath) :
    ReadsRight (files path)
        (fileBetween ((printed files (before ++ path :: after)).take kept) path after.head?) ↔
      PathKept files before path after.head? kept ∧
        ∀ c ∈ files path, trimEnd c ≠ fileNotFound := by
  rw [readsRight_iff_eq]
  apply and_congr_left
  intro hNames
  rw [PathKept]
  split_ifs with hKept
  · rw [fileBetween_of_missing hPlace after _ hKept, printedContent]
    cases hFile : files path with
    | none => exact iff_of_true trimEnd_notFound.symm rfl
    | some c => exact iff_of_false (fun hEq => hNames c hFile hEq.symm) nofun
  have hWhole : (printed files before).length + (fileMarker path).length ≤ kept := by omega
  have hFront : (printed files (before ++ [path])).length = (printed files before).length +
      (fileMarker path).length + 1 + (printedContent files path).length := by
    rw [printed_append, printed_cons]
    simp [printed]
    omega
  cases after with
  | nil =>
    have hNil : printed files [] = [] := rfl
    rw [fileBetween_of_whole hPlace [] hWhole rfl, List.head?_nil, Option.elim_none, hNil,
      List.append_nil, trimEnd_take_eq_iff, endOf, Option.elim_none, List.length_take, hFront]
    have hLe := length_trimEnd_le (printedContent files path)
    omega
  | cons nextPath after =>
    have hIndex := indexOf_printed (hNext nextPath rfl) after kept
    rw [List.append_assoc, List.singleton_append, hFront] at hIndex
    rw [List.head?_cons, Option.elim_some]
    by_cases hNextWhole : (printed files before).length + (fileMarker path).length + 1 +
        (printedContent files path).length + (fileMarker nextPath).length ≤ kept
    · have hStop : endOf ((printed files (before ++ path :: nextPath :: after)).take kept)
          (some nextPath) = (printed files before).length + (fileMarker path).length + 1 +
            (printedContent files path).length := by
        rw [endOf, Option.elim_some, hIndex, if_pos hNextWhole, Option.getD_some]
      rw [fileBetween_of_whole hPlace _ hWhole hStop, min_eq_left (by omega),
        Nat.add_sub_cancel_left, List.take_left]
      exact iff_of_true rfl (.inl hNextWhole)
    · have hTotal : kept ≤ (printed files (before ++ path :: nextPath :: after)).length := by
        have hSplit : before ++ path :: nextPath :: after =
            (before ++ [path]) ++ nextPath :: after := by simp
        rw [hSplit, printed_append, List.length_append, hFront, printed_cons,
          List.length_append]
        omega
      have hStop : endOf ((printed files (before ++ path :: nextPath :: after)).take kept)
          (some nextPath) = kept - 1 := by
        rw [endOf, Option.elim_some, hIndex, if_neg hNextWhole, Option.getD_none,
          List.length_take, min_eq_left hTotal]
      rw [fileBetween_of_whole hPlace _ hWhole hStop, min_eq_left (Nat.sub_le kept 1),
        printed_cons, trimEnd_take_marker_iff]
      exact (or_iff_right hNextWhole).symm

theorem length_trimEnd_le_cons (c : Char) (s : Text) :
    (trimEnd s).length ≤ (trimEnd (c :: s)).length := by
  obtain ⟨q, hq, hSplit⟩ := exists_spaces_trimEnd (c :: s)
  cases hEnd : trimEnd (c :: s) with
  | nil =>
    rw [hEnd, List.nil_append] at hSplit
    have hSpaces := @trimEnd_append_spaces [] s fun d hd =>
      hq d (hSplit ▸ List.mem_cons_of_mem c hd)
    rw [List.nil_append] at hSpaces
    rw [hSpaces]
    exact Nat.zero_le _
  | cons d u =>
    rw [hEnd, List.cons_append] at hSplit
    rw [← (List.cons.inj hSplit).2, trimEnd_append_spaces hq]
    exact (length_trimEnd_le u).trans (Nat.le_succ _)

theorem not_fileMarker_isPrefix_cons (c : Char) (rest : Text) :
    ¬ fileMarker path <+: c :: (fileMarker path ++ rest) := by
  rw [fileMarker_eq]
  rintro ⟨more, hEq⟩
  simp only [List.cons_append, List.cons.injEq] at hEq
  exact absurd hEq.2.2.2.1 (by decide)

theorem not_readsRight_of_early {i stop : Nat} {next : Option Text}
    (hFirst : indexOf (fileMarker path) (printed files (before ++ path :: after)) = some i)
    (hEarly : i < (printed files before).length)
    (hStop : endOf (printed files (before ++ path :: after)) next = stop)
    (hTake : (printed files (before ++ path :: after)).take stop =
      printed files before ++ (fileMarker path ++ '\n' :: printedContent files path)) :
    ¬ ReadsRight (files path)
      (fileBetween (printed files (before ++ path :: after)) path next) := by
  rw [readsRight_iff_eq]
  rintro ⟨hRead, -⟩
  have hThere := ((indexOf_eq_some_iff (fileMarker_ne_nil path)).mp hFirst).1
  have hGap : i + 2 ≤ (printed files before).length := by
    by_contra hNone
    obtain ⟨front, c, hFront⟩ := (List.eq_nil_or_concat (printed files before)).resolve_left
      fun hNil => by simp [hNil] at hEarly
    have hi : front.length = i := by
      have hLength := congrArg List.length hFront
      simp only [List.concat_eq_append, List.length_append, List.length_singleton] at hLength
      omega
    rw [printed_append, printed_cons, hFront, List.concat_eq_append, List.append_assoc, ← hi,
      List.drop_left] at hThere
    exact not_fileMarker_isPrefix_cons c _ hThere
  obtain ⟨marker, hMarker⟩ := exists_fileMarker_eq path
  have hSlice : ((printed files (before ++ path :: after)).take stop).drop
      (i + (fileMarker path).length + 1) =
        (printed files before ++ marker).drop (i + (fileMarker path).length + 1) ++
          '=' :: '\n' :: printedContent files path := by
    have hText : printed files before ++ (fileMarker path ++ '\n' :: printedContent files path) =
        (printed files before ++ marker) ++ '=' :: '\n' :: printedContent files path := by
      rw [hMarker]
      simp
    rw [hTake, hText, List.drop_append_of_le_length]
    rw [hMarker, List.length_append, List.length_append, List.length_singleton]
    omega
  simp only [fileBetween, hFirst, hStop, hSlice] at hRead
  rw [trimEnd_append_cons (by decide)] at hRead
  have hLength := congrArg List.length hRead
  have hLe := length_trimEnd_le_cons '\n' (printedContent files path)
  simp only [List.length_append, List.length_cons] at hLength
  omega

theorem markerInPlace_of_first
    (h : indexOf (fileMarker path) (printed files (before ++ path :: after)) =
      some (printed files before).length) : MarkerInPlace files before path := by
  have hBefore := ((indexOf_eq_some_iff (fileMarker_ne_nil path)).mp h).2
  refine (indexOf_eq_some_iff (fileMarker_ne_nil path)).mpr ⟨by rw [List.drop_left], ?_⟩
  intro j hj hThere
  refine hBefore j hj (hThere.trans (List.IsPrefix.drop ?_ j))
  rw [printed_append, printed_cons, ← List.append_assoc]
  exact List.prefix_append _ _

/-- From an output that is whole, files are read right only if all markers are in their places: the
last one that is not would make its file too long. -/
theorem markersInPlace_of_readsRight {suffix : List Text} (hPaths : paths = before ++ suffix)
    (hReads : ∀ before path after, paths = before ++ path :: after →
      ReadsRight (files path) (fileBetween (printed files paths) path after.head?)) :
    ∀ middle path after, suffix = middle ++ path :: after →
      MarkerInPlace files (before ++ middle) path := by
  induction suffix generalizing before with
  | nil =>
    intro middle path after hNil
    exact absurd hNil (by simp)
  | cons path suffix ih =>
    have hLater := @ih (before ++ [path]) (by rw [hPaths]; simp)
    intro middle other after hSplit
    cases middle with
    | cons first middle =>
      obtain ⟨rfl, hRest⟩ := List.cons.inj hSplit
      have hOther := hLater middle other after hRest
      rwa [List.append_assoc] at hOther
    | nil =>
      obtain ⟨rfl, rfl⟩ := List.cons.inj hSplit
      rw [List.append_nil]
      have hRead := hReads before path suffix hPaths
      rw [hPaths] at hRead
      have hThere : fileMarker path <+:
          (printed files (before ++ path :: suffix)).drop (printed files before).length := by
        rw [printed_append, printed_cons, List.drop_left]
        exact List.prefix_append _ _
      obtain ⟨i, hLe, hFirst⟩ := exists_indexOf_le (fileMarker_ne_nil path) hThere
      obtain hEarly | rfl := Nat.lt_or_eq_of_le hLe
      · refine absurd hRead (not_readsRight_of_early hFirst hEarly rfl ?_)
        cases suffix with
        | nil =>
          rw [List.head?_nil, endOf, Option.elim_none, List.take_length, printed_append,
            printed_cons]
          simp [printed]
        | cons nextPath suffix =>
          have hNext := hLater [] nextPath suffix rfl
          rw [List.append_nil] at hNext
          have hSplitAt : before ++ path :: nextPath :: suffix =
              (before ++ [path]) ++ nextPath :: suffix := by simp
          have hIndex := indexOf_printed hNext suffix
            (printed files ((before ++ [path]) ++ nextPath :: suffix)).length
          rw [List.take_length, printed_append, printed_cons, if_pos (by simp),
            ← printed_cons, ← printed_append] at hIndex
          rw [List.head?_cons, endOf, Option.elim_some, hSplitAt, hIndex, Option.getD_some,
            @printed_append _ (before ++ [path]), List.take_left, printed_append,
            printed_cons]
          simp [printed]
      · exact markerInPlace_of_first hFirst

theorem mem_readFiles_iff {stdout : Text} {entry : Text × Text} :
    entry ∈ readFiles stdout paths ↔ ∃ before after, paths = before ++ entry.1 :: after ∧
      entry.2 = fileBetween stdout entry.1 after.head? := by
  induction paths with
  | nil => simp [readFiles]
  | cons path paths ih =>
    rw [readFiles, List.mem_cons, ih]
    constructor
    · rintro (rfl | ⟨before, after, rfl, hRead⟩)
      · exact ⟨[], paths, rfl, rfl⟩
      · exact ⟨path :: before, after, rfl, hRead⟩
    · rintro ⟨before, after, hSplit, hRead⟩
      cases before with
      | nil =>
        obtain ⟨hPath, rfl⟩ := List.cons.inj hSplit
        exact .inl (Prod.ext hPath.symm (by rw [hRead, ← hPath]))
      | cons first before => exact .inr ⟨before, after, (List.cons.inj hSplit).2, hRead⟩

theorem map_fst_readFiles (stdout : Text) (paths : List Text) :
    (readFiles stdout paths).map Prod.fst = paths := by
  induction paths with
  | nil => rfl
  | cons path paths ih => rw [readFiles, List.map_cons, ih]

theorem faithful_readFiles_iff {stdout : Text} : Faithful files paths (readFiles stdout paths) ↔
    ∀ before path after, paths = before ++ path :: after →
      ReadsRight (files path) (fileBetween stdout path after.head?) := by
  rw [Faithful, and_iff_right (map_fst_readFiles stdout paths)]
  constructor
  · intro hAll before path after hSplit
    exact hAll (path, _) (mem_readFiles_iff.mpr ⟨before, after, hSplit, rfl⟩)
  · rintro hAll entry hEntry
    obtain ⟨before, after, hSplit, hRead⟩ := mem_readFiles_iff.mp hEntry
    rw [hRead]
    exact hAll before entry.1 after hSplit

/-- What is read of the files keeps all of them, and none looks as if it did not exist. -/
def CutKeepsFiles (files : Text → Option Text) (paths : List Text) (kept : Nat) : Prop :=
  ∀ before path after, paths = before ++ path :: after →
    PathKept files before path after.head? kept ∧ ∀ c ∈ files path, trimEnd c ≠ fileNotFound

theorem readsRight_of_inPlace (hPlaces : MarkersInPlace files paths) :
    Faithful files paths (readFiles ((printed files paths).take kept) paths) ↔
      CutKeepsFiles files paths kept := by
  rw [faithful_readFiles_iff, CutKeepsFiles]
  refine forall_congr' fun before => forall_congr' fun path => forall_congr' fun after =>
    forall_congr' fun hSplit => ?_
  subst hSplit
  apply readsRight_iff_pathKept (hPlaces before path after rfl)
  intro nextPath hNext
  obtain ⟨rest, rfl⟩ := List.head?_eq_some_iff.mp hNext
  exact hPlaces (before ++ [path]) nextPath rest (by simp)

end

theorem readConfigFiles_eq {paths : List Text}
    (hAllowed : ∀ path ∈ paths, path ∈ allowedRemoteConfigPaths) (sanId stdout : Text) :
    readConfigFiles sanId (some fun _ => .ok stdout) paths = .ok (readFiles stdout paths) := by
  have hChecks : paths.forM assertAllowedRemoteConfigPath = .ok () := by
    rw [List.forM_eq_forM, forM_eq_ok]
    intro path hPath
    rw [assertAllowedRemoteConfigPath, throwIf_eq_ok]
    exact not_not.mpr (hAllowed path hPath)
  rw [readConfigFiles, hChecks]
  rfl

/-- The files that were printed are read faithfully. -/
def ReadsFaithfully (sanId : Text) (files : Text → Option Text) (paths : List Text) (kept : Nat) :
    Prop :=
  ∃ result, readConfigFiles sanId (some fun _ => .ok ((printed files paths).take kept)) paths =
    .ok result ∧ Faithful files paths result

/-- Files whose markers are in their places are read faithfully exactly when the cut takes no more
than white space of those that exist; and a whole output is read faithfully only if the markers are
in their places. -/
theorem readConfigFiles_faithful_iff (sanId : Text) (files : Text → Option Text)
    (paths : List Text) (kept : Nat)
    (hAllowed : ∀ path ∈ paths, path ∈ allowedRemoteConfigPaths) :
    (MarkersInPlace files paths →
        (ReadsFaithfully sanId files paths kept ↔ CutKeepsFiles files paths kept)) ∧
      ((printed files paths).length ≤ kept →
        (ReadsFaithfully sanId files paths kept ↔
          MarkersInPlace files paths ∧ CutKeepsFiles files paths kept)) := by
  have hReads : ReadsFaithfully sanId files paths kept ↔
      Faithful files paths (readFiles ((printed files paths).take kept) paths) := by
    rw [ReadsFaithfully, readConfigFiles_eq hAllowed]
    constructor
    · rintro ⟨_, ⟨⟩, hFaithful⟩
      exact hFaithful
    · exact fun hFaithful => ⟨_, rfl, hFaithful⟩
  rw [hReads]
  refine ⟨readsRight_of_inPlace, fun hWhole => ?_⟩
  constructor
  · intro hFaithful
    have hAll := faithful_readFiles_iff.mp hFaithful
    rw [List.take_of_length_le hWhole] at hAll
    have hPlaces : MarkersInPlace files paths := fun before path after hSplit =>
      @markersInPlace_of_readsRight files [] paths paths rfl hAll before path after hSplit
    exact ⟨hPlaces, (readsRight_of_inPlace hPlaces).mp hFaithful⟩
  · exact fun h => (readsRight_of_inPlace h.1).mpr h.2

def sampleConf : Text := "[general]\nhostname=san1\n".toList

def sampleFiles (path : Text) : Option Text :=
  if path = networkConfPath then some sampleConf else none

/-- One file, whose output is whole. -/
theorem readConfigFiles_faithful_sample :
    networkConfPath ∈ allowedRemoteConfigPaths ∧
      (ReadsFaithfully ['1'] sampleFiles [networkConfPath] 100 ↔
        MarkersInPlace sampleFiles [networkConfPath] ∧
          CutKeepsFiles sampleFiles [networkConfPath] 100) :=
  ⟨List.mem_cons_self,
    (readConfigFiles_faithful_iff ['1'] sampleFiles [networkConfPath] 100
      (List.forall_mem_singleton.mpr List.mem_cons_self)).2 (by decide)⟩

/-- The start of a file is taken for the file, and an existing file for a missing one. -/
theorem truncated_read_as_complete :
    readConfigFiles ['1'] (some fun _ => .ok ((printed sampleFiles [networkConfPath]).take 40))
        [networkConfPath] = .ok [(networkConfPath, "[general]\nh".toList)] ∧
      ¬ ReadsFaithfully ['1'] sampleFiles [networkConfPath] 40 ∧
      readConfigFiles ['1'] (some fun _ => .ok ((printed sampleFiles [networkConfPath]).take 20))
        [networkConfPath] = .ok [(networkConfPath, fileNotFound)] := by
  have hAllowed : ∀ path ∈ [networkConfPath], path ∈ allowedRemoteConfigPaths :=
    List.forall_mem_singleton.mpr List.mem_cons_self
  have hRead : readFiles ((printed sampleFiles [networkConfPath]).take 40) [networkConfPath] =
      [(networkConfPath, "[general]\nh".toList)] := by decide
  rw [readConfigFiles_eq hAllowed, readConfigFiles_eq hAllowed, hRead]
  refine ⟨rfl, ?_, congrArg _ (by decide)⟩
  rintro ⟨result, hResult, hFaithful⟩
  rw [readConfigFiles_eq hAllowed, hRead] at hResult
  obtain rfl := Except.ok.inj hResult
  have hRight := hFaithful.2 _ List.mem_cons_self
  rw [readsRight_iff_eq] at hRight
  exact absurd hRight.1 (by decide)

end EsosWebui.SystemConfig
