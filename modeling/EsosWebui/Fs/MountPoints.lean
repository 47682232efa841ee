import EsosWebui.Fs.CreatedAsPreviewed
import EsosWebui.Posix.Paths

/-! The partition that a file system is made on: the path of the disk with a `1` after it, where
it is not the disk itself. -/
namespace EsosWebui.Fs

open Js

variable {path : Text}

/-- A number after the name of the disk, with a `p` before it where the name ends in a digit;
links to disks have a suffix of their own. -/
def partitionPath (disk number : Text) : Text :=
  if startsWith disk "/dev/disk/".toList then disk ++ "-part".toList ++ number
  else if disk.getLast?.any Char.isDigit then disk ++ 'p' :: number
  else disk ++ number

def FormatsFirstPartition (path : Text) : Prop :=
  mkfsDevicePath path .gpt = partitionPath (trim path) ['1'] ∧ mkfsDevicePath path .gpt ≠ path

/-- The disk has a kernel name that ends in no digit, of no family of stacked devices, and is
written without white space. -/
structure NamesPlainDisk (path : Text) : Prop where
  trimmed : trim path = path
  noDigit : path.getLast?.any Char.isDigit = false
  notMapped : ¬ "mapper".toList <:+: path
  notArray : ¬ "/dev/md".toList <+: path
  notLink : ¬ "/dev/disk/".toList <+: path

theorem trim_ne_nil_of_validateBackendPath (h : validateBackendPath path = none) :
    trim path ≠ [] := by
  intro hNil
  rw [validateBackendPath, hNil] at h
  revert h
  decide

theorem eq_nil_of_trim_append {rest : Text} (hNe : trim path ≠ []) (h : trim path ++ rest = path)
    (hRest : ∀ c ∈ rest.getLast?, isSpace c = false) : rest = [] := by
  have hFirst : ∀ c ∈ path.head?, isSpace c = false := by
    rw [← h, List.head?_append_of_ne_nil _ hNe]
    exact head?_trim path
  have hLast : ∀ c ∈ path.getLast?, isSpace c = false := by
    rw [← h, List.getLast?_append]
    intro c hc
    cases hEnd : rest.getLast? with
    | none =>
      rw [hEnd, Option.none_or] at hc
      exact getLast?_trim path c hc
    | some last =>
      rw [hEnd, Option.some_or] at hc
      exact hRest c (hEnd ▸ hc)
  rw [trim_eq_self hFirst hLast] at h
  exact List.append_right_eq_self.mp h

theorem partitionPath_eq_concat_iff (hNe : trim path ≠ []) :
    partitionPath (trim path) ['1'] = path ++ ['1'] ↔
      trim path = path ∧ ¬ "/dev/disk/".toList <+: path ∧
        path.getLast?.any Char.isDigit = false := by
  rw [partitionPath]
  split
  next hLink =>
    refine iff_of_false ?_ fun h => h.2.1 (h.1 ▸ startsWith_iff.mp hLink)
    intro hEq
    have hLast : ∀ c ∈ "-part".toList.getLast?, isSpace c = false := by
      intro c hc
      obtain rfl : 't' = c := Option.some.inj hc
      decide
    have hRest := eq_nil_of_trim_append hNe (List.append_cancel_right hEq) hLast
    exact absurd hRest (by decide)
  next hLink =>
    rw [startsWith_iff] at hLink
    split
    next hDigit =>
      refine iff_of_false ?_ fun h => ?_
      · intro hEq
        have hLast : ∀ c ∈ ['p'].getLast?, isSpace c = false := by
          intro c hc
          obtain rfl : 'p' = c := Option.some.inj hc
          decide
        rw [List.append_cons, List.append_cancel_right_eq] at hEq
        exact List.cons_ne_nil _ _ (eq_nil_of_trim_append hNe hEq hLast)
      · rw [h.1, h.2.2] at hDigit
        cases hDigit
    next hDigit =>
      rw [List.append_cancel_right_eq]
      constructor
      · intro hTrim
        rw [hTrim] at hLink hDigit
        exact ⟨hTrim, hLink, Bool.eq_false_iff.mpr hDigit⟩
      · exact And.left

/-- Disks whose name ends in a digit, mapped disks, arrays and links are missed. -/
theorem formatsFirstPartition_iff (hAccepted : validateBackendPath path = none) :
    FormatsFirstPartition path ↔ NamesPlainDisk path := by
  have hConcat := partitionPath_eq_concat_iff (trim_ne_nil_of_validateBackendPath hAccepted)
  rw [FormatsFirstPartition, mkfsDevicePath]
  split
  next hStacked =>
    rw [Bool.or_eq_true, contains_iff, startsWith_iff] at hStacked
    refine iff_of_false (fun h => h.2 rfl) ?_
    intro h
    rcases hStacked with hMapped | hArray
    · exact h.notMapped hMapped
    · exact h.notArray hArray
  next hPlain =>
    rw [Bool.or_eq_true, contains_iff, startsWith_iff, not_or] at hPlain
    constructor
    · rintro ⟨hEq, -⟩
      obtain ⟨hTrim, hLink, hDigit⟩ := hConcat.mp hEq.symm
      exact ⟨hTrim, hDigit, hPlain.1, hPlain.2, hLink⟩
    · intro h
      refine ⟨(hConcat.mpr ⟨h.trimmed, h.notLink, h.noDigit⟩).symm, ?_⟩
      exact fun hEq => List.cons_ne_nil _ _ (List.append_right_eq_self.mp hEq)

theorem formatsFirstPartition_sdb : FormatsFirstPartition "/dev/sdb".toList :=
  (formatsFirstPartition_iff (by decide)).mpr
    ⟨by decide, by decide, by decide, by decide, by decide⟩

/-- The partition `/dev/nvme0n1p1` is made, and `/dev/nvme0n11` is formatted. -/
theorem nvme_partition_missed :
    ¬ ∀ path, validateBackendPath path = none → FormatsFirstPartition path := by
  intro hAll
  have hAccepted : validateBackendPath "/dev/nvme0n1".toList = none := by decide
  have hFirst := (hAll _ hAccepted).1
  revert hFirst
  decide

end EsosWebui.Fs

/-! The directory that a checked mount point denotes: the prefixes are compared with the text,
not with the directory. -/
namespace EsosWebui.Fs

open Js
open Posix (EndsAtRoot Enters parentSegment prefix_walk_iff resolve segments walk_eq_nil_iff)

variable {mountPoint : Text}

/-- The directory is not the root and not in a system directory, and the text that the commands
are built from has no other characters than the checked ones. -/
structure OutsideSystem (mountPoint : Text) : Prop where
  notRoot : resolve mountPoint ≠ []
  notBlocked : ∀ dir ∈ blockedMountPrefixes, ¬ resolve dir <+: resolve mountPoint
  checkedChars : ∀ c ∈ mountPoint, isPathChar c = true

/-- The text has no white space around it, and no detour over `.`, `..` or empty segments leads
to the root or through a system directory. -/
structure NoDetour (mountPoint : Text) : Prop where
  trimmed : trim mountPoint = mountPoint
  notRoot : ¬ EndsAtRoot (segments mountPoint)
  notBlocked : ∀ dir ∈ blockedMountPrefixes, ¬ Enters (segments dir) (segments mountPoint)

theorem not_isSpace_of_isPathChar {c : Char} (h : isPathChar c) : isSpace c = false := by
  rcases Bool.or_eq_true_iff.mp h with hAlnum | hOther
  · exact (isGraphic_of_isAlphanum hAlnum).isSpace
  · have hKnown : "_./-".toList.all (fun c => !isSpace c) = true := by decide
    have hSpace := List.all_eq_true.mp hKnown c (List.contains_iff_mem.mp hOther)
    rwa [Bool.not_eq_true'] at hSpace

theorem checkedChars_iff (hAccepted : validateMountPoint mountPoint = none) :
    (∀ c ∈ mountPoint, isPathChar c = true) ↔ trim mountPoint = mountPoint := by
  constructor
  · intro hChars
    apply trim_eq_self
    · intro c hc
      exact not_isSpace_of_isPathChar (hChars c (List.mem_of_head? hc))
    · intro c hc
      exact not_isSpace_of_isPathChar (hChars c (List.mem_of_getLast? hc))
  · intro hTrim
    have hPath := isPathLike_of_validateMountPoint hAccepted
    rwa [IsPathLike, hTrim] at hPath

theorem segments_blockedMountPrefixes :
    ∀ dir ∈ blockedMountPrefixes, parentSegment ∉ segments dir ∧ resolve dir = segments dir := by
  decide

end EsosWebui.Fs
