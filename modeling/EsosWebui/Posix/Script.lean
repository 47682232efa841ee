import Mathlib.Data.List.Basic

/-! Shell scripts without `errexit`: commands that change a state one after the other, whatever
the status of each, until the shell is killed. The status of a script is that of its last
command. -/
namespace Posix

inductive Ending where
  | exited (status : Nat)
  | killed

def Ending.status? : Ending → Option Nat
  | .exited status => some status
  | .killed => none

abbrev Command (σ : Type) := σ → σ × Ending

variable {σ : Type}

namespace Command

def next (c : Command σ) (rest : Nat → Command σ) : Command σ := fun s =>
  match c s with
  | (s', .exited status) => rest status s'
  | (s', .killed) => (s', .killed)

def exit (status : Nat) : Command σ := fun s => (s, .exited status)

/-- `c || true` -/
def orTrue (c : Command σ) : Command σ := c.next fun _ => exit 0

/-- `c && d` -/
def andThen (c d : Command σ) : Command σ :=
  c.next fun status => if status = 0 then d else exit status

/-- `c | d`, of which `d` reads what `c` prints: the status is that of the last. -/
def pipe (c d : Command σ) : Command σ := c.next fun _ => d

/-- `if c; then d; else e; fi` -/
def ifThenElse (c d e : Command σ) : Command σ :=
  c.next fun status => if status = 0 then d else e

end Command

def runFrom (status : Nat) : List (Command σ) → Command σ
  | [] => Command.exit status
  | c :: rest => c.next fun status => runFrom status rest

def script (commands : List (Command σ)) : Command σ := runFrom 0 commands

variable {c : Command σ} {rest : Nat → Command σ} {s s' s'' : σ} {status : Nat} {ending : Ending}

theorem next_of_exited (h : c s = (s', .exited status)) : c.next rest s = rest status s' := by
  rw [Command.next, h]

theorem next_of_killed (h : c s = (s', .killed)) : c.next rest s = (s', .killed) := by
  rw [Command.next, h]

theorem runFrom_cons {killed : Prop} [Decidable killed] {before : Nat}
    {commands : List (Command σ)}
    (h : c s = (s', if killed then .killed else .exited status)) :
    runFrom before (c :: commands) s =
      if killed then (s', .killed) else runFrom status commands s' := by
  rw [runFrom]
  by_cases hKilled : killed
  · rw [if_pos hKilled] at h ⊢
    exact next_of_killed h
  · rw [if_neg hKilled] at h ⊢
    exact next_of_exited h

theorem runFrom_append (as bs : List (Command σ)) :
    runFrom status (as ++ bs) s = (runFrom status as).next (fun status => runFrom status bs) s := by
  induction as generalizing s status with
  | nil => rfl
  | cons a as ih =>
    simp only [List.cons_append, runFrom, Command.next]
    cases a s with
    | mk s' ending =>
      cases ending with
      | exited status => exact ih
      | killed => rfl

theorem next_preserves {P : σ → Prop} (hFirst : ∀ s, P s → P (c s).1)
    (hRest : ∀ status s, P s → P (rest status s).1) (h : P s) : P (c.next rest s).1 := by
  have hMiddle := hFirst s h
  unfold Command.next
  split
  · rename_i hExited
    rw [hExited] at hMiddle
    exact hRest _ _ hMiddle
  · rename_i hKilled
    rw [hKilled] at hMiddle
    exact hMiddle

theorem runFrom_preserves {P : σ → Prop} {commands : List (Command σ)}
    (hEach : ∀ c ∈ commands, ∀ s, P s → P (c s).1) (h : P s) :
    P (runFrom status commands s).1 := by
  induction commands generalizing s status with
  | nil => exact h
  | cons c rest ih =>
    rw [List.forall_mem_cons] at hEach
    exact next_preserves hEach.1 (fun _ _ hs => ih hEach.2 hs) h

end Posix

namespace Posix

/-- What is found at a path. -/
inductive Node (β : Type) where
  | dir
  | file (content : β)
  | link (target : List Char)

/-- A directory's content; the empty path is the directory itself. -/
abbrev FileTree (β : Type) := List Char → Option (Node β)

namespace FileTree

variable {β : Type} {t u v : FileTree β} {paths : List (List Char)}

/-- The directory does not exist. -/
def missing : FileTree β := fun _ => none

def isDir (t : FileTree β) (path : List Char) : Bool :=
  match t path with
  | some .dir => true
  | _ => false

def content (t : FileTree β) (path : List Char) : Option β :=
  match t path with
  | some (.file content) => some content
  | _ => none

def remove (t : FileTree β) (removed : List Char → Bool) : FileTree β := fun path =>
  if removed path then none else t path

def extract (t archive : FileTree β) (extracted : List Char → Bool) : FileTree β := fun path =>
  if extracted path then (archive path).or (t path) else t path

/-- With the directories that are made where nothing is found. -/
def makeDirs (t : FileTree β) (dirs : List (List Char)) (made : List Char → Bool) : FileTree β :=
  fun path => if dirs.contains path && made path && (t path).isNone then some .dir else t path

def put (t : FileTree β) (place : List Char) (node : Node β) : FileTree β := fun path =>
  if path = place then some node else t path

/-- The same is found at all other paths. -/
def AgreeOff (paths : List (List Char)) (t u : FileTree β) : Prop :=
  ∀ path, path ∉ paths → t path = u path

theorem AgreeOff.refl (t : FileTree β) : AgreeOff paths t t := fun _ _ => rfl

theorem AgreeOff.symm (h : AgreeOff paths t u) : AgreeOff paths u t := fun path hPath =>
  (h path hPath).symm

theorem AgreeOff.trans (h : AgreeOff paths t u) (h' : AgreeOff paths u v) : AgreeOff paths t v :=
  fun path hPath => (h path hPath).trans (h' path hPath)

theorem agreeOff_put {place : List Char} {node : Node β} (h : place ∈ paths) :
    AgreeOff paths (t.put place node) t := by
  intro path hPath
  exact if_neg fun (hSame : path = place) => hPath (hSame ▸ h)

theorem agreeOff_makeDirs {dirs : List (List Char)} {made : List Char → Bool}
    (h : ∀ dir ∈ dirs, dir ∈ paths) : AgreeOff paths (t.makeDirs dirs made) t := by
  intro path hPath
  apply if_neg
  intro hMade
  rw [Bool.and_eq_true, Bool.and_eq_true] at hMade
  exact hPath (h path (List.contains_iff_mem.mp hMade.1.1))

end FileTree

end Posix
