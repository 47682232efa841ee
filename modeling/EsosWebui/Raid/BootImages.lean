import EsosWebui.Raid.PerccliPersist

/-! When the image that a SAN boots from is never broken, and a success means that the tool is in
it. -/
namespace EsosWebui.Raid.PerccliPersist

open Js
open Posix (Command FileTree)

def injectedPaths : List Text :=
  perccliDirs ++ sbinDirs ++
    [perccliPath, perccliPath ++ "/perccli64".toList, sbinDir ++ "/perccli64".toList,
      sbinDir ++ "/perccli".toList]

def IsPerccli (rpm : FileTree Bytes) (content : Bytes) : Prop :=
  ∃ path, isPerccliName path = true ∧ rpm.content path = some content

def HasOldRoot (given : Given) (tree : FileTree Bytes) : Prop :=
  ∃ root, given.root = some root ∧ FileTree.AgreeOff injectedPaths tree root

def HasTool (given : Given) (tree : FileTree Bytes) : Prop :=
  ∃ content, tree.content perccliPath = some content ∧ IsPerccli given.rpm content

def IsNew (given : Given) (image : Option Image) : Prop :=
  ∃ tree, image = some (.packed tree) ∧ HasOldRoot given tree ∧ HasTool given tree

/-- The image is the old one or a new one at every moment, it is a new one after a success, which
has taken no step twice, and the old one after a failure. -/
structure KeepsPromise (given : Given) (before : Before) (result : Result) : Prop where
  moments : ∀ image ∈ result.run.remote.earlier ++ [result.run.remote.primary],
    image = before.remote.primary ∨ IsNew given image
  success : result.op.status = .success →
    IsNew given result.run.remote.primary ∧ result.run.executed.Nodup
  failed : result.op.status = .failed → result.run.remote.primary = before.remote.primary

section

variable (given : Given) (outcomes : Outcomes) (params : Params)

def stepsToExtract : List StepKind := [.mountEsosRoot, .backup, .unsquashfs, .extractRpm]

def stepsToInject : List StepKind := stepsToExtract ++ [.inject]

def stepsToRebuild : List StepKind := stepsToInject ++ [.rebuildXz]

def lastSteps : List StepKind := [.replace, .cleanup]

/-- The renaming of the new image is done in the state. -/
def Renames (s : Remote) : Prop := outcomes.replace.works = true ∧ s.newImg.isSome = true

/-- The step is answered by the status 0. -/
def Passes (kind : StepKind) (run : Run) : Prop :=
  ∃ res, (run.exec given outcomes kind).2 = .ok res ∧ res.code = 0

/-- The run ends before the image is replaced; or it ends in the last two steps and the renaming is
not done; or what is extracted is the old root tree, the injection leaves the tool in it, the first
rebuild does its work and is answered by 0, the renaming is done, and the last two steps are
answered by 0. -/
inductive Fits (before : Before) : Prop where
  | stops {run : Run} {error : Text}
      (hStops : takeSteps given outcomes params stepsToRebuild { remote := before.remote } =
        .stopped run error)
  | keeps {run last : Run} {error : Text}
      (hRebuilt : takeSteps given outcomes params stepsToRebuild { remote := before.remote } =
        .going run)
      (hOld : ¬ Renames outcomes run.remote)
      (hStops : takeSteps given outcomes params lastSteps run = .stopped last error)
  | injects {staged ready run last : Run}
      (hStaged : takeSteps given outcomes params stepsToExtract { remote := before.remote } =
        .going staged)
      (hRoot : HasOldRoot given staged.remote.workdir)
      (hTool : HasTool given (injectPerccli outcomes.inject staged.remote).1.workdir)
      (hReady : takeStep given outcomes params .inject staged = .going ready)
      (hPacked : outcomes.rebuildXz.works = true)
      (hPasses : Passes given outcomes .rebuildXz ready)
      (hRebuilt : takeSteps given outcomes params stepsToRebuild { remote := before.remote } =
        .going run)
      (hNew : Renames outcomes run.remote)
      (hLast : takeSteps given outcomes params lastSteps run = .going last)

variable {given outcomes params}

def Remote.images (s : Remote) : Option Image × List (Option Image) × Option Image :=
  (s.primary, s.earlier, s.newImg)

def Frames (c : Command Remote) : Prop := ∀ s, (c s).1.images = s.images

section

variable {c d : Command Remote}

theorem frames_work {fate : Fate} {done spoiled : Remote → Remote}
    (hDone : ∀ s, (done s).images = s.images) (hSpoiled : ∀ s, (spoiled s).images = s.images) :
    Frames (work fate done spoiled) := by
  intro s
  unfold work
  split
  · exact hDone s
  · exact hSpoiled s

theorem frames_idle (fate : Fate) : Frames (idle fate) := frames_work (fun _ => rfl) fun _ => rfl

theorem Frames.next {rest : Nat → Command Remote} (h : Frames c)
    (hRest : ∀ status, Frames (rest status)) : Frames (c.next rest) := fun s =>
  Posix.next_preserves (P := fun s' => s'.images = s.images)
    (fun s' hs => (h s').trans hs) (fun status s' hs => (hRest status s').trans hs) rfl

theorem frames_exit (status : Nat) : Frames (Command.exit status) := fun _ => rfl

theorem Frames.orTrue (h : Frames c) : Frames c.orTrue := h.next fun _ => frames_exit 0

theorem Frames.andThen (h : Frames c) (h' : Frames d) : Frames (c.andThen d) := by
  apply h.next
  intro status
  split
  · exact h'
  · exact frames_exit status

theorem Frames.pipe (h : Frames c) (h' : Frames d) : Frames (c.pipe d) := h.next fun _ => h'

theorem frames_script {commands : List (Command Remote)} (h : ∀ c ∈ commands, Frames c) :
    Frames (Posix.script commands) := fun s =>
  Posix.runFrom_preserves (P := fun s' => s'.images = s.images)
    (fun c hc s' hs => (h c hc s').trans hs) rfl

end

theorem frames_removeWorkdir (fate : TreeFate) : Frames (removeWorkdir fate) := by
  apply frames_work <;> exact fun _ => rfl

theorem frames_removeTmp (fate : TreeFate) : Frames (removeTmp fate) := by
  apply frames_work <;> exact fun _ => rfl

theorem frames_rpm2cpio (fate : TreeFate) : Frames (rpm2cpio given fate) := by
  apply frames_work <;> exact fun _ => rfl

theorem frames_cpio (fate : TreeFate) : Frames (cpio fate) := by
  apply frames_work <;> exact fun _ => rfl

theorem frames_mkdirWorkdir (dirs : List Text) (fate : TreeFate) :
    Frames (mkdirWorkdir dirs fate) := by
  apply frames_work <;> exact fun _ => rfl

theorem frames_unsquashfs (fate : TreeFate) : Frames (unsquashfs given fate) := by
  intro s
  unfold unsquashfs
  split
  · dsimp only
    apply frames_work <;> exact fun _ => rfl
  · rfl

theorem frames_copyPerccli (fate : CopyFate) : Frames (copyPerccli fate) := by
  intro s
  unfold copyPerccli work
  dsimp only
  cases s.tmp.content s.p with
  | none => rfl
  | some content =>
    dsimp only
    cases placeFor s.workdir perccliDir "perccli64".toList with
    | some place =>
      split
      · rfl
      · cases fate.spoiled <;> rfl
    | none =>
      split
      · rfl
      · cases fate.spoiled <;> rfl

theorem frames_linkPerccli (name : Text) (fate : Fate) : Frames (linkPerccli name fate) := by
  apply frames_work
  · intro s
    split <;> rfl
  · exact fun _ => rfl

def Injects (c : Command Remote) : Prop :=
  ∀ s, FileTree.AgreeOff injectedPaths (c s).1.workdir s.workdir

theorem injects_of_workdir {c : Command Remote} (h : ∀ s, (c s).1.workdir = s.workdir) :
    Injects c := by
  intro s
  rw [h s]
  exact FileTree.AgreeOff.refl _

theorem injects_idle (fate : Fate) : Injects (idle fate) := by
  apply injects_of_workdir
  intro s
  unfold idle work
  split <;> rfl

theorem injects_mkdirWorkdir {dirs : List Text} (hDirs : ∀ dir ∈ dirs, dir ∈ injectedPaths)
    (fate : TreeFate) : Injects (mkdirWorkdir dirs fate) := by
  intro s
  unfold mkdirWorkdir work
  dsimp only
  split <;> exact FileTree.agreeOff_makeDirs hDirs

theorem placeFor_mem {tree : FileTree Bytes} {place : Text}
    (h : placeFor tree perccliDir "perccli64".toList = some place) : place ∈ injectedPaths := by
  have hDir : perccliDir ++ '/' :: "perccli64".toList = perccliPath := by decide
  unfold placeFor at h
  dsimp only at h
  rw [hDir] at h
  split at h
  · cases h
    decide
  · cases h
  · split at h
    · cases h
      decide
    · cases h

theorem injects_copyPerccli (fate : CopyFate) : Injects (copyPerccli fate) := by
  intro s
  unfold copyPerccli work
  dsimp only
  cases s.tmp.content s.p with
  | none => exact FileTree.AgreeOff.refl _
  | some content =>
    dsimp only
    cases hPlace : placeFor s.workdir perccliDir "perccli64".toList with
    | some place =>
      split
      · exact FileTree.agreeOff_put (placeFor_mem hPlace)
      · cases fate.spoiled with
        | some part => exact FileTree.agreeOff_put (placeFor_mem hPlace)
        | none => exact FileTree.AgreeOff.refl _
    | none =>
      split
      · exact FileTree.AgreeOff.refl _
      · cases fate.spoiled <;> exact FileTree.AgreeOff.refl _

theorem injects_linkPerccli {name : Text} (hName : sbinDir ++ '/' :: name ∈ injectedPaths)
    (fate : Fate) : Injects (linkPerccli name fate) := by
  intro s
  unfold linkPerccli work
  split
  · dsimp only
    split
    · exact FileTree.agreeOff_put hName
    · exact FileTree.AgreeOff.refl _
  · exact FileTree.AgreeOff.refl _

theorem injects_script {commands : List (Command Remote)} (h : ∀ c ∈ commands, Injects c) :
    Injects (Posix.script commands) := fun s =>
  Posix.runFrom_preserves (P := fun s' => FileTree.AgreeOff injectedPaths s'.workdir s.workdir)
    (fun c hc s' hs => (h c hc s').trans hs) (FileTree.AgreeOff.refl _)

theorem injects_injectPerccli (fates : InjectFates) : Injects (injectPerccli fates) := by
  apply injects_script
  simp only [List.forall_mem_cons, List.not_mem_nil, false_imp_iff, implies_true, and_true]
  exact ⟨injects_idle _, injects_idle _, injects_of_workdir fun _ => rfl,
    injects_of_workdir fun _ => rfl, injects_mkdirWorkdir (by decide) _, injects_copyPerccli _,
    injects_idle _, injects_mkdirWorkdir (by decide) _, injects_linkPerccli (by decide) _,
    injects_linkPerccli (by decide) _⟩

theorem hasOldRoot_injectPerccli {fates : InjectFates} {s : Remote} :
    HasOldRoot given (injectPerccli fates s).1.workdir ↔ HasOldRoot given s.workdir := by
  have hAgree := injects_injectPerccli fates s
  constructor
  · rintro ⟨root, hRoot, hSame⟩
    exact ⟨root, hRoot, hAgree.symm.trans hSame⟩
  · rintro ⟨root, hRoot, hSame⟩
    exact ⟨root, hRoot, hAgree.trans hSame⟩

theorem images_effect (again : Bool) {kind : StepKind}
    (h : kind ∉ [.rebuildXz, .rebuildGzip, .replace]) :
    Frames (effect given outcomes again kind) := by
  cases kind with
  | mountEsosRoot => exact (frames_idle _).andThen (frames_idle _)
  | backup =>
    apply Frames.andThen
    · exact fun _ => rfl
    · apply frames_work <;> exact fun _ => rfl
  | unsquashfs =>
    apply frames_script
    rintro c (_ | ⟨_, _ | ⟨_, ⟨⟩⟩⟩)
    · exact (frames_removeWorkdir _).orTrue
    · exact frames_unsquashfs _
  | extractRpm =>
    apply frames_script
    rintro c (_ | ⟨_, _ | ⟨_, _ | ⟨_, _ | ⟨_, ⟨⟩⟩⟩⟩⟩)
    · exact frames_idle _
    · exact (frames_removeTmp _).orTrue
    · apply frames_work <;> exact fun _ => rfl
    · apply Frames.andThen
      · exact fun _ => rfl
      · exact (frames_rpm2cpio _).pipe (frames_cpio _)
  | inject =>
    apply frames_script
    simp only [List.forall_mem_cons, List.not_mem_nil, false_imp_iff, implies_true, and_true]
    exact ⟨frames_idle _, frames_idle _, fun _ => rfl, fun _ => rfl, frames_mkdirWorkdir _ _,
      frames_copyPerccli _, frames_idle _, frames_mkdirWorkdir _ _, frames_linkPerccli _ _,
      frames_linkPerccli _ _⟩
  | cleanup =>
    apply frames_script
    rintro c (_ | ⟨_, _ | ⟨_, _ | ⟨_, ⟨⟩⟩⟩⟩)
    · exact Frames.orTrue ((frames_removeWorkdir _).next fun _ => frames_removeTmp _)
    · exact (frames_idle _).orTrue
    · exact (frames_idle _).orTrue
  | rebuildXz => simp at h
  | rebuildGzip => simp at h
  | replace => simp at h

/-- The image to boot from, and what it was. -/
theorem primary_effect (again : Bool) {kind : StepKind} (h : kind ≠ .replace) (s : Remote) :
    (effect given outcomes again kind s).1.primary = s.primary ∧
      (effect given outcomes again kind s).1.earlier = s.earlier := by
  have hMksquashfs (fate : RebuildFate) : (mksquashfs fate s).1.primary = s.primary ∧
      (mksquashfs fate s).1.earlier = s.earlier := by
    unfold mksquashfs work
    split
    · exact ⟨rfl, rfl⟩
    · dsimp only
      split <;> exact ⟨rfl, rfl⟩
  by_cases hRebuild : kind = .rebuildXz ∨ kind = .rebuildGzip
  · rcases hRebuild with rfl | rfl
    · exact hMksquashfs _
    · exact hMksquashfs _
  · have hImages := @images_effect given outcomes again kind
      (by simpa [not_or, h] using hRebuild) s
    obtain ⟨hPrimary, hOthers⟩ := Prod.mk.inj hImages
    exact ⟨hPrimary, (Prod.mk.inj hOthers).1⟩

section

variable {P : Remote → Prop} {kind : StepKind} {run : Run}

/-- What a list of steps leaves alone, with the step that stands in for a rebuild. -/
def Preserved (given : Given) (outcomes : Outcomes) (P : Remote → Prop) (kind : StepKind) : Prop :=
  ∀ again s, P s → P (effect given outcomes again kind s).1

theorem exec_preserves (hKind : Preserved given outcomes P kind) (h : P run.remote) :
    P (run.exec given outcomes kind).1.remote := hKind _ _ h

theorem takeTurn_preserves {onFailure : Step → Run → Progress}
    (hKind : Preserved given outcomes P kind)
    (hFailure : ∀ s run, P run.remote → P (onFailure s run).run.remote) (h : P run.remote) :
    P (takeTurn given outcomes params onFailure kind run).run.remote := by
  have hExec := exec_preserves hKind h
  unfold takeTurn
  dsimp only
  split
  · rename_i after message hAnswer
    rw [hAnswer] at hExec
    exact hExec
  · rename_i after res hAnswer
    rw [hAnswer] at hExec
    split
    · exact hFailure _ _ hExec
    · exact hExec

theorem rebuildWithGzip_preserves (hGzip : Preserved given outcomes P .rebuildGzip)
    (s : Step) (h : P run.remote) :
    P (rebuildWithGzip given outcomes params s run).run.remote := by
  have hExec := exec_preserves hGzip h
  unfold rebuildWithGzip
  dsimp only
  split
  · rename_i after message hAnswer
    rw [hAnswer] at hExec
    exact hExec
  · rename_i after gz hAnswer
    rw [hAnswer] at hExec
    split
    · exact hExec
    · exact takeTurn_preserves hGzip (fun _ _ hRun => hRun) hExec

theorem takeStep_preserves (hKind : Preserved given outcomes P kind)
    (hGzip : kind = .rebuildXz → Preserved given outcomes P .rebuildGzip) (h : P run.remote) :
    P (takeStep given outcomes params kind run).run.remote := by
  unfold takeStep
  apply takeTurn_preserves hKind _ h
  intro s run hRun
  split
  · rename_i hXz
    exact rebuildWithGzip_preserves (hGzip hXz) s hRun
  · exact hRun

theorem takeSteps_preserves {kinds : List StepKind}
    (hKinds : ∀ kind ∈ kinds, Preserved given outcomes P kind)
    (hGzip : .rebuildXz ∈ kinds → Preserved given outcomes P .rebuildGzip) (h : P run.remote) :
    P (takeSteps given outcomes params kinds run).run.remote := by
  induction kinds generalizing run with
  | nil => exact h
  | cons kind kinds ih =>
    obtain ⟨hKind, hRest⟩ := List.forall_mem_cons.mp hKinds
    have hStep := @takeStep_preserves given outcomes params P kind run hKind
      (fun hXz => hGzip (hXz ▸ List.mem_cons_self)) h
    unfold takeSteps
    split
    · rename_i after error hStopped
      rw [hStopped] at hStep
      exact hStep
    · rename_i after hGoing
      rw [hGoing] at hStep
      exact ih hRest (fun hXz => hGzip (List.mem_cons_of_mem _ hXz)) hStep

end

theorem takeSteps_append (kinds kinds' : List StepKind) (run : Run) :
    takeSteps given outcomes params (kinds ++ kinds') run =
      match takeSteps given outcomes params kinds run with
      | .stopped run error => .stopped run error
      | .going run => takeSteps given outcomes params kinds' run := by
  induction kinds generalizing run with
  | nil => rfl
  | cons kind kinds ih =>
    rw [List.cons_append, takeSteps, takeSteps]
    cases takeStep given outcomes params kind run with
    | stopped run error => rfl
    | going run => exact ih run

section

variable {kind : StepKind} {run run' : Run}

theorem takeTurn_eq_going {onFailure : Step → Run → Progress}
    (h : takeTurn given outcomes params onFailure kind run = .going run') :
    Passes given outcomes kind run ∧
        run'.remote = (run.exec given outcomes kind).1.remote ∧
        run'.executed = run.executed ++ [kind] ∨
      ¬ Passes given outcomes kind run ∧
        ∃ s, onFailure s (run.exec given outcomes kind).1 = .going run' := by
  unfold takeTurn at h
  dsimp only at h
  unfold Passes
  have hExecuted : (run.exec given outcomes kind).1.executed = run.executed ++ [kind] := rfl
  split at h
  · cases h
  · rename_i after res hAnswer
    rw [hAnswer] at hExecuted ⊢
    split at h
    · rename_i hCode
      refine Or.inr ⟨?_, _, h⟩
      rintro ⟨_, hSame, hZero⟩
      cases hSame
      exact hCode hZero
    · rename_i hCode
      cases h
      exact Or.inl ⟨⟨res, rfl, not_not.mp hCode⟩, rfl, hExecuted⟩

theorem takeStep_eq_going (hKind : kind ≠ .rebuildXz)
    (h : takeStep given outcomes params kind run = .going run') :
    run'.remote = (run.exec given outcomes kind).1.remote ∧
      run'.executed = run.executed ++ [kind] := by
  unfold takeStep at h
  rw [if_neg hKind] at h
  rcases takeTurn_eq_going h with ⟨-, hBoth⟩ | ⟨-, s, hFailed⟩
  · exact hBoth
  · cases hFailed

theorem rebuild_eq_going (h : takeStep given outcomes params .rebuildXz run = .going run') :
    Passes given outcomes .rebuildXz run ∧
        run'.remote = (run.exec given outcomes .rebuildXz).1.remote ∧
        run'.executed = run.executed ++ [.rebuildXz] ∨
      ¬ Passes given outcomes .rebuildXz run ∧
        run'.executed = run.executed ++ [.rebuildXz, .rebuildGzip, .rebuildGzip] := by
  rcases takeTurn_eq_going h with hPassed | ⟨hNot, s, hGzip⟩
  · exact Or.inl hPassed
  · refine Or.inr ⟨hNot, ?_⟩
    rw [if_pos rfl] at hGzip
    unfold rebuildWithGzip at hGzip
    dsimp only at hGzip
    split at hGzip
    · cases hGzip
    · rename_i after gz hAnswer
      have hAfter : after.executed = run.executed ++ [.rebuildXz] ++ [.rebuildGzip] :=
        (congrArg (fun answered : Run × Except Text Answer => answered.1.executed) hAnswer).symm
      split at hGzip
      · cases hGzip
      · rcases takeTurn_eq_going hGzip with ⟨-, -, hAgain⟩ | ⟨-, _, hFailed⟩
        · have hFinish (s : Step) : (after.finish s .failed).executed = after.executed := rfl
          rw [hAgain, hFinish, hAfter]
          simp
        · cases hFailed

theorem remote_takeStep (hKind : kind ≠ .rebuildXz) :
    (takeStep given outcomes params kind run).run.remote =
      (run.exec given outcomes kind).1.remote := by
  unfold takeStep takeTurn
  rw [if_neg hKind]
  dsimp only
  split
  · rename_i hAnswer
    rw [hAnswer]
    rfl
  · rename_i hAnswer
    rw [hAnswer]
    split <;> rfl

theorem executed_takeSteps {kinds : List StepKind} (hKinds : .rebuildXz ∉ kinds)
    (h : takeSteps given outcomes params kinds run = .going run') :
    run'.executed = run.executed ++ kinds := by
  induction kinds generalizing run with
  | nil =>
    cases h
    rw [List.append_nil]
  | cons kind kinds ih =>
    obtain ⟨hKind, hRest⟩ := not_or.mp (mt List.mem_cons.mpr hKinds)
    unfold takeSteps at h
    split at h
    · cases h
    · rename_i next hNext
      rw [ih hRest h, (takeStep_eq_going (Ne.symm hKind) hNext).2, List.append_assoc]
      rfl

end

section

variable {before : Before} {ready run : Run}

theorem images_stepsToInject
    (h : takeSteps given outcomes params stepsToInject { remote := before.remote } = .going ready) :
    ready.remote.images = before.remote.images := by
  have hKept (kind : StepKind) (hKind : kind ∈ stepsToInject) :
      Preserved given outcomes (fun s => s.images = before.remote.images) kind := by
    intro again s hs
    have hOther : kind ∉ [StepKind.rebuildXz, .rebuildGzip, .replace] := by
      revert hKind
      cases kind <;> decide
    exact (images_effect again hOther s).trans hs
  have hSteps := @takeSteps_preserves given outcomes params _ { remote := before.remote }
    stepsToInject hKept (fun hXz => absurd hXz (by decide)) rfl
  rwa [h] at hSteps

theorem primary_stepsToRebuild :
    (takeSteps given outcomes params stepsToRebuild
        { remote := before.remote }).run.remote.primary = before.remote.primary ∧
      (takeSteps given outcomes params stepsToRebuild
        { remote := before.remote }).run.remote.earlier = [] := by
  have hKept (kind : StepKind) (hKind : kind ≠ .replace) : Preserved given outcomes
      (fun s => s.primary = before.remote.primary ∧ s.earlier = []) kind := by
    intro again s hs
    obtain ⟨hPrimary, hEarlier⟩ := @primary_effect given outcomes again kind hKind s
    exact ⟨hPrimary.trans hs.1, hEarlier.trans hs.2⟩
  apply takeSteps_preserves (P := fun s => s.primary = before.remote.primary ∧ s.earlier = [])
  · intro kind hKind
    apply hKept
    revert hKind
    cases kind <;> decide
  · exact fun _ => hKept _ (by decide)
  · exact ⟨rfl, rfl⟩

theorem takeSteps_concat_eq_going_iff {kinds : List StepKind} {kind : StepKind}
    {start : Run} : takeSteps given outcomes params (kinds ++ [kind]) start = .going run ↔
      ∃ ready, takeSteps given outcomes params kinds start = .going ready ∧
        takeStep given outcomes params kind ready = .going run := by
  rw [takeSteps_append]
  cases takeSteps given outcomes params kinds start with
  | stopped ready error => simp
  | going ready =>
    simp only [takeSteps, Progress.going.injEq, exists_eq_left']
    cases takeStep given outcomes params kind ready <;> simp

theorem isNew_mksquashfs_iff {fate : RebuildFate} {s : Remote}
    (hOther : ∀ tree, s.newImg ≠ some (.packed tree)) :
    IsNew given (mksquashfs fate s).1.newImg ↔
      fate.works = true ∧ HasOldRoot given s.workdir ∧ HasTool given s.workdir := by
  unfold mksquashfs work
  split
  · rename_i hWorks
    simp [IsNew, hWorks]
  · rename_i hWorks
    refine iff_of_false ?_ fun hBoth => hWorks hBoth.1
    rintro ⟨tree, hTree, -⟩
    dsimp only at hTree
    split at hTree
    · cases hTree
    · exact hOther tree hTree

theorem newImg_not_packed
    (h : takeSteps given outcomes params stepsToInject { remote := before.remote } = .going ready)
    (tree : FileTree Bytes) : ready.remote.newImg ≠ some (.packed tree) := by
  have hSame : ready.remote.newImg = before.remote.newImg :=
    congrArg (fun images => images.2.2) (images_stepsToInject h)
  rw [hSame, Before.remote]
  dsimp only
  split <;> simp

theorem newImg_ne_primary
    (h : takeSteps given outcomes params stepsToRebuild { remote := before.remote } = .going run)
    {image : Image} (hImage : run.remote.newImg = some image) :
    some image ≠ before.remote.primary := by
  have hMksquashfs (fate : RebuildFate) (s : Remote) (hs : s.newImg ≠ some .old) :
      (mksquashfs fate s).1.newImg ≠ some .old := by
    unfold mksquashfs work
    split
    · simp
    · dsimp only
      split
      · simp
      · exact hs
  have hKept (kind : StepKind) (hKind : kind ≠ .replace) :
      Preserved given outcomes (fun s => s.newImg ≠ some .old) kind := by
    intro again s hs
    by_cases hRebuild : kind = .rebuildXz ∨ kind = .rebuildGzip
    · rcases hRebuild with rfl | rfl
      · exact hMksquashfs _ s hs
      · exact hMksquashfs _ s hs
    · have hImages := @images_effect given outcomes again kind
        (by simpa [not_or, hKind] using hRebuild) s
      rw [(Prod.mk.inj (Prod.mk.inj hImages).2).2]
      exact hs
  have hSteps := @takeSteps_preserves given outcomes params _ { remote := before.remote }
    stepsToRebuild (fun kind hKind => hKept kind (by revert hKind; cases kind <;> decide))
    (fun _ => hKept _ (by decide)) (by
      simp only [Before.remote]
      split <;> simp)
  rw [h] at hSteps
  rw [← hImage]
  simp only [Before.remote]
  split
  · exact hSteps
  · rw [hImage]
    simp

end

section

variable {before : Before} {run last : Run}

theorem primary_lastSteps (run : Run) :
    (takeSteps given outcomes params lastSteps run).run.remote.primary =
        (replacePrimary outcomes.replace run.remote).1.primary ∧
      (takeSteps given outcomes params lastSteps run).run.remote.earlier =
        (replacePrimary outcomes.replace run.remote).1.earlier := by
  have hReplace : (takeStep given outcomes params .replace run).run.remote =
      (replacePrimary outcomes.replace run.remote).1 := remote_takeStep (by decide)
  unfold lastSteps takeSteps
  split
  · rename_i after error hStopped
    rw [hStopped] at hReplace
    exact ⟨congrArg Remote.primary hReplace, congrArg Remote.earlier hReplace⟩
  · rename_i after hGoing
    rw [hGoing] at hReplace
    rw [← hReplace]
    have hClean : Preserved given outcomes (fun s => s.primary = after.remote.primary ∧
        s.earlier = after.remote.earlier) .cleanup := by
      intro again s hs
      obtain ⟨hPrimary, hEarlier⟩ := @primary_effect given outcomes again .cleanup (by decide) s
      exact ⟨hPrimary.trans hs.1, hEarlier.trans hs.2⟩
    apply takeSteps_preserves (P := fun s => s.primary = after.remote.primary ∧
      s.earlier = after.remote.earlier)
    · rintro kind (_ | ⟨_, ⟨⟩⟩)
      exact hClean
    · exact fun hXz => absurd hXz (by decide)
    · exact ⟨rfl, rfl⟩

theorem replacePrimary_of_renames {s : Remote} {image : Image} (hImage : s.newImg = some image)
    (hWorks : outcomes.replace.works) :
    (replacePrimary outcomes.replace s).1.primary = some image ∧
      (replacePrimary outcomes.replace s).1.earlier = s.earlier ++ [s.primary] := by
  unfold replacePrimary work
  rw [hImage]
  dsimp only
  rw [if_pos hWorks]
  exact ⟨rfl, rfl⟩

theorem replacePrimary_of_not_renames {s : Remote} (h : ¬ Renames outcomes s) :
    (replacePrimary outcomes.replace s).1 = s := by
  unfold replacePrimary work
  split
  · rename_i image hImage
    have hWorks : ¬ outcomes.replace.works = true := fun hWorks =>
      h ⟨hWorks, by rw [hImage]; rfl⟩
    rw [if_neg hWorks]
    rfl
  · rfl

end

variable {before : Before} {run last : Run}

theorem run_of_stopped {error : Text}
    (h : takeSteps given outcomes params stepsToRebuild { remote := before.remote } =
      .stopped run error) :
    (runPerccliPersist given outcomes params before).run = run ∧
      (runPerccliPersist given outcomes params before).op.status = .failed := by
  have hAll : takeSteps given outcomes params steps { remote := before.remote } =
      .stopped run error := by
    rw [show steps = stepsToRebuild ++ lastSteps from rfl, takeSteps_append, h]
  unfold runPerccliPersist
  rw [hAll]
  exact ⟨rfl, rfl⟩

theorem run_of_going
    (h : takeSteps given outcomes params stepsToRebuild { remote := before.remote } = .going run) :
    (runPerccliPersist given outcomes params before).run =
        (takeSteps given outcomes params lastSteps run).run ∧
      ((runPerccliPersist given outcomes params before).op.status = .success ↔
        ∃ last, takeSteps given outcomes params lastSteps run = .going last) ∧
      ((runPerccliPersist given outcomes params before).op.status = .failed ↔
        ∃ last error, takeSteps given outcomes params lastSteps run = .stopped last error) := by
  have hAll : takeSteps given outcomes params steps { remote := before.remote } =
      takeSteps given outcomes params lastSteps run := by
    rw [show steps = stepsToRebuild ++ lastSteps from rfl, takeSteps_append, h]
  unfold runPerccliPersist
  rw [hAll]
  cases takeSteps given outcomes params lastSteps run with
  | stopped last error => exact ⟨rfl, by simp, by simp⟩
  | going last => exact ⟨rfl, by simp, by simp⟩

theorem keepsPromise_of_renames_iff
    (h : takeSteps given outcomes params stepsToRebuild { remote := before.remote } = .going run)
    (hRenames : Renames outcomes run.remote) :
    KeepsPromise given before (runPerccliPersist given outcomes params before) ↔
      IsNew given run.remote.newImg ∧ (run.executed ++ lastSteps).Nodup ∧
        ∃ last, takeSteps given outcomes params lastSteps run = .going last := by
  obtain ⟨hWorks, hSome⟩ := hRenames
  obtain ⟨image, hImage⟩ := Option.isSome_iff_exists.mp hSome
  obtain ⟨hRun, hSuccess, hFailed⟩ := run_of_going h
  obtain ⟨hPrimary, hEarlier⟩ := @primary_lastSteps given outcomes params run
  obtain ⟨hNow, hWas⟩ := replacePrimary_of_renames hImage hWorks
  have hStart := @primary_stepsToRebuild given outcomes params before
  rw [h] at hStart
  obtain ⟨hOld, hNone⟩ : run.remote.primary = before.remote.primary ∧ run.remote.earlier = [] :=
    hStart
  have hOther := newImg_ne_primary h hImage
  rw [hNow, ← hRun] at hPrimary
  rw [hWas, hNone, hOld, ← hRun] at hEarlier
  have hExecuted (last : Run) (hLast : takeSteps given outcomes params lastSteps run =
      .going last) : last.executed = run.executed ++ lastSteps :=
    executed_takeSteps (by decide) hLast
  constructor
  · intro hKeeps
    have hLast : ∃ last, takeSteps given outcomes params lastSteps run = .going last := by
      cases hEnd : takeSteps given outcomes params lastSteps run with
      | going last => exact ⟨last, rfl⟩
      | stopped last error =>
        have hSame := hKeeps.failed (hFailed.mpr ⟨last, error, hEnd⟩)
        rw [hPrimary] at hSame
        exact absurd hSame hOther
    obtain ⟨hNew, hNodup⟩ := hKeeps.success (hSuccess.mpr hLast)
    obtain ⟨last, hGoing⟩ := hLast
    rw [hPrimary, ← hImage] at hNew
    rw [hRun, hGoing] at hNodup
    refine ⟨hNew, ?_, last, hGoing⟩
    rw [← hExecuted last hGoing]
    exact hNodup
  · rintro ⟨hNew, hNodup, last, hGoing⟩
    rw [hImage] at hNew
    constructor
    · rw [hPrimary, hEarlier]
      intro image' hMem
      rcases List.mem_append.mp hMem with hIn | hIn
      · exact Or.inl (List.mem_singleton.mp hIn)
      · rw [List.mem_singleton.mp hIn]
        exact Or.inr hNew
    · intro _
      rw [hPrimary, hRun, hGoing]
      refine ⟨hNew, ?_⟩
      show last.executed.Nodup
      rwa [hExecuted last hGoing]
    · intro hFail
      obtain ⟨last', error, hStopped⟩ := hFailed.mp hFail
      rw [hGoing] at hStopped
      cases hStopped

theorem keepsPromise_of_not_renames_iff
    (h : takeSteps given outcomes params stepsToRebuild { remote := before.remote } = .going run)
    (hRenames : ¬ Renames outcomes run.remote) :
    KeepsPromise given before (runPerccliPersist given outcomes params before) ↔
      ∃ last error, takeSteps given outcomes params lastSteps run = .stopped last error := by
  obtain ⟨hRun, hSuccess, hFailed⟩ := run_of_going h
  obtain ⟨hPrimary, hEarlier⟩ := @primary_lastSteps given outcomes params run
  have hStart := @primary_stepsToRebuild given outcomes params before
  rw [h] at hStart
  obtain ⟨hOld, hNone⟩ : run.remote.primary = before.remote.primary ∧ run.remote.earlier = [] :=
    hStart
  rw [replacePrimary_of_not_renames hRenames, hOld, ← hRun] at hPrimary
  rw [replacePrimary_of_not_renames hRenames, hNone, ← hRun] at hEarlier
  constructor
  · intro hKeeps
    cases hEnd : takeSteps given outcomes params lastSteps run with
    | stopped last error => exact ⟨last, error, rfl⟩
    | going last =>
      obtain ⟨tree, hNew, -⟩ := (hKeeps.success (hSuccess.mpr ⟨last, hEnd⟩)).1
      rw [hPrimary] at hNew
      simp only [Before.remote] at hNew
      split at hNew <;> cases hNew
  · intro hStopped
    constructor
    · rw [hPrimary, hEarlier]
      intro image hMem
      exact Or.inl (List.mem_singleton.mp hMem)
    · intro hPass
      obtain ⟨last, hGoing⟩ := hSuccess.mp hPass
      obtain ⟨last', error, hEnd⟩ := hStopped
      rw [hGoing] at hEnd
      cases hEnd
    · exact fun _ => hPrimary

theorem isNew_of_rebuild_iff {ready : Run}
    (hReady : takeSteps given outcomes params stepsToInject { remote := before.remote } =
      .going ready)
    (hRebuilt : takeStep given outcomes params .rebuildXz ready = .going run) :
    IsNew given run.remote.newImg ∧ (run.executed ++ lastSteps).Nodup ↔
      (HasOldRoot given ready.remote.workdir ∧ HasTool given ready.remote.workdir) ∧
        outcomes.rebuildXz.works = true ∧ Passes given outcomes .rebuildXz ready := by
  have hSteps : ready.executed = stepsToInject := executed_takeSteps (by decide) hReady
  rcases rebuild_eq_going hRebuilt with ⟨hPasses, hRemote, hExecuted⟩ | ⟨hNot, hExecuted⟩
  · have hNodup : (run.executed ++ lastSteps).Nodup := by
      rw [hExecuted, hSteps]
      decide
    have hNew : run.remote.newImg = (mksquashfs outcomes.rebuildXz ready.remote).1.newImg :=
      congrArg Remote.newImg hRemote
    rw [hNew, isNew_mksquashfs_iff (newImg_not_packed hReady)]
    exact ⟨fun hBoth => ⟨hBoth.1.2, hBoth.1.1, hPasses⟩, fun hAll => ⟨⟨hAll.2.1, hAll.1⟩, hNodup⟩⟩
  · refine iff_of_false (fun hBoth => ?_) fun hAll => hNot hAll.2.2
    rw [hExecuted, hSteps] at hBoth
    exact absurd hBoth.2 (by decide)

end

def exampleParams : Params where
  stagingId := "a1".toList
  remoteRpmPath := "/tmp/perccli.rpm".toList
  rootPartition := "/dev/sda2".toList
  ts := "2024-01-01".toList

def exampleGiven (file : String) : Given where
  root := some (FileTree.missing.makeDirs (perccliDirs ++ sbinDirs) fun _ => true)
  rpm := FileTree.missing.put file.toList (.file [1])

/-- All commands work, and `find` comes to the file. -/
def exampleOutcomes (file : String) : Outcomes where
  inject := { find := { visited := [file.toList] } }

example : (runPerccliPersist (exampleGiven "/opt/perccli64") (exampleOutcomes "/opt/perccli64")
    exampleParams ⟨true, false, FileTree.missing, FileTree.missing⟩).run.remote.primary.map
      (fun | .packed tree => tree.content perccliPath | _ => none) = some (some [1]) := by
  decide +kernel

end EsosWebui.Raid.PerccliPersist
