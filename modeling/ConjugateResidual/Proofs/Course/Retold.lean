import ConjugateResidual.Proofs.Course.Spoken

/-!
Solves of which more or less is told: with progress lines at another interval, or with the history
left out. Nothing in a solve depends on what is told of it, so two such solves keep step as long as
the observers do.
-/

namespace ConjugateResidual

open Arithmetic

structure Retelling where
  /-- Another interval between the printed lines. -/
  interval? : Option Nat := none
  /-- The history is left out. -/
  hidesHistory : Bool := false

def Retelling.unrecorded : Retelling :=
  { hidesHistory := true }

variable {J R X Y : Type}

namespace Retelling

variable (retelling : Retelling)

def settings (settings : Settings R) : Settings R :=
  { settings with
    interval := retelling.interval?.getD settings.interval
    keepsHistory := settings.keepsHistory && !retelling.hidesHistory }

def snapshot (stats : Snapshot R) : Snapshot R :=
  if retelling.hidesHistory then { stats with residuals := [], optimalities := [] } else stats

def recorder (recorder : Recorder R) : Recorder R :=
  { retelling.snapshot recorder.toSnapshot with
    keepsHistory := recorder.keepsHistory && !retelling.hidesHistory }

def report (report : Report R) : Report R :=
  { report with stats := retelling.snapshot report.stats }

def workspace (workspace : Workspace R X Y) : Workspace R X Y :=
  { workspace with recorder := retelling.recorder workspace.recorder }

theorem iterations_report (report : Report R) :
    (retelling.report report).stats.iterations = report.stats.iterations := by
  unfold Retelling.report snapshot
  split <;> rfl

private theorem recorder_cleared (keepsHistory : Bool) :
    retelling.recorder (.cleared keepsHistory : Recorder R) =
      .cleared (keepsHistory && !retelling.hidesHistory) := by
  unfold recorder snapshot Recorder.cleared
  split <;> rfl

theorem recorder_recordResidual (recorder : Recorder R) (norm : R) :
    retelling.recorder (recorder.recordResidual norm) =
      (retelling.recorder recorder).recordResidual norm := by
  obtain ⟨interval?, hidesHistory⟩ := retelling
  unfold Retelling.recorder snapshot Recorder.recordResidual
  cases hidesHistory <;> cases kept : recorder.keepsHistory <;> simp [kept]

theorem recorder_recordOptimality (recorder : Recorder R) (norm : R) :
    retelling.recorder (recorder.recordOptimality norm) =
      (retelling.recorder recorder).recordOptimality norm := by
  obtain ⟨interval?, hidesHistory⟩ := retelling
  unfold Retelling.recorder snapshot Recorder.recordOptimality
  cases hidesHistory <;> cases kept : recorder.keepsHistory <;> simp [kept]

private theorem recorder_counted (recorder : Recorder R) (iterations : Int) :
    retelling.recorder { recorder with iterations } =
      { retelling.recorder recorder with iterations } := by
  unfold Retelling.recorder snapshot
  split <;> rfl

theorem recorder_settled (recorder : Recorder R) (iterations : Int) (solved inconsistent : Bool)
    (status : Status) :
    retelling.recorder { recorder with iterations, solved, inconsistent, status } =
      { retelling.recorder recorder with iterations, solved, inconsistent, status } := by
  unfold Retelling.recorder snapshot
  split <;> rfl

private theorem recorder_completed (workspace : Workspace R X Y) (iterations : Nat)
    (progress : Progress R) :
    retelling.recorder (workspace.completed iterations progress).recorder =
      ((retelling.workspace workspace).completed iterations progress).recorder := by
  unfold Workspace.completed
  rw [recorder_recordOptimality, recorder_recordResidual, recorder_counted]
  rfl

theorem workspace_of_shown {retelling : Retelling} (shown : retelling.hidesHistory = false)
    (workspace : Workspace R X Y) : retelling.workspace workspace = workspace := by
  unfold Retelling.workspace Retelling.recorder snapshot
  rw [shown]
  simp

end Retelling

structure Surroundings.Retold (retelling : Retelling) (around around' : Surroundings J R) :
    Prop where
  printed : retelling.interval? = none → around'.printed = around.printed
  journal : around'.journal = around.journal
  frame : around'.toFrame = { around.toFrame with recorder := retelling.recorder around.recorder }
  busy : around.busy = true

variable {retelling : Retelling}

theorem tolerates_retold (notes : List J) :
    Tolerates (Surroundings.Retold (R := R) retelling) notes :=
  fun _ _ bonded => { bonded with journal := congrArg (· ++ notes) bonded.journal }

private theorem Problem.tolerated_retold (problem : Problem J R X Y) :
    problem.Tolerated (Surroundings.Retold retelling) :=
  { forward := fun _ => tolerates_retold _
    adjoint := fun _ => tolerates_retold _
    weight := fun _ _ _ => tolerates_retold _ }

abbrev RunState.Retold (retelling : Retelling) (state state' : RunState J R X Y) : Prop :=
  state.Together (Surroundings.Retold retelling) Eq state'

namespace RunState.Retold

variable {state state' : RunState J R X Y} (retold : state.Retold retelling state')
include retold

theorem recorder : state'.workspace.recorder = retelling.recorder state.workspace.recorder :=
  congrArg Frame.recorder retold.bonded.frame

theorem workspace : state'.workspace = retelling.workspace state.workspace :=
  Workspace.eq_of_parts retold.bonded.frame retold.vectors retold.copies

/-- The lines that are printed may depend on the interval. -/
theorem said (settings : Settings R) (lines : Nat → List (Line R)) :
    RunState.Retold retelling
      { state with printed := state.printed ++ lines settings.interval }
      { state' with
        printed := state'.printed ++ lines (retelling.settings settings).interval } := by
  refine { retold with bonded := { retold.bonded with printed := fun kept => ?_ } }
  have printed : state'.printed = state.printed := retold.bonded.printed kept
  unfold Retelling.settings
  dsimp only [RunState.surroundings]
  rw [printed, kept]
  rfl

theorem recorded {recorder recorder' : Recorder R}
    (told : recorder' = retelling.recorder recorder) :
    RunState.Retold retelling { state with workspace := { state.workspace with recorder } }
      { state' with workspace := { state'.workspace with recorder := recorder' } } := by
  subst told
  refine { retold with bonded := { retold.bonded with frame := ?_ } }
  exact congrArg (fun frame : Frame R => { frame with recorder := retelling.recorder recorder })
    retold.bonded.frame

private theorem consulted (settings : Settings R) (iterations : Nat) (progress : Progress R) :
    (state.consulted settings iterations progress).Retold retelling
      (state'.consulted (retelling.settings settings) iterations progress) := by
  have completed : (state'.workspace.completed iterations progress).recorder =
      retelling.recorder (state.workspace.completed iterations progress).recorder := by
    rw [retelling.recorder_completed, ← retold.workspace]
  have line := retold.said settings fun interval =>
    if isDue interval iterations then
      [.progress iterations progress.optimality progress.residual]
    else []
  exact line.recorded completed

end RunState.Retold

/-! ### Observers -/

namespace Run

variable {observer : Run J R X Y Bool}

/-- Who cannot see the printed lines cannot tell one interval from another. -/
theorem Appends.retold (appends : Appends observer) (keeps : KeepsFrame observer)
    (shown : retelling.hidesHistory = false) :
    Lockstep (Surroundings.Retold retelling) Eq (Vectors.ImagesIn fun _ => True) observer observer
      (fun _ => True) (Vectors.ImagesIn fun _ => True) := by
  intro state state' retold _
  have workspace : state'.workspace = state.workspace :=
    (RunState.Retold.workspace retold).trans (Retelling.workspace_of_shown shown _)
  have journal : state'.journal = state.journal := retold.bonded.journal
  have erased : ({ state' with printed := [] } : RunState J R X Y) =
      { state with printed := [] } := by
    rw [workspace, journal]
  rw [appends state, appends state', erased]
  have held := congrArg Frame.busy (keeps { state with printed := [] } retold.bonded.busy)
  generalize observer { state with printed := [] } = spoken at held ⊢
  refine { outcome := rfl, together := ?_, given := fun _ _ => ⟨trivial, trivial, trivial⟩ }
  refine { vectors := rfl, copies := rfl, bonded := ?_ }
  refine
    { printed := fun kept => ?_, journal := rfl, frame := ?_
      busy := held.trans retold.bonded.busy }
  · have printed : state'.printed = state.printed := retold.bonded.printed kept
    exact congrArg (· ++ spoken.2.printed) printed
  · exact congrArg Workspace.frame (Retelling.workspace_of_shown shown spoken.2.workspace).symm

def unrecorded (observer : Run J R X Y Bool) : Run J R X Y Bool :=
  fun state =>
    let shown :=
      observer { state with workspace := Retelling.unrecorded.workspace state.workspace }
    (shown.1,
      { shown.2 with workspace := { shown.2.workspace with recorder := state.workspace.recorder } })

/-- To the observer it makes no difference that a history is kept. -/
def Overlooks (observer : Run J R X Y Bool) : Prop :=
  ∀ state, state.workspace.busy = true → unrecorded observer state = observer state

theorem KeepsFrame.unrecorded (keeps : KeepsFrame observer) : KeepsFrame (unrecorded observer) := by
  intro state busy
  have frame := keeps
    { state with workspace := Retelling.unrecorded.workspace state.workspace } busy
  exact congrArg (fun frame : Frame R => { frame with recorder := state.workspace.recorder }) frame

theorem Appends.unrecorded (appends : Appends observer) : Appends (unrecorded observer) := by
  intro state
  unfold Run.unrecorded
  rw [appends { state with workspace := Retelling.unrecorded.workspace state.workspace }]

theorem KeepsFrame.retold (keeps : KeepsFrame observer) :
    Lockstep (Surroundings.Retold .unrecorded) Eq (Vectors.ImagesIn fun _ => True)
      (Run.unrecorded observer) observer (fun _ => True) (Vectors.ImagesIn fun _ => True) := by
  intro state state' retold _
  have same : state' =
      { state with workspace := Retelling.unrecorded.workspace state.workspace } := by
    have workspace := RunState.Retold.workspace retold
    have printed : state'.printed = state.printed := retold.bonded.printed rfl
    have journal : state'.journal = state.journal := retold.bonded.journal
    have trail : state'.toTrail = state.toTrail := by
      show Trail.mk state'.printed state'.journal = _
      rw [printed, journal]
    rw [← workspace, ← trail]
  have held : state'.workspace.busy = true :=
    (congrArg Frame.busy retold.bonded.frame).trans retold.bonded.busy
  have frame := keeps state' held
  unfold Run.unrecorded
  rw [← same]
  refine { outcome := rfl, together := ?_, given := fun _ _ => ⟨trivial, trivial, trivial⟩ }
  refine { vectors := rfl, copies := rfl, bonded := ?_ }
  refine { printed := fun _ => rfl, journal := rfl, frame := ?_, busy := ?_ }
  · have told : (observer state').2.workspace.recorder =
        Retelling.unrecorded.recorder state.workspace.recorder :=
      (congrArg Frame.recorder frame).trans (RunState.Retold.recorder retold)
    show (observer state').2.workspace.frame =
      { (observer state').2.workspace.frame with
        recorder := Retelling.unrecorded.recorder state.workspace.recorder }
    rw [← told]
    rfl
  · exact (congrArg Frame.busy frame).trans held

end Run

/-! ### The parts of a solve -/

variable {problem : Problem J R X Y} {settings : Settings R} {observer observer' : Run J R X Y Bool}
variable {pre : Vectors X Y → Prop}

section Observed

variable (observes : Run.Lockstep (Surroundings.Retold retelling) Eq pre observer observer'
  (fun _ => True) pre)
include observes

private theorem complete_retold (iterations : Nat) (progress : Progress R) :
    Run.Lockstep (Surroundings.Retold retelling) Eq pre
      (complete settings observer iterations progress)
      (complete (retelling.settings settings) observer' iterations progress) (fun _ => True)
      pre := by
  intro state state' retold starts
  rw [complete_eq, complete_eq]
  exact observes _ _ (RunState.Retold.consulted retold settings iterations progress) starts

private theorem settleAttempt_retold (course : Course R) (tried : Course R ⊕ Progress R) :
    Run.Lockstep (Surroundings.Retold retelling) Eq pre
      (course.settleAttempt settings observer tried)
      (course.settleAttempt (retelling.settings settings) observer' tried) (fun _ => True) pre := by
  cases tried with
  | inl next => exact .pure trivial
  | inr progress => exact .bind (complete_retold observes _ _) fun _ _ => .pure trivial

end Observed

private theorem recordStart_retold (start : Progress R) :
    Run.Lockstep (J := J) (X := X) (Y := Y) (Surroundings.Retold retelling) Eq pre
      (recordStart start) (recordStart start) (fun _ => True) pre := by
  intro state state' retold starts
  have started : (state'.workspace.recorder.recordOptimality start.optimality) =
      retelling.recorder (state.workspace.recorder.recordOptimality start.optimality) := by
    rw [retelling.recorder_recordOptimality, ← RunState.Retold.recorder retold]
  exact
    { outcome := rfl, together := RunState.Retold.recorded retold started
      given := fun _ _ => ⟨trivial, starts⟩ }

variable [Arithmetic R] [VectorArithmetic R X] [VectorArithmetic R Y]

omit [VectorArithmetic R X] in
/-- Neither the operator nor what it is applied to depends on what is told. -/
theorem Problem.paired_retold (problem : Problem J R X Y) :
    problem.Paired (Surroundings.Retold retelling) Eq (fun _ => True) problem :=
  problem.tolerated_retold.paired fun _ => rfl

private theorem openCourse_retold (norm : R) :
    Run.Lockstep (Surroundings.Retold retelling) Eq (fun _ => True)
      (openCourse problem settings norm) (openCourse problem (retelling.settings settings) norm)
      (fun _ => True) (Vectors.ImagesIn fun _ => True) := by
  intro state state' retold starts
  have launched : Run.Lockstep (Surroundings.Retold retelling) Eq (fun _ => True)
      (launch problem settings norm) (launch problem (retelling.settings settings) norm)
      (fun _ => True) (Vectors.ImagesIn fun _ => True) := by
    rw [launch_eq, launch_eq]
    exact .bind (gather_lockstep settings problem.paired_retold norm) fun start _ =>
      recordStart_retold start
  obtain ⟨outcome, between, -⟩ := launched state state' retold starts
  cases launches : launch problem settings norm state with
  | mk answer after =>
      cases launches' : launch problem (retelling.settings settings) norm state' with
      | mk answer' after' =>
          rw [launches, launches'] at outcome between
          cases outcome
          cases answer with
          | error fault =>
              rw [openCourse_of_fault _ launches, openCourse_of_fault _ launches']
              exact
                { outcome := rfl, together := between
                  given := fun _ returned => by cases returned }
          | ok start =>
              rw [openCourse_eq _ launches, openCourse_eq _ launches']
              have opened := RunState.Retold.said between settings fun interval =>
                if 0 < interval then
                  [.header, .progress 0 start.optimality start.residual]
                else []
              exact
                { outcome := rfl, together := opened
                  given := fun _ _ => ⟨trivial, trivial, trivial⟩ }

section Observed

variable (observes : Run.Lockstep (Surroundings.Retold retelling) Eq
  (Vectors.ImagesIn fun _ => True) observer observer' (fun _ => True)
  (Vectors.ImagesIn fun _ => True))
include observes

private theorem iterate_retold (threshold : R) (course : Course R) :
    Run.Lockstep (Surroundings.Retold retelling) Eq (Vectors.ImagesIn fun _ => True)
      (iterate problem settings observer threshold course)
      (iterate problem (retelling.settings settings) observer' threshold course) (fun _ => True)
      (Vectors.ImagesIn fun _ => True) := by
  rw [iterate_eq, iterate_eq]
  exact .bind (attempt_lockstep settings problem.paired_retold threshold course) fun tried _ =>
    settleAttempt_retold observes course tried

private theorem iterations_retold (threshold : R) (remaining : Nat) (course : Course R) :
    Run.Lockstep (Surroundings.Retold retelling) Eq (Vectors.ImagesIn fun _ => True)
      (iterations problem settings observer threshold remaining course)
      (iterations problem (retelling.settings settings) observer' threshold remaining course)
      (fun _ => True) (Vectors.ImagesIn fun _ => True) := by
  induction remaining generalizing course with
  | zero => exact .pure trivial
  | succ remaining ih =>
      unfold iterations
      split
      · exact .pure trivial
      · exact .bind (iterate_retold observes threshold course) fun next _ => ih next

variable (settings) in
private theorem runCourse_retold (norm : R) :
    Run.Lockstep (Surroundings.Retold retelling) Eq (fun _ => True)
      (runCourse problem settings observer norm)
      (runCourse problem (retelling.settings settings) observer' norm) (fun _ => True)
      (Vectors.ImagesIn fun _ => True) := by
  unfold runCourse
  refine .bind (openCourse_retold norm) fun opening _ => ?_
  exact .bind (iterations_retold observes _ _ _) fun _ _ => .pure trivial

end Observed

/-! ### Whole solves -/

variable (retelling) in
structure RetoldEnd (result result' : Except (Fault R) (Report R) × RunState J R X Y) : Prop where
  outcome : result'.1 = result.1.map retelling.report
  printed : retelling.interval? = none → result'.2.printed = result.2.printed
  journal : result'.2.journal = result.2.journal
  workspace : result'.2.workspace = retelling.workspace result.2.workspace

omit [VectorArithmetic R X] [VectorArithmetic R Y] [Arithmetic R] in
theorem RetoldEnd.of_retold {after after' : RunState J R X Y}
    (retold : after.Retold retelling after') (outcome : Except (Fault R) (Report R)) :
    RetoldEnd retelling (outcome, after.released)
      (outcome.map retelling.report, after'.released) :=
  { outcome := rfl, printed := retold.bonded.printed, journal := retold.bonded.journal
    workspace := congrArg (fun workspace => { workspace with busy := false })
      (RunState.Retold.workspace retold) }

omit [Arithmetic R] in
private theorem Problem.entered_retold (problem : Problem J R X Y) (settings : Settings R)
    (before : RunState J R X Y) :
    (problem.entered settings before).Retold retelling
      (problem.entered (retelling.settings settings) before) := by
  refine { vectors := rfl, copies := rfl, bonded := ?_ }
  refine { printed := fun kept => ?_, journal := rfl, frame := ?_, busy := rfl }
  · unfold Retelling.settings
    rw [kept]
    rfl
  · unfold RunState.surroundings Workspace.frame Problem.entered Problem.prepared
    dsimp only
    rw [retelling.recorder_recordResidual, retelling.recorder_cleared]
    rfl

section Ends

variable {state state' : RunState J R X Y} (retold : state.Retold retelling state')
include retold

omit [VectorArithmetic R X] [VectorArithmetic R Y] in
theorem solveZero_retold :
    let result := solveZero problem settings state
    let result' := solveZero problem (retelling.settings settings) state'
    RetoldEnd retelling (result.1, result.2.released) (result'.1, result'.2.released) := by
  have answered : state'.workspace.answered.recorder =
      retelling.recorder state.workspace.answered.recorder := by
    unfold Workspace.answered Workspace.settled
    rw [retelling.recorder_recordOptimality, retelling.recorder_settled,
      ← RunState.Retold.recorder retold]
  have ended := RetoldEnd.of_retold (RunState.Retold.recorded retold answered)
    (.ok (problem.reported settings none [] state.workspace.answered.stats))
  rw [solveZero_apply, solveZero_apply]
  refine { ended with outcome := ?_ }
  exact congrArg (fun recorder : Recorder R =>
    Except.ok (problem.reported settings none [] recorder.snapshot)) answered

omit [VectorArithmetic R X] [VectorArithmetic R Y] in
private theorem closeCourse_retold (opening : Opening R) (course : Course R) :
    let result := closeCourse problem settings opening course state
    let result' := closeCourse problem (retelling.settings settings) opening course state'
    RetoldEnd retelling (result.1, result.2.released) (result'.1, result'.2.released) := by
  have settled : (course.settle settings opening.threshold state'.workspace).recorder =
      retelling.recorder (course.settle settings opening.threshold state.workspace).recorder := by
    unfold Course.settle Workspace.settled
    rw [retelling.recorder_settled, ← RunState.Retold.recorder retold]
  have blank := RunState.Retold.said retold settings fun interval =>
    if 0 < interval then [.blank] else []
  have ended := RetoldEnd.of_retold (RunState.Retold.recorded blank settled)
    (.ok (problem.reported settings (some (course.figures opening))
      (course.warnings settings opening.threshold)
      (course.settle settings opening.threshold state.workspace).stats))
  rw [closeCourse_eq, closeCourse_eq]
  refine { ended with outcome := ?_ }
  exact congrArg (fun recorder : Recorder R =>
    Except.ok (problem.reported settings (some (course.figures opening))
      (course.warnings settings opening.threshold) recorder.snapshot)) settled

end Ends

variable (problem settings) in
/-- What is told of a solve does not change it. -/
theorem solve_retold
    (observes : Run.Lockstep (Surroundings.Retold retelling) Eq
      (Vectors.ImagesIn fun _ => True) observer observer' (fun _ => True)
      (Vectors.ImagesIn fun _ => True))
    {before : RunState J R X Y} (free : before.workspace.busy = false) :
    RetoldEnd retelling (solve problem settings observer before)
      (solve problem (retelling.settings settings) observer' before) := by
  have announced := announce_held problem settings before
  have announced' := announce_held problem (retelling.settings settings) before
  have entered : (problem.entered settings before).Retold retelling
      (problem.entered (retelling.settings settings) before) :=
    problem.entered_retold settings before
  cases zero : isZero (VectorArithmetic.norm problem.rightHandSide : R) with
  | true =>
      rw [solve_of_zero free announced zero, solve_of_zero free announced' zero]
      exact solveZero_retold entered
  | false =>
      rw [solve_of_nonzero free announced zero, solve_of_nonzero free announced' zero,
        solveNonzero_eq, solveNonzero_eq, Run.bind_apply, Run.bind_apply]
      obtain ⟨outcome, between, -⟩ :=
        runCourse_retold settings observes
          (VectorArithmetic.norm problem.rightHandSide) _ _ entered trivial
      generalize runCourse problem settings observer _ _ = ran at outcome between ⊢
      generalize runCourse problem (retelling.settings settings) observer' _ _ = ran'
        at outcome between ⊢
      obtain ⟨answer, after⟩ := ran
      obtain ⟨answer', after'⟩ := ran'
      cases outcome
      cases answer with
      | error fault => exact .of_retold between (.error fault)
      | ok ended => exact closeCourse_retold between ended.1 ended.2

end ConjugateResidual
