import ConjugateResidual.Proofs.Course.Records

/-!
Solves on two workspaces of the same sizes, in any arithmetic. What a workspace holds at the start,
its preconditioned copy included, is overwritten before it is read, so nobody who does not look at
the copy can tell the two solves apart.
-/

namespace ConjugateResidual

open Arithmetic

variable {J R X Y A : Type}

def Surroundings.Alike (around around' : Surroundings J R) : Prop :=
  around' = around ∧ around.busy = true

theorem Problem.tolerated_alike (problem : Problem J R X Y) :
    problem.Tolerated Surroundings.Alike := by
  have tolerates : ∀ notes : List J, Tolerates (Surroundings.Alike (R := R)) notes := by
    rintro notes around _ ⟨rfl, busy⟩
    exact ⟨rfl, busy⟩
  exact
    { forward := fun _ => tolerates _
      adjoint := fun _ => tolerates _
      weight := fun _ _ _ => tolerates _ }

theorem recordsAlike_alike : RecordsAlike (Surroundings.Alike (J := J) (R := R)) := by
  refine { recorder := ?_, print := ?_, record := ?_ }
  · rintro around _ ⟨rfl, busy⟩
    rfl
  · rintro line around _ ⟨rfl, busy⟩
    exact ⟨rfl, busy⟩
  · rintro change around _ ⟨rfl, busy⟩
    exact ⟨rfl, busy⟩

def Workspace.shown (workspace : Workspace R X Y) : Workspace R X Y :=
  { workspace with weighted? := none }

theorem Workspace.shown_eq {workspace workspace' : Workspace R X Y}
    (frame : workspace'.frame = workspace.frame)
    (vectors : workspace'.vectors = workspace.vectors) :
    workspace'.shown = workspace.shown := by
  cases workspace
  cases workspace'
  simp only [Workspace.frame, Frame.mk.injEq, Workspace.vectors, Vectors.mk.injEq] at frame vectors
  simp only [shown, frame, vectors]

theorem Workspace.eq_of_parts {workspace workspace' : Workspace R X Y}
    (frame : workspace'.frame = workspace.frame) (vectors : workspace'.vectors = workspace.vectors)
    (copies : workspace.weighted? = workspace'.weighted?) : workspace' = workspace := by
  cases workspace
  cases workspace'
  simp only [Workspace.frame, Frame.mk.injEq] at frame
  simp only [Workspace.vectors, Vectors.mk.injEq] at vectors
  cases copies
  simp only [frame, vectors]

namespace Run

/-- An observer that leaves a held workspace alone, and whose answers, notes and printed lines do
not depend on the preconditioned copy. -/
structure Discreet (observer : Run J R X Y Bool) : Prop where
  respects : Respects observer
  discreet : ∀ state state' : RunState J R X Y, state.workspace.busy = true →
    state'.toTrail = state.toTrail → state'.workspace.shown = state.workspace.shown →
    (observer state').1 = (observer state).1 ∧
      (observer state').2.toTrail = (observer state).2.toTrail

namespace Coupled

variable {pre post : Vectors X Y → Vectors X Y → Prop}

private theorem bind_alike {next next' : Workspace R X Y → Run J R X Y A}
    (rest : ∀ workspace workspace', workspace'.frame = workspace.frame →
      pre workspace.vectors workspace'.vectors →
      Coupled Surroundings.Alike pre (next workspace) (next' workspace') post) :
    Coupled Surroundings.Alike pre (Run.workspace >>= next) (Run.workspace >>= next') post :=
  fun state state' bonded starts =>
    rest state.workspace state'.workspace (congrArg Surroundings.toFrame bonded.1) starts
      state state' bonded starts

end Coupled

theorem Discreet.noting {observer : Run J R X Y Bool} (discreet : Discreet observer)
    (view : Workspace R X Y → List J) :
    Discreet (Run.noting (fun workspace => view workspace.shown) observer) := by
  constructor
  · intro state busy
    rw [Run.noting_apply]
    exact discreet.respects _ busy
  · intro state state' busy trail shown
    rw [Run.noting_apply, Run.noting_apply, shown]
    have noted := congrArg (fun trail : Trail J R =>
      { trail with journal := trail.journal ++ view state.workspace.shown }) trail
    exact discreet.discreet
      { state with journal := state.journal ++ view state.workspace.shown }
      { state' with journal := state'.journal ++ view state.workspace.shown } busy noted shown

theorem discreet_neverExit : Discreet (neverExit : Run J R X Y Bool) :=
  { respects := fun _ _ => rfl
    discreet := fun _ _ _ trail _ => ⟨rfl, trail⟩ }

private theorem Discreet.lockstep {observer : Run J R X Y Bool} (discreet : Discreet observer)
    {pre : Vectors X Y → Prop} :
    Lockstep Surroundings.Alike (fun _ _ => True) pre observer observer (fun _ => True) pre := by
  refine discreet.respects.lockstep discreet.respects fun state state' together => ?_
  obtain ⟨same, busy⟩ := together.bonded
  have frame : state'.workspace.frame = state.workspace.frame :=
    congrArg Surroundings.toFrame same
  obtain ⟨answer, trail⟩ := discreet.discreet state state' busy
    (congrArg Surroundings.toTrail same) (Workspace.shown_eq frame together.vectors)
  refine ⟨busy, (congrArg Frame.busy frame).trans busy, answer, ?_, busy⟩
  rw [trail, frame]

end Run

/-- Two ends of a solve with the same outcome and trail. After a report the workspaces have the same
records, solution and residual, and if something was asked for they have all vectors in common. -/
structure Indistinct (asked : Prop)
    (result result' : Except (Fault R) (Report R) × RunState J R X Y) : Prop where
  outcome : result'.1 = result.1
  trail : result'.2.toTrail = result.2.toTrail
  frame : ∀ report, result.1 = .ok report →
    result'.2.workspace.frame = result.2.workspace.frame
  start : ∀ report, result.1 = .ok report →
    result.2.workspace.vectors.Start result'.2.workspace.vectors
  vectors : asked → ∀ report, result.1 = .ok report →
    result'.2.workspace.vectors = result.2.workspace.vectors

theorem Indistinct.failed {asked : Prop} {fault : Fault R} {after after' : RunState J R X Y}
    (trail : after'.toTrail = after.toTrail) :
    Indistinct asked (.error fault, after) (.error fault, after') :=
  { outcome := rfl, trail
    frame := fun _ returned => by cases returned
    start := fun _ returned => by cases returned
    vectors := fun _ _ returned => by cases returned }

private theorem Indistinct.of_twins {asked : Prop} {post : Vectors X Y → Vectors X Y → Prop}
    {result result' : Except (Fault R) (Report R) × RunState J R X Y}
    (twins : Run.Twins Surroundings.Alike post result result')
    (start : ∀ vectors vectors', post vectors vectors' → vectors.Start vectors')
    (whole : asked → ∀ vectors vectors', post vectors vectors' → vectors' = vectors) :
    Indistinct asked (result.1, result.2.released) (result'.1, result'.2.released) := by
  cases twins with
  | failed bonded => exact .failed (congrArg Surroundings.toTrail bonded.1)
  | returned bonded related =>
      have frame := congrArg Surroundings.toFrame bonded.1
      exact
        { outcome := rfl
          trail := congrArg Surroundings.toTrail bonded.1
          frame := fun _ _ => congrArg (fun frame => { frame with busy := false }) frame
          start := fun _ _ => { start _ _ related with }
          vectors := fun asked _ _ => whole asked _ _ related }

/-! ### The parts of a solve that keep records -/

variable {problem : Problem J R X Y} {settings : Settings R} {observer : Run J R X Y Bool}
variable {related : Vectors X Y → Vectors X Y → Prop}

private theorem report_alike (interval iterations : Nat) (progress : Progress R) :
    Run.Coupled (J := J) (X := X) (Y := Y) Surroundings.Alike Eq
      (report interval iterations progress) (report interval iterations progress) Eq :=
  (report_lockstep recordsAlike_alike interval iterations progress).coupled fun _ => trivial

theorem settle_alike (iterations : Nat) (solved : Bool) (status : Status) :
    Run.Coupled (J := J) (X := X) (Y := Y) Surroundings.Alike related
      (settle (R := R) iterations solved status) (settle iterations solved status) related :=
  .record recordsAlike_alike fun recorder =>
    { recorder with iterations, solved, inconsistent := false, status }

theorem reportOn_alike (figures? : Option (Figures R)) (warnings : List (Shortfall R)) :
    Run.Coupled Surroundings.Alike related (reportOn problem settings figures? warnings)
      (reportOn problem settings figures? warnings) related := by
  unfold reportOn
  refine .bind_alike fun workspace workspace' frame _ => ?_
  unfold Workspace.stats
  rw [show workspace'.recorder = workspace.recorder from congrArg Frame.recorder frame]
  exact .pure _

variable [Arithmetic R]

theorem solveZero_alike :
    Run.Coupled Surroundings.Alike related (solveZero problem settings)
      (solveZero problem settings) related := by
  unfold solveZero
  refine .bind (settle_alike _ _ _) fun _ => ?_
  refine .bind (.record recordsAlike_alike fun recorder => recorder.recordOptimality 0) fun _ => ?_
  exact reportOn_alike _ _

private theorem closeCourse_alike (opening : Opening R) (course : Course R) :
    Run.Coupled Surroundings.Alike Eq (closeCourse problem settings opening course)
      (closeCourse problem settings opening course) Eq := by
  unfold closeCourse
  split
  · refine .bind (.print recordsAlike_alike _) fun _ => ?_
    exact .bind (settle_alike _ _ _) fun _ => reportOn_alike _ _
  · exact .bind (settle_alike _ _ _) fun _ => reportOn_alike _ _

variable [VectorArithmetic R X] [VectorArithmetic R Y]

private theorem openCourse_alike (norm : R) :
    Run.Coupled Surroundings.Alike Vectors.Start (openCourse problem settings norm)
      (openCourse problem settings norm) Eq := by
  unfold openCourse
  rw [launch_eq]
  have launched : Run.Coupled Surroundings.Alike Vectors.Start
      (gather problem settings norm >>= recordStart)
      (gather problem settings norm >>= recordStart) Eq := by
    refine .bind (gather_coupled settings problem.tolerated_alike norm) fun start => ?_
    exact .bind (.record recordsAlike_alike fun recorder =>
      recorder.recordOptimality start.optimality) fun _ => .pure _
  refine .bind launched fun start => ?_
  split
  · refine .bind (.print recordsAlike_alike _) fun _ => ?_
    exact .bind (report_alike _ _ _) fun _ => .pure _
  · exact .bind (report_alike _ _ _) fun _ => .pure _

section Observed

variable (discreet : Run.Discreet observer)
include discreet

private theorem iterations_alike (threshold : R) (remaining : Nat) (course : Course R) :
    Run.Coupled Surroundings.Alike Eq
      (iterations problem settings observer threshold remaining course)
      (iterations problem settings observer threshold remaining course) Eq :=
  (iterations_lockstep recordsAlike_alike (problem.tolerated_alike.paired fun _ => trivial)
    discreet.lockstep threshold remaining course).coupled fun _ => ⟨trivial, trivial⟩

theorem solveNonzero_alike (norm : R) :
    Run.Coupled Surroundings.Alike Vectors.Start (solveNonzero problem settings observer norm)
      (solveNonzero problem settings observer norm) Eq := by
  unfold solveNonzero
  refine .bind (openCourse_alike norm) fun opening => ?_
  refine .bind (iterations_alike discreet _ _ _) fun course => ?_
  exact closeCourse_alike opening course

end Observed

/-! ### Whole solves -/

variable (problem settings) in
theorem solve_indistinct (discreet : Run.Discreet observer) {state state' : RunState J R X Y}
    (free : state.workspace.busy = false) (free' : state'.workspace.busy = false)
    (trail : state'.toTrail = state.toTrail)
    (sizes : state'.workspace.sizes = state.workspace.sizes)
    (cleared : (VectorArithmetic.cleared state'.workspace.solution : X) =
      VectorArithmetic.cleared state.workspace.solution) :
    Indistinct (isZero (VectorArithmetic.norm problem.rightHandSide : R) = false)
      (solve problem settings observer state) (solve problem settings observer state') := by
  have announced := announce_held problem settings state
  have announced' := announce_held problem settings state'
  have bonded : Surroundings.Alike (problem.entered settings state).surroundings
      (problem.entered settings state').surroundings := by
    have printed : state'.printed = state.printed := congrArg Trail.printed trail
    have journal : state'.journal = state.journal := congrArg Trail.journal trail
    obtain ⟨rows, columns, field⟩ := Sizes.mk.inj sizes
    refine ⟨?_, rfl⟩
    simp only [RunState.surroundings, Problem.entered, RunState.held, Workspace.frame,
      Problem.prepared, printed, journal, rows, columns, field]
  have start : (problem.entered settings state).vectors.Start
      (problem.entered settings state').vectors :=
    { solution := cleared, residual := rfl }
  cases zero : isZero (VectorArithmetic.norm problem.rightHandSide : R) with
  | true =>
      rw [solve_of_zero free announced zero, solve_of_zero free' announced' zero]
      have twins : Run.Twins Surroundings.Alike Vectors.Start
          (solveZero problem settings (problem.entered settings state))
          (solveZero problem settings (problem.entered settings state')) :=
        solveZero_alike _ _ bonded start
      exact .of_twins twins (fun _ _ start => start) fun asked => by cases asked
  | false =>
      rw [solve_of_nonzero free announced zero, solve_of_nonzero free' announced' zero]
      refine .of_twins (solveNonzero_alike discreet _ _ _ bonded start) ?_ ?_
      · rintro vectors _ rfl
        exact ⟨rfl, rfl⟩
      · rintro _ vectors _ rfl
        rfl

/-- Something is asked for: the right-hand side is not zero. -/
def Reply.Asks (prepared : Reply J R (Options R × Problem J R X Y)) : Prop :=
  ∃ options problem, prepared.outcome = .ok (options, problem) ∧
    isZero (VectorArithmetic.norm problem.rightHandSide : R) = false

theorem solveInPlace_indistinct (discreet : Run.Discreet observer)
    {prepared : Reply J R (Options R × Problem J R X Y)} {trail : Trail J R}
    {used own : Workspace R X Y} (free : used.busy = false) (free' : own.busy = false)
    (sizes : own.sizes = used.sizes)
    (cleared : (VectorArithmetic.cleared own.solution : X) =
      VectorArithmetic.cleared used.solution) :
    Indistinct prepared.Asks
      (solveInPlace prepared observer { trail with workspace := used })
      (solveInPlace prepared observer { trail with workspace := own }) := by
  cases ready : prepared.outcome with
  | error fault =>
      rw [solveInPlace_of_error ready, solveInPlace_of_error ready]
      exact .failed rfl
  | ok posed =>
      obtain ⟨options, problem⟩ := posed
      obtain ⟨rows, columns, field⟩ := Sizes.mk.inj sizes
      have fits : own.checkFits (R := R) problem.rows problem.columns problem.field =
          used.checkFits problem.rows problem.columns problem.field := by
        unfold Workspace.checkFits
        rw [rows, columns, field]
      rw [solveInPlace_eq ready, solveInPlace_eq ready]
      dsimp only
      rw [fits]
      cases used.checkFits (R := R) problem.rows problem.columns problem.field with
      | error fault => exact .failed rfl
      | ok =>
          let entered : RunState J R X Y :=
            { trail with journal := trail.journal ++ prepared.journal, workspace := used }
          let entered' : RunState J R X Y :=
            { trail with journal := trail.journal ++ prepared.journal, workspace := own }
          have begins : entered.workspace.busy = false := free
          have begins' : entered'.workspace.busy = false := free'
          have alike := solve_indistinct problem
            (options.resolve problem.rows problem.columns problem.tolerance) discreet begins
            begins' rfl sizes cleared
          refine { alike with vectors := fun ⟨_, _, other, nonzero⟩ => alike.vectors ?_ }
          cases ready.symm.trans other
          exact nonzero

end ConjugateResidual
