import Mathlib
import ConjugateResidual.Proofs.Exact.Ball

/-!
What becomes of a solve whose preconditioner is positive semidefinite and whose observer never
exits. Every iteration that is due finds a descent direction from inside the ball, so none of them
fails; which step it takes is decided by the test for missing curvature and the length of the step.
-/

namespace ConjugateResidual

open Arithmetic Method

variable {𝕜 J : Type} [RCLike 𝕜] {rows columns : ℕ}
variable {problem : MatrixProblem 𝕜 rows columns} {settings : Settings ℝ}

variable {before state : MatrixState J 𝕜 rows columns} {opening : Opening ℝ} {course : Course ℝ}

structure Course.Poised (problem : MatrixProblem 𝕜 rows columns) (settings : Settings ℝ)
    (course : Course ℝ) (workspace : MatrixWorkspace 𝕜 rows columns) : Prop
    extends course.Ready problem settings workspace where
  curved : 0 < course.curvature

theorem Reaches.poised {observer : MatrixRun J 𝕜 rows columns Bool}
    (admissible : settings.Admissible) (looks : Run.Looks observer)
    (semidefinite : problem.WeightSemidefinite)
    (reached : Reaches problem.toProblem settings observer before opening course state)
    (iterating : course.isOver opening.threshold = false) :
    course.Poised problem settings state.workspace := by
  have ready := reached.ready admissible looks semidefinite.weightNonneg iterating
  have descends := ready.descends
  refine { ready with curved := ?_ }
  rw [ready.stands.place.carries.gradient] at descends
  rw [ready.stands.curvature_eq]
  exact curvature_residual_pos (semidefinite.isPositive_normalMap admissible.ridge)
    (semidefinite.consistent admissible.ridge) descends

theorem Opening.Starts.isOver_eq_false {workspace : MatrixWorkspace 𝕜 rows columns}
    (starts : opening.Starts problem settings workspace)
    (far : problem.threshold settings < ‖problem.normalVector‖) :
    opening.course.isOver opening.threshold = false := by
  have optimal : opening.course.isOptimal opening.threshold = false := by
    rw [Bool.eq_false_iff, ne_eq, Progress.isOptimal, le_real, starts.stands.optimality_eq,
      starts.threshold, starts.iterations]
    exact not_le.mpr far
  unfold Course.isOver
  rw [optimal, starts.underway.1, starts.underway.2, starts.running]
  rfl

section Turn

variable {observer : MatrixRun J 𝕜 rows columns Bool} (admissible : settings.Admissible)
  (looks : Run.Looks observer) (semidefinite : problem.WeightSemidefinite)
  (reached : Reaches problem.toProblem settings observer before opening course state)
  (iterating : course.isOver opening.threshold = false)
  (flat : state.workspace.Flat settings opening.threshold)
include admissible looks semidefinite reached iterating flat

theorem Reaches.turns :
    ∃ step,
      gradientStep settings course.toProgress state.workspace.solution
          state.workspace.gradient = .ok step ∧
        let turned := problem.turned settings state.workspace
        let moved := turned.moved step turned.gradient turned.normalImage
        iterate problem.toProblem settings observer opening.threshold course state =
          (.ok { course with optimality := ‖moved.gradient‖, flat := true },
            { state with workspace := moved }) := by
  have poised := reached.poised admissible looks semidefinite iterating
  obtain ⟨step, stepped⟩ := gradientStep_ok settings poised.descends
    (congrArg Progress.optimality poised.stands.progress)
  exact ⟨step, stepped, (reached.moves admissible iterating).of_flat flat stepped⟩

/-- A solve that finds no curvature along the direction returns after a step along the gradient. -/
theorem Reaches.ends_turned (budget : course.iterations < settings.budget) :
    ∃ step report final,
      gradientStep settings course.toProgress state.workspace.solution
          state.workspace.gradient = .ok step ∧
        solve problem.toProblem settings observer before = (.ok report, final) ∧
        report.stats.status = .zeroCurvature ∧ report.stats.iterations = course.iterations ∧
        final.workspace.solution =
          state.workspace.solution + (step : 𝕜) • state.workspace.gradient := by
  have underway := Course.underway_of_open iterating
  have running := Course.running_of_open iterating
  obtain ⟨step, stepped, turns⟩ := reached.turns admissible looks semidefinite iterating flat
  have last := Reaches.iterated reached iterating budget turns
  obtain ⟨printed, figures, solves⟩ := last.ends (.inl (by simp [Course.isOver]))
  refine ⟨step, _, _, stepped, solves, ?_, rfl, rfl⟩
  change Course.status settings opening.threshold _ = .zeroCurvature
  simp [Course.status, running, underway.2]

end Turn

section Iteration

variable (admissible : settings.Admissible) (semidefinite : problem.WeightSemidefinite)
  (reached : Reaches problem.toProblem settings neverExit before opening course state)
  (iterating : course.isOver opening.threshold = false)
include admissible semidefinite reached iterating

theorem Reaches.steps (curved : ¬ state.workspace.Flat settings opening.threshold) :
    (∃ step,
      directionStep settings course.curvature (‖state.workspace.normalImage‖ ^ 2)
          state.workspace.solution state.workspace.direction = .ok (step, true) ∧
        let moved :=
          state.workspace.moved step state.workspace.direction state.workspace.normalImage
        iterate problem.toProblem settings neverExit opening.threshold course state =
          (.ok { course with optimality := ‖moved.gradient‖, clipped := true },
            { state with workspace := moved })) ∨
    directionStep settings course.curvature (‖state.workspace.normalImage‖ ^ 2)
          state.workspace.solution state.workspace.direction =
        .ok (course.curvature / ‖state.workspace.normalImage‖ ^ 2, false) ∧
      ∃ progress after,
        iterate problem.toProblem settings neverExit opening.threshold course state =
          (.ok (course.continued progress), after) := by
  have poised := reached.poised admissible looks_neverExit semidefinite iterating
  have move := reached.moves admissible iterating
  rcases directionStep_ok settings (Workspace.square_ne_zero curved)
      (poised.stands.place.direction_ne_zero curved) with ⟨step, clipped⟩ | full
  · exact .inl ⟨step, clipped, move.of_clipped curved clipped⟩
  · rcases move.unclipped curved full with ⟨zero, _⟩ | ⟨_, completes⟩
    · exact absurd zero poised.curved.ne'
    · obtain ⟨after, asked⟩ := course.completed_neverExit settings
        (problem.measure settings (problem.advanced settings course.curvature state.workspace))
        { state with workspace := problem.advanced settings course.curvature state.workspace }
      exact .inr ⟨full, _, after, completes.trans asked⟩

theorem Reaches.iterate_ok :
    ∃ next after,
      iterate problem.toProblem settings neverExit opening.threshold course state =
        (.ok next, after) := by
  by_cases flat : state.workspace.Flat settings opening.threshold
  · obtain ⟨step, _, turns⟩ := reached.turns admissible looks_neverExit semidefinite iterating flat
    exact ⟨_, _, turns⟩
  · rcases reached.steps admissible semidefinite iterating flat with
      ⟨step, _, clips⟩ | ⟨_, progress, after, full⟩
    · exact ⟨_, _, clips⟩
    · exact ⟨_, _, full⟩

variable (budget : course.iterations < settings.budget)
include budget

theorem Reaches.ends_flat (flat : state.workspace.Flat settings opening.threshold) :
    ∃ report final,
      solve problem.toProblem settings neverExit before = (.ok report, final) ∧
        report.stats.status = .zeroCurvature ∧ report.stats.iterations = course.iterations := by
  obtain ⟨step, report, final, _, solves, status, count, _⟩ :=
    reached.ends_turned admissible looks_neverExit semidefinite iterating flat budget
  exact ⟨report, final, solves, status, count⟩

/-- A solve that finds curvature does not report at that iteration that there is none. -/
theorem Reaches.ends_curved (curved : ¬ state.workspace.Flat settings opening.threshold)
    {report : Report ℝ} {final : MatrixState J 𝕜 rows columns}
    (solves : solve problem.toProblem settings neverExit before = (.ok report, final))
    (same : report.stats.iterations = course.iterations) :
    report.stats.status = .onBoundary := by
  have running := Course.running_of_open iterating
  rcases reached.steps admissible semidefinite iterating curved with
    ⟨step, _, clips⟩ | ⟨_, progress, after, full⟩
  · have last := Reaches.iterated reached iterating budget clips
    obtain ⟨printed, figures, ends⟩ := last.ends (.inl (by simp [Course.isOver]))
    rw [ends] at solves
    cases solves
    change Course.status settings opening.threshold _ = .onBoundary
    simp [Course.status, running]
  · -- The full step is counted, and no later one takes it back.
    have later := Reaches.iterated reached iterating budget full
    obtain ⟨remaining, _, continues⟩ := later.continues
    rw [continues] at solves
    generalize rest : (iterations problem.toProblem settings neverExit opening.threshold remaining
      (course.continued progress) >>= closeCourse problem.toProblem settings opening) after =
        result at solves
    obtain ⟨outcome, ended⟩ := result
    cases solves
    obtain ⟨last, between, ran, closed⟩ := Run.of_bind_eq_ok rest
    obtain ⟨_, figures, outcome, _⟩ := of_closeCourse_eq closed
    cases outcome
    have counts := iterations_counts remaining ran
    change course.iterations + 1 ≤ last.iterations at counts
    have count : (last.iterations : ℤ) = course.iterations := same
    omega

end Iteration

/-- In exact arithmetic, whatever the tolerances, the radius and the budget, a solve returns. -/
theorem solve_returns (admissible : settings.Admissible)
    (semidefinite : problem.WeightSemidefinite) (sized : 0 < columns)
    (free : before.workspace.busy = false) :
    ∃ report final, solve problem.toProblem settings neverExit before = (.ok report, final) := by
  have ending := solve_ends problem.toProblem settings neverExit before
  generalize solve problem.toProblem settings neverExit before = result at ending
  cases ending with
  | refused busy =>
      rw [free] at busy
      cases busy
  | zero announced zero answered =>
      rw [solveZero_apply] at answered
      cases answered
      exact ⟨_, _, rfl⟩
  | unopened announced nonzero failed =>
      obtain ⟨_, _, opened, _, _⟩ := openCourse_exact sized admissible.ridge announced
      rw [opened] at failed
      cases failed
  | interrupted reached iterating budget failed =>
      obtain ⟨_, _, ran⟩ := reached.iterate_ok admissible semidefinite iterating
      rw [ran] at failed
      cases failed
  | finished reached ended closed =>
      obtain ⟨printed, figures, rfl, rfl⟩ := of_closeCourse_eq closed
      exact ⟨_, _, rfl⟩

end ConjugateResidual
