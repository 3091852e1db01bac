import Mathlib
import ConjugateResidual.Proofs.Course.Parts
import ConjugateResidual.Proofs.Exact.StepLengths
import ConjugateResidual.Proofs.Exact.Steps

/-!
What one iteration of a matrix problem can do in exact arithmetic. `Move` lists the cases with the
exact state in each; everything about iterations is proved from it.
-/

namespace ConjugateResidual

open Arithmetic Method

variable {𝕜 J : Type} [RCLike 𝕜] {rows columns : ℕ}
variable (problem : MatrixProblem 𝕜 rows columns) (settings : Settings ℝ)

noncomputable def MatrixProblem.advanced (curved : ℝ) (workspace : MatrixWorkspace 𝕜 rows columns) :
    MatrixWorkspace 𝕜 rows columns :=
  let step := curved / ‖workspace.normalImage‖ ^ 2
  let moved := workspace.moved step workspace.direction workspace.normalImage
  problem.renewed settings step
    (curvature (problem.normalMap settings.ridge) moved.gradient / curved) moved

variable (observer : MatrixRun J 𝕜 rows columns Bool) (threshold : ℝ) (course : Course ℝ)
variable (state : MatrixState J 𝕜 rows columns)

inductive Move : Except (Fault ℝ) (Course ℝ) × MatrixState J 𝕜 rows columns → Prop where
  | unturned {fault : Fault ℝ}
      (flat : state.workspace.Flat settings threshold)
      (failed :
        gradientStep settings course.toProgress state.workspace.solution
          state.workspace.gradient = .error fault) :
      Move (.error fault, { state with workspace := problem.turned settings state.workspace })
  | turned {step : ℝ} {moved : MatrixWorkspace 𝕜 rows columns}
      (flat : state.workspace.Flat settings threshold)
      (stepped :
        gradientStep settings course.toProgress state.workspace.solution
          state.workspace.gradient = .ok step)
      (move :
        moved =
          let turned := problem.turned settings state.workspace
          turned.moved step turned.gradient turned.normalImage) :
      Move
        (.ok { course with optimality := ‖moved.gradient‖, flat := true },
          { state with workspace := moved })
  | unstepped {fault : Fault ℝ}
      (curved : ¬ state.workspace.Flat settings threshold)
      (failed :
        directionStep settings course.curvature (‖state.workspace.normalImage‖ ^ 2)
          state.workspace.solution state.workspace.direction = .error fault) :
      Move (.error fault, state)
  | clipped {step : ℝ} {moved : MatrixWorkspace 𝕜 rows columns}
      (curved : ¬ state.workspace.Flat settings threshold)
      (stepped :
        directionStep settings course.curvature (‖state.workspace.normalImage‖ ^ 2)
          state.workspace.solution state.workspace.direction = .ok (step, true))
      (move :
        moved =
          state.workspace.moved step state.workspace.direction state.workspace.normalImage) :
      Move
        (.ok { course with optimality := ‖moved.gradient‖, clipped := true },
          { state with workspace := moved })
  | stuck {after : MatrixState J 𝕜 rows columns}
      (curved : ¬ state.workspace.Flat settings threshold)
      (zero : course.curvature = 0)
      (trail : after.toTrail = state.toTrail)
      (solution : after.workspace.solution = state.workspace.solution)
      (recorder : after.workspace.recorder = state.workspace.recorder)
      (stepped :
        directionStep settings course.curvature (‖state.workspace.normalImage‖ ^ 2)
          state.workspace.solution state.workspace.direction =
            .ok (course.curvature / ‖state.workspace.normalImage‖ ^ 2, false)) :
      Move (.error .zeroDivisor, after)
  | full
      (curved : ¬ state.workspace.Flat settings threshold)
      (stepped :
        directionStep settings course.curvature (‖state.workspace.normalImage‖ ^ 2)
          state.workspace.solution state.workspace.direction =
            .ok (course.curvature / ‖state.workspace.normalImage‖ ^ 2, false))
      (nonzero : course.curvature ≠ 0)
      {next : MatrixWorkspace 𝕜 rows columns}
      (advance : next = problem.advanced settings course.curvature state.workspace) :
      Move
        (course.completed settings observer (problem.measure settings next)
          { state with workspace := next })

variable {settings state threshold}

theorem Workspace.normalImage_ne_zero {workspace : MatrixWorkspace 𝕜 rows columns}
    (curved : ¬ workspace.Flat settings threshold) : workspace.normalImage ≠ 0 :=
  fun zero => curved (.inl zero)

theorem Workspace.square_ne_zero {workspace : MatrixWorkspace 𝕜 rows columns}
    (curved : ¬ workspace.Flat settings threshold) : ‖workspace.normalImage‖ ^ 2 ≠ 0 :=
  pow_ne_zero 2 (norm_ne_zero_iff.mpr (Workspace.normalImage_ne_zero curved))

variable {problem observer course} in
/-- An iteration with an unclipped step lacks the curvature for a next direction, or is a full
one. -/
theorem Move.unclipped {result : Except (Fault ℝ) (Course ℝ) × MatrixState J 𝕜 rows columns}
    (move : Move problem settings observer threshold course state result)
    (curved : ¬ state.workspace.Flat settings threshold)
    (stepped :
      directionStep settings course.curvature (‖state.workspace.normalImage‖ ^ 2)
        state.workspace.solution state.workspace.direction =
          .ok (course.curvature / ‖state.workspace.normalImage‖ ^ 2, false)) :
    (course.curvature = 0 ∧ ∃ after, result = (.error .zeroDivisor, after) ∧
        after.toTrail = state.toTrail ∧ after.workspace.solution = state.workspace.solution ∧
        after.workspace.recorder = state.workspace.recorder) ∨
      course.curvature ≠ 0 ∧
        let next := problem.advanced settings course.curvature state.workspace
        result = course.completed settings observer (problem.measure settings next)
          { state with workspace := next } := by
  cases move with
  | unturned flat failed => exact absurd flat curved
  | turned flat other move => exact absurd flat curved
  | unstepped _ failed =>
      rw [stepped] at failed
      cases failed
  | clipped _ clipped move =>
      rw [stepped] at clipped
      cases clipped
  | stuck _ zero trail solution recorder _ =>
      exact .inl ⟨zero, _, rfl, trail, solution, recorder⟩
  | full _ _ nonzero advance =>
      rw [advance]
      exact .inr ⟨nonzero, rfl⟩

variable {problem observer course} in
/-- Without curvature along the direction a step along the gradient is the last one. -/
theorem Move.of_flat {result : Except (Fault ℝ) (Course ℝ) × MatrixState J 𝕜 rows columns}
    (move : Move problem settings observer threshold course state result)
    (flat : state.workspace.Flat settings threshold) {step : ℝ}
    (stepped :
      gradientStep settings course.toProgress state.workspace.solution
        state.workspace.gradient = .ok step) :
    let turned := problem.turned settings state.workspace
    let moved := turned.moved step turned.gradient turned.normalImage
    result =
      (.ok { course with optimality := ‖moved.gradient‖, flat := true },
        { state with workspace := moved }) := by
  cases move with
  | unturned _ failed =>
      rw [stepped] at failed
      cases failed
  | turned _ same move =>
      rw [stepped] at same
      cases same
      rw [move]
  | unstepped curved failed => exact absurd flat curved
  | clipped curved clipped move => exact absurd flat curved
  | stuck curved zero trail solution recorder => exact absurd flat curved
  | full curved full nonzero advance => exact absurd flat curved

variable {problem observer course} in
theorem Move.of_clipped {result : Except (Fault ℝ) (Course ℝ) × MatrixState J 𝕜 rows columns}
    (move : Move problem settings observer threshold course state result)
    (curved : ¬ state.workspace.Flat settings threshold) {step : ℝ}
    (stepped :
      directionStep settings course.curvature (‖state.workspace.normalImage‖ ^ 2)
        state.workspace.solution state.workspace.direction = .ok (step, true)) :
    let moved :=
      state.workspace.moved step state.workspace.direction state.workspace.normalImage
    result =
      (.ok { course with optimality := ‖moved.gradient‖, clipped := true },
        { state with workspace := moved }) := by
  cases move with
  | unturned flat failed => exact absurd flat curved
  | turned flat other move => exact absurd flat curved
  | unstepped _ failed =>
      rw [stepped] at failed
      cases failed
  | clipped _ same move =>
      rw [stepped] at same
      cases same
      rw [move]
  | stuck _ zero trail solution recorder full =>
      rw [stepped] at full
      cases full
  | full _ full nonzero advance =>
      rw [stepped] at full
      cases full

variable {problem observer course} in
private theorem moves_of_unclipped (sizedRows : 0 < rows) (sized : 0 < columns)
    (nonneg : 0 ≤ settings.ridge) (curved : ¬ state.workspace.Flat settings threshold) {step : ℝ}
    (stepped :
      directionStep settings course.curvature (‖state.workspace.normalImage‖ ^ 2)
        state.workspace.solution state.workspace.direction = .ok (step, false)) :
    let moved :=
      state.workspace.moved step state.workspace.direction state.workspace.normalImage
    Move problem settings observer threshold course state
      ((renewDirection problem.toProblem settings step course.curvature ‖moved.gradient‖ >>=
        course.completed settings observer) { state with workspace := moved }) := by
  intro moved
  have full := directionStep_of_unclipped (Workspace.square_ne_zero curved) stepped
  by_cases zero : course.curvature = 0
  · obtain ⟨after, failed, trail, solution, recorder⟩ :=
      renewDirection_of_flat problem settings { state with workspace := moved } sizedRows nonneg step
        ‖moved.gradient‖
    rw [zero, Run.bind_of_error failed]
    rw [full] at stepped
    refine .stuck curved zero trail (solution.trans ?_) recorder stepped
    change state.workspace.solution + (step : 𝕜) • state.workspace.direction = _
    rw [full, zero, zero_div, RCLike.ofReal_zero, zero_smul, add_zero]
  · subst full
    rw [Run.bind_of_ok
      (renewDirection_exact problem settings { state with workspace := moved } sizedRows sized nonneg
        _ zero)]
    exact .full curved stepped zero rfl

variable (state threshold)

theorem iterate_moves (sizedRows : 0 < rows) (sized : 0 < columns) (nonneg : 0 ≤ settings.ridge) :
    Move problem settings observer threshold course state
      (iterate problem.toProblem settings observer threshold course state) := by
  unfold iterate
  rw [Run.bind_of_ok (Run.workspace_apply state), VectorArithmetic.dot_self_exact,
    Run.bind_of_ok (Run.ofExcept_apply _ state)]
  obtain ⟨flat, tested, flat_iff⟩ := directionIsFlat_exact settings state threshold
  rw [Run.bind_of_ok tested]
  cases flat with
  | true =>
      have flat := flat_iff.mp rfl
      rw [if_pos rfl]
      cases stepped : gradientStep settings course.toProgress state.workspace.solution
          state.workspace.gradient with
      | error fault =>
          have finished := finishAlongGradient_exact problem settings state sized nonneg
            course.toProgress
          rw [stepped] at finished
          rw [Run.bind_of_error finished]
          exact .unturned flat stepped
      | ok step =>
          have finished := finishAlongGradient_exact problem settings state sized nonneg
            course.toProgress
          rw [stepped] at finished
          rw [Run.bind_of_ok finished]
          exact .turned flat stepped rfl
  | false =>
      have curved : ¬ state.workspace.Flat settings threshold :=
        fun found => Bool.false_ne_true (flat_iff.mpr found)
      rw [if_neg Bool.false_ne_true]
      cases stepped : directionStep settings course.curvature
          (‖state.workspace.normalImage‖ ^ 2) state.workspace.solution
          state.workspace.direction with
      | error fault =>
          rw [Run.bind_of_error (Run.ofExcept_apply _ state)]
          exact .unstepped curved stepped
      | ok result =>
          obtain ⟨step, clipped⟩ := result
          rw [Run.bind_of_ok (Run.ofExcept_apply _ state)]
          dsimp only
          rw [Run.bind_of_ok (moveAlong_exact state sized step _ _)]
          cases clipped with
          | true => exact .clipped curved stepped rfl
          | false =>
              rw [if_neg Bool.false_ne_true]
              exact moves_of_unclipped sizedRows sized nonneg curved stepped

end ConjugateResidual
