import Mathlib
import ConjugateResidual.Proofs.Exact.FullSteps

/-!
Iterations without a trust region. Which of the three things happens, and what comes of it, depends
only on the iterate at which the workspace stands.
-/

namespace ConjugateResidual

open Arithmetic Method

variable {𝕜 J : Type} [RCLike 𝕜] {rows columns : ℕ}
variable {problem : MatrixProblem 𝕜 rows columns} {settings : Settings ℝ}
variable {observer : MatrixRun J 𝕜 rows columns Bool} {threshold : ℝ} {course : Course ℝ}
variable {state : MatrixState J 𝕜 rows columns}

theorem flat_iff_of_unbounded (unbounded : ¬ 0 < settings.radius)
    (stands : course.Stands problem settings state.workspace) :
    state.workspace.Flat settings threshold ↔
      problem.normalMap settings.ridge
        (problem.iterateAt settings.ridge course.iterations).direction = 0 := by
  rw [← stands.place.carries.normalImage]
  exact ⟨fun flat => flat.resolve_right fun found => unbounded found.1, .inl⟩

variable (unbounded : ¬ 0 < settings.radius) (sizedRows : 0 < rows) (sized : 0 < columns)
  (nonneg : 0 ≤ settings.ridge) (stands : course.Stands problem settings state.workspace)
include unbounded sizedRows sized nonneg stands

variable (observer threshold) in
/-- Without an image of the direction the last step goes along the residual. -/
theorem iterate_of_image_zero
    (zero : problem.normalMap settings.ridge
      (problem.iterateAt settings.ridge course.iterations).direction = 0) :
    let last := (problem.iterateAt settings.ridge course.iterations).finish
      (problem.normalMap settings.ridge)
    ∃ after,
      iterate problem.toProblem settings observer threshold course state =
          (.ok { course with optimality := ‖last.residual‖, flat := true }, after) ∧
        after.journal = state.journal ∧ after.workspace.solution = last.solution ∧
        after.workspace.recorder = state.workspace.recorder := by
  have carries := stands.place.carries
  have flat : state.workspace.Flat settings threshold :=
    (flat_iff_of_unbounded unbounded stands).mpr zero
  have descent : gradientStep settings course.toProgress state.workspace.solution
      state.workspace.gradient =
        .ok ((problem.iterateAt settings.ridge course.iterations).descent
          (problem.normalMap settings.ridge)) := by
    rw [gradientStep_of_unbounded unbounded, stands.progress_eq]
    rfl
  let turned := problem.turned settings state.workspace
  let moved := turned.moved ((problem.iterateAt settings.ridge course.iterations).descent
    (problem.normalMap settings.ridge)) turned.gradient turned.normalImage
  have turns : iterate problem.toProblem settings observer threshold course state =
      (.ok { course with optimality := ‖moved.gradient‖, flat := true },
        { state with workspace := moved }) :=
    (iterate_moves problem observer threshold course state sizedRows sized nonneg).of_flat flat
      descent
  have solution : moved.solution =
      ((problem.iterateAt settings.ridge course.iterations).finish
        (problem.normalMap settings.ridge)).solution := by
    simp only [moved, turned, Workspace.moved, MatrixProblem.turned, carries.solution,
      carries.gradient]
    rfl
  have residual : moved.gradient =
      ((problem.iterateAt settings.ridge course.iterations).finish
        (problem.normalMap settings.ridge)).residual := by
    simp only [moved, turned, Workspace.moved, MatrixProblem.turned, carries.gradientImage,
      carries.gradient]
    rfl
  rw [residual] at turns
  exact ⟨_, turns, rfl, solution, rfl⟩

variable (observer threshold) in
theorem iterate_of_curvature_zero
    (image : problem.normalMap settings.ridge
      (problem.iterateAt settings.ridge course.iterations).direction ≠ 0)
    (flat : curvature (problem.normalMap settings.ridge)
      (problem.iterateAt settings.ridge course.iterations).residual = 0) :
    ∃ after,
      iterate problem.toProblem settings observer threshold course state =
          (.error .zeroDivisor, after) ∧
        after.journal = state.journal ∧
        after.workspace.solution =
          (problem.iterateAt settings.ridge course.iterations).solution ∧
        after.workspace.recorder = state.workspace.recorder := by
  have level : course.curvature = 0 := stands.curvature_eq.trans flat
  have nonflat : ¬ state.workspace.Flat settings threshold :=
    fun found => image ((flat_iff_of_unbounded unbounded stands).mp found)
  have stepped : directionStep settings course.curvature (‖state.workspace.normalImage‖ ^ 2)
      state.workspace.solution state.workspace.direction = .ok (_, false) :=
    directionStep_of_unbounded (Workspace.square_ne_zero nonflat) unbounded
  have move := iterate_moves problem observer threshold course state sizedRows sized nonneg
  rcases move.unclipped nonflat stepped with
    ⟨_, after, failed, trail, solution, recorder⟩ | ⟨nonzero, _⟩
  · exact ⟨after, failed, congrArg Trail.journal trail,
      solution.trans stands.place.carries.solution, recorder⟩
  · exact absurd level nonzero

variable (observer threshold) in
theorem iterate_of_divisors
    (image : problem.normalMap settings.ridge
      (problem.iterateAt settings.ridge course.iterations).direction ≠ 0)
    (curved : curvature (problem.normalMap settings.ridge)
      (problem.iterateAt settings.ridge course.iterations).residual ≠ 0) :
    let next := problem.advanced settings course.curvature state.workspace
    iterate problem.toProblem settings observer threshold course state =
        course.completed settings observer (problem.measure settings next)
          { state with workspace := next } ∧
      (next.completed (course.iterations + 1) (problem.measure settings next)).At problem settings
        (course.iterations + 1) := by
  have nonflat : ¬ state.workspace.Flat settings threshold :=
    fun found => image ((flat_iff_of_unbounded unbounded stands).mp found)
  have nonzero : course.curvature ≠ 0 := by
    rw [stands.curvature_eq]
    exact curved
  exact ⟨stands.iterate_full sizedRows sized nonneg nonflat curved
      fun bounded => absurd bounded unbounded,
    stands.full (Workspace.normalImage_ne_zero nonflat) nonzero rfl⟩

end ConjugateResidual
