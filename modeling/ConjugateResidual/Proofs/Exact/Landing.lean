import Mathlib
import ConjugateResidual.Proofs.Method.Descent
import ConjugateResidual.Proofs.Exact.Ball

/-!
Where a solve can come to in exact arithmetic, with a positive semidefinite preconditioner. However
an iteration ends, it takes the solution from an iterate of the method along the direction or along
the gradient, no farther than the method would; and however a solve ends, its solution is such a
point.
-/

namespace ConjugateResidual

open Arithmetic Method

variable {𝕜 J : Type} [RCLike 𝕜] {rows columns : ℕ}
variable {problem : MatrixProblem 𝕜 rows columns} {settings : Settings ℝ}

variable {observer : MatrixRun J 𝕜 rows columns Bool} {before state : MatrixState J 𝕜 rows columns}
variable {opening : Opening ℝ} {course : Course ℝ}

def MatrixProblem.Lands (problem : MatrixProblem 𝕜 rows columns) (ridge : ℝ) (steps : ℕ)
    (point : EuclideanSpace 𝕜 (Fin columns)) : Prop :=
  (problem.iterateAt ridge steps).LeadsTo (problem.normalMap ridge) point

theorem Course.Stands.lands {workspace : MatrixWorkspace 𝕜 rows columns}
    (stands : course.Stands problem settings workspace) :
    problem.Lands settings.ridge course.iterations workspace.solution := by
  rw [stands.place.carries.solution]
  exact .nowhere

section Ready

variable (ready : course.Ready problem settings state.workspace)
  (semidefinite : problem.WeightSemidefinite) (ridge : 0 ≤ settings.ridge)
include ready semidefinite ridge

private theorem Course.Ready.lands_along_direction {threshold step : ℝ} {clipped : Bool}
    (curved : ¬ state.workspace.Flat settings threshold)
    (stepped :
      directionStep settings course.curvature (‖state.workspace.normalImage‖ ^ 2)
        state.workspace.solution state.workspace.direction = .ok (step, clipped)) :
    problem.Lands settings.ridge course.iterations
      (state.workspace.solution + (step : 𝕜) • state.workspace.direction) := by
  have carries := ready.stands.place.carries
  have whole := ready.stands.step_eq
  have ascends : 0 ≤ course.curvature / ‖state.workspace.normalImage‖ ^ 2 := by
    rw [whole]
    exact step_nonneg (semidefinite.isPositive_normalMap ridge) _
  obtain ⟨nonneg, short⟩ := directionStep_short (Workspace.square_ne_zero curved)
    (ready.stands.place.direction_ne_zero curved) ascends ready.inside stepped
  rw [whole] at short
  rw [carries.solution, carries.direction]
  exact .direction nonneg short

private theorem Course.Ready.lands_along_gradient {step : ℝ}
    (stepped :
      gradientStep settings course.toProgress state.workspace.solution
        state.workspace.gradient = .ok step) :
    problem.Lands settings.ridge course.iterations
      (state.workspace.solution + (step : 𝕜) • state.workspace.gradient) := by
  have carries := ready.stands.place.carries
  obtain ⟨nonneg, short⟩ := gradientStep_short ready.inside ready.descends
    (congrArg Progress.optimality ready.stands.progress) stepped
  have curved : 0 ≤ course.curvature := by
    rw [ready.stands.curvature_eq]
    exact curvature_nonneg (semidefinite.isPositive_normalMap ridge) _
  have lowest := (mul_le_mul_of_nonneg_right short curved).trans
    course.toProgress.descent_mul_curvature_le
  rw [ready.stands.curvature_eq, ready.stands.optimality_eq, ← pow_two] at lowest
  rw [carries.solution, carries.gradient]
  exact .residual nonneg lowest

private theorem Move.lands (looks : Run.Looks observer) {threshold : ℝ}
    {result : Except (Fault ℝ) (Course ℝ) × MatrixState J 𝕜 rows columns}
    (move : Move problem settings observer threshold course state result) :
    problem.Lands settings.ridge course.iterations result.2.workspace.solution := by
  cases move with
  | unturned flat failed => exact ready.stands.lands
  | turned flat stepped move =>
      rw [move]
      exact ready.lands_along_gradient semidefinite ridge stepped
  | unstepped curved failed => exact ready.stands.lands
  | clipped curved stepped move =>
      rw [move]
      exact ready.lands_along_direction semidefinite ridge curved stepped
  | stuck curved zero trail solution recorder =>
      rw [solution]
      exact ready.stands.lands
  | full curved stepped nonzero advance =>
      rw [Course.workspace_completed settings looks, advance]
      exact ready.lands_along_direction semidefinite ridge curved stepped

end Ready

variable (admissible : settings.Admissible) (looks : Run.Looks observer)
  (semidefinite : problem.WeightSemidefinite)
include admissible looks semidefinite

theorem Reaches.lands_iterate
    (reached : Reaches problem.toProblem settings observer before opening course state)
    (iterating : course.isOver opening.threshold = false) :
    problem.Lands settings.ridge course.iterations
      (iterate problem.toProblem settings observer opening.threshold course
        state).2.workspace.solution :=
  (reached.moves admissible iterating).lands
    (reached.ready admissible looks semidefinite.weightNonneg iterating) semidefinite
    admissible.ridge looks

omit admissible looks semidefinite in
/-- Without columns there is only one point. -/
theorem MatrixProblem.lands_of_empty (problem : MatrixProblem 𝕜 rows 0) (ridge : ℝ)
    (point : EuclideanSpace 𝕜 (Fin 0)) : problem.Lands ridge 0 point := by
  rw [Subsingleton.elim point (problem.iterateAt ridge 0).solution]
  exact .nowhere

theorem Reaches.lands
    (reached : Reaches problem.toProblem settings observer before opening course state) :
    ∃ steps, problem.Lands settings.ridge steps state.workspace.solution := by
  cases reached with
  | opened free announced nonzero opens =>
      rcases Nat.eq_zero_or_pos columns with empty | sized
      · subst empty
        exact ⟨0, problem.lands_of_empty _ _⟩
      · exact ⟨_, (starts_of_opens sized admissible.ridge announced opens).stands.lands⟩
  | iterated reached iterating budget ran =>
      have lands := reached.lands_iterate admissible looks semidefinite iterating
      rw [ran] at lands
      exact ⟨_, lands⟩

theorem Ending.lands {result : Except (Fault ℝ) (Report ℝ) × MatrixState J 𝕜 rows columns}
    (ending : Ending problem.toProblem settings observer before result)
    (free : before.workspace.busy = false) :
    ∃ steps, problem.Lands settings.ridge steps result.2.workspace.solution := by
  cases ending with
  | refused busy =>
      rw [free] at busy
      cases busy
  | zero announced zero answered =>
      obtain ⟨rfl, printed, rfl⟩ := of_announce_eq announced
      rw [solveZero_apply] at answered
      cases answered
      exact ⟨0, .nowhere⟩
  | @unopened norm entered after fault announced nonzero failed =>
      rcases Nat.eq_zero_or_pos columns with empty | sized
      · subst empty
        exact ⟨0, problem.lands_of_empty _ _⟩
      · obtain ⟨_, _, opened, _, _⟩ := openCourse_exact sized admissible.ridge announced
        rw [opened] at failed
        cases failed
  | interrupted reached iterating budget failed =>
      have lands := reached.lands_iterate admissible looks semidefinite iterating
      rw [failed] at lands
      exact ⟨_, lands⟩
  | finished reached ended closed =>
      obtain ⟨printed, figures, rfl, rfl⟩ := of_closeCourse_eq closed
      obtain ⟨steps, lands⟩ := reached.lands admissible looks semidefinite
      exact ⟨steps, lands⟩

end ConjugateResidual
