import Mathlib
import ConjugateResidual.Proofs.Exact.FullSteps

/-!
How the vectors of a workspace belong together whenever an observer sees them. The residual, the
gradient and the image of the direction are only updated, never computed again, and are still what
their definitions say.
-/

namespace ConjugateResidual

open Arithmetic Method

variable {𝕜 : Type} [RCLike 𝕜] {rows columns : ℕ}
variable (problem : MatrixProblem 𝕜 rows columns) (settings : Settings ℝ)

/-- Every vector of a workspace is what its name says, given the solution and the direction. -/
structure Workspace.Coherent (ridge : ℝ) (workspace : MatrixWorkspace 𝕜 rows columns) : Prop where
  residual : workspace.residual = problem.rightHandSide - problem.forwardMap workspace.solution
  gradient : workspace.gradient =
    problem.adjointMap (problem.weightMap workspace.residual) - (ridge : 𝕜) • workspace.solution
  gradientImage : workspace.gradientImage = problem.forwardMap workspace.gradient
  directionImage : workspace.directionImage = problem.forwardMap workspace.direction
  normalImage : workspace.normalImage =
    problem.adjointMap (problem.weightMap (problem.forwardMap workspace.direction)) +
      (ridge : 𝕜) • workspace.direction
  weighted : problem.weight?.isSome →
    workspace.weighted? = some (problem.weightMap workspace.directionImage)

structure Workspace.Recorded (steps : ℕ) (workspace : MatrixWorkspace 𝕜 rows columns) : Prop where
  iterations : workspace.recorder.iterations = steps
  lengths : settings.keepsHistory = true →
    workspace.recorder.residuals.length = steps + 1 ∧
      workspace.recorder.optimalities.length = steps + 1
  residual : settings.keepsHistory = true →
    workspace.recorder.residuals[steps]? =
      some √(‖workspace.residual‖ ^ 2 + settings.ridge * ‖workspace.solution‖ ^ 2)
  optimality : settings.keepsHistory = true →
    workspace.recorder.optimalities[steps]? = some ‖workspace.gradient‖

variable {problem settings}

theorem MatrixProblem.normalVector_sub_normalMap (ridge : ℝ)
    (point : EuclideanSpace 𝕜 (Fin columns)) :
    problem.normalVector - problem.normalMap ridge point =
      problem.adjointMap
          (problem.weightMap (problem.rightHandSide - problem.forwardMap point)) -
        (ridge : 𝕜) • point := by
  unfold MatrixProblem.normalVector
  rw [MatrixProblem.normalMap_apply, map_sub, map_sub, sub_sub]

namespace Workspace.At

variable {steps : ℕ} {workspace : MatrixWorkspace 𝕜 rows columns}

theorem coherent (place : workspace.At problem settings steps) :
    workspace.Coherent problem settings.ridge := by
  have carries := place.carries
  refine
    { residual := ?_, gradient := ?_, gradientImage := ?_, directionImage := ?_
      normalImage := ?_, weighted := ?_ }
  · rw [carries.residual, carries.solution]
  · rw [carries.gradient, carries.residual, carries.solution,
      ← MatrixProblem.normalVector_sub_normalMap]
    exact residual_eq_sub _ _ steps
  · rw [carries.gradientImage, carries.gradient]
  · rw [carries.directionImage, carries.direction]
  · rw [carries.normalImage, carries.direction, MatrixProblem.normalMap_apply]
  · rw [carries.directionImage]
    exact carries.weighted

private theorem recorded (place : workspace.At problem settings steps) :
    workspace.Recorded settings steps := by
  have carries := place.carries
  refine { iterations := ?_, lengths := ?_, residual := ?_, optimality := ?_ }
  · rw [place.recorder]
    rfl
  · intro keeps
    rw [place.recorder]
    simp only [MatrixProblem.recorderAt, keeps, if_true, List.length_map, List.length_range,
      and_self]
  · intro keeps
    rw [place.recorder, carries.residual, carries.solution]
    simp only [MatrixProblem.recorderAt, keeps, if_true, List.getElem?_map,
      List.getElem?_range (Nat.lt_succ_self steps), Option.map_some,
      MatrixProblem.residualNorm]
  · intro keeps
    rw [place.recorder, carries.gradient]
    simp only [MatrixProblem.recorderAt, keeps, if_true, List.getElem?_map,
      List.getElem?_range (Nat.lt_succ_self steps), Option.map_some]

end Workspace.At

variable (problem settings)

/-- Whatever the observer answers and whatever the workspace held before, all vectors that it is
shown belong together, and so do the norms that were recorded last. -/
theorem coherent_of_shown (admissible : settings.Admissible)
    (answer : List (MatrixWorkspace 𝕜 rows columns) → Except (Fault ℝ) Bool)
    (workspace : MatrixWorkspace 𝕜 rows columns) {index : ℕ}
    {shown : MatrixWorkspace 𝕜 rows columns}
    (found : (solve problem.toProblem settings (watch answer)
      (.ofWorkspace workspace)).2.journal[index]? = some shown) :
    shown.Coherent problem settings.ridge ∧ shown.Recorded settings (index + 1) := by
  have place := (seen_solve admissible workspace index shown found).place admissible
    (looks_watch answer)
  exact ⟨place.coherent, place.recorded⟩

theorem coherent_of_shown_unit :
    ∃ shown,
      (solve MatrixProblem.unit.toProblem (.exact 0 1) (watch fun _ => .ok false)
          (.ofWorkspace MatrixProblem.unit.ownWorkspace)).2.journal[0]? = some shown ∧
      shown.Coherent MatrixProblem.unit 0 ∧ shown.Recorded (.exact 0 1) 1 := by
  obtain ⟨shown, found⟩ := MatrixProblem.shows_unit 0 le_rfl
    (fun bounded => absurd bounded (lt_irrefl 0)) fun _ => .ok false
  exact ⟨shown, found,
    coherent_of_shown MatrixProblem.unit (.exact 0 1) (Settings.admissible_exact le_rfl 1) _ _ found⟩

end ConjugateResidual
