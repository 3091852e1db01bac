import Mathlib
import ConjugateResidual.Proofs.Course.Watch
import ConjugateResidual.Proofs.Exact.Moves

/-!
A solve of a matrix problem follows the conjugate residual method for its normal equations. `At`
says that a workspace stands at an iterate of the method: which vector is which, that every product
kept beside them is up to date, and what has been recorded. It holds before the first iteration and
is preserved by every completed one.
-/

namespace ConjugateResidual

open Arithmetic Method

variable {𝕜 J : Type} [RCLike 𝕜] {rows columns : ℕ}
variable (problem : MatrixProblem 𝕜 rows columns) (settings : Settings ℝ)

noncomputable def MatrixProblem.iterateAt (ridge : ℝ) (steps : ℕ) :
    Iterate (EuclideanSpace 𝕜 (Fin columns)) :=
  Method.iterate (problem.normalMap ridge) problem.normalVector steps

structure Workspace.Carries (ridge : ℝ) (current : Iterate (EuclideanSpace 𝕜 (Fin columns)))
    (workspace : MatrixWorkspace 𝕜 rows columns) : Prop where
  solution : workspace.solution = current.solution
  gradient : workspace.gradient = current.residual
  direction : workspace.direction = current.direction
  normalImage : workspace.normalImage = problem.normalMap ridge current.direction
  residual : workspace.residual = problem.rightHandSide - problem.forwardMap current.solution
  directionImage : workspace.directionImage = problem.forwardMap current.direction
  gradientImage : workspace.gradientImage = problem.forwardMap current.residual
  weighted : problem.weight?.isSome →
    workspace.weighted? = some (problem.weightMap (problem.forwardMap current.direction))

noncomputable def MatrixProblem.recorderAt (steps : ℕ) : Recorder ℝ :=
  let history (norm : Iterate (EuclideanSpace 𝕜 (Fin columns)) → ℝ) : List ℝ :=
    if settings.keepsHistory then
      (List.range (steps + 1)).map fun step => norm (problem.iterateAt settings.ridge step)
    else []
  { iterations := steps, solved := false, inconsistent := false, status := .unknown
    residuals := history fun current => problem.residualNorm settings.ridge current.solution
    optimalities := history fun current => ‖current.residual‖
    keepsHistory := settings.keepsHistory }

/-- A workspace stands at an iterate, and all divisors on the way there were nonzero. -/
structure Workspace.At (steps : ℕ) (workspace : MatrixWorkspace 𝕜 rows columns) : Prop where
  carries : workspace.Carries problem settings.ridge (problem.iterateAt settings.ridge steps)
  recorder : workspace.recorder = problem.recorderAt settings steps
  divisors : ∀ earlier < steps,
    problem.normalMap settings.ridge (problem.iterateAt settings.ridge earlier).direction ≠ 0 ∧
      curvature (problem.normalMap settings.ridge)
        (problem.iterateAt settings.ridge earlier).residual ≠ 0

variable {problem settings}

theorem MatrixProblem.buffered_of_some (present : problem.weight?.isSome)
    (vector : EuclideanSpace 𝕜 (Fin rows)) (old : Option (EuclideanSpace 𝕜 (Fin rows))) :
    problem.buffered vector old = some (problem.weightMap vector) := by
  unfold MatrixProblem.buffered
  cases weight : problem.weight? with
  | none =>
      rw [weight] at present
      cases present
  | some _ => rfl

namespace Workspace.Carries

variable {ridge : ℝ} {current : Iterate (EuclideanSpace 𝕜 (Fin columns))}
variable {workspace : MatrixWorkspace 𝕜 rows columns}

private theorem launched (solution : workspace.solution = 0)
    (residual : workspace.residual = problem.rightHandSide) :
    (problem.launched settings workspace).Carries problem settings.ridge
      (.first problem.normalVector) := by
  unfold MatrixProblem.launched MatrixProblem.normalVector Iterate.first
  refine
    { solution, gradient := ?_, direction := ?_, normalImage := ?_, residual := ?_
      directionImage := ?_, gradientImage := ?_, weighted := ?_ }
  · rw [residual]
  · rw [residual]
  · rw [residual]
  · rw [residual, map_zero, sub_zero]
  · rw [residual]
  · rw [residual]
  · intro present
    rw [residual]
    exact MatrixProblem.buffered_of_some present _ _

private theorem advanced (carries : workspace.Carries problem settings.ridge current) :
    (problem.advanced settings
        (curvature (problem.normalMap settings.ridge) workspace.gradient) workspace).Carries
      problem settings.ridge (current.next (problem.normalMap settings.ridge)) := by
  let operator := problem.normalMap settings.ridge
  have image :
      problem.forwardMap (current.nextResidual operator) +
          (current.ratio operator : 𝕜) • problem.forwardMap current.direction =
        problem.forwardMap (current.next operator).direction := by
    unfold Iterate.next
    rw [map_add, map_smul]
  unfold MatrixProblem.advanced MatrixProblem.renewed Workspace.moved
  refine
    { solution := ?_, gradient := ?_, direction := ?_, normalImage := ?_, residual := ?_
      directionImage := ?_, gradientImage := ?_, weighted := ?_ }
  all_goals
    simp only [carries.solution, carries.gradient, carries.direction, carries.normalImage,
      carries.residual, carries.directionImage]
  · rfl
  · rfl
  · rfl
  · exact congrArg
      (fun vector => problem.adjointMap (problem.weightMap vector) +
        (settings.ridge : 𝕜) • (current.next operator).direction) image
  · change problem.rightHandSide - problem.forwardMap current.solution -
      (current.step operator : 𝕜) • problem.forwardMap current.direction = _
    rw [sub_sub, ← map_smul, ← map_add]
    rfl
  · exact image
  · rfl
  · intro present
    rw [MatrixProblem.buffered_of_some present, ← image]
    rfl

theorem measure (carries : workspace.Carries problem settings.ridge current) :
    problem.measure settings workspace =
      { curvature := curvature (problem.normalMap settings.ridge) current.residual
        optimality := ‖current.residual‖
        residual := problem.residualNorm settings.ridge current.solution } := by
  unfold MatrixProblem.measure MatrixProblem.residualNorm
  rw [carries.gradient, carries.residual, carries.solution]

private theorem completed (carries : workspace.Carries problem ridge current) (iterations : ℕ)
    (progress : Progress ℝ) :
    (workspace.completed iterations progress).Carries problem ridge current :=
  { carries with }

end Workspace.Carries

/-! ### The records -/

theorem MatrixProblem.residualNorm_zero (ridge : ℝ) :
    problem.residualNorm ridge 0 = ‖problem.rightHandSide‖ := by
  unfold MatrixProblem.residualNorm
  rw [map_zero, sub_zero, norm_zero, zero_pow two_ne_zero, mul_zero, add_zero,
    Real.sqrt_sq (norm_nonneg _)]

private theorem MatrixProblem.recorderAt_zero :
    ((Recorder.cleared settings.keepsHistory).recordResidual ‖problem.rightHandSide‖).recordOptimality
        ‖problem.normalVector‖ = problem.recorderAt settings 0 := by
  rw [← problem.residualNorm_zero settings.ridge]
  unfold MatrixProblem.recorderAt Recorder.recordOptimality Recorder.recordResidual
    Recorder.cleared
  cases settings.keepsHistory with
  | false => rfl
  | true => rfl

private theorem MatrixProblem.recorderAt_succ (steps : ℕ) :
    (({ problem.recorderAt settings steps with iterations := (steps + 1 : ℕ) } : Recorder ℝ)
          |>.recordResidual
            (problem.residualNorm settings.ridge
              (problem.iterateAt settings.ridge (steps + 1)).solution)
          |>.recordOptimality ‖(problem.iterateAt settings.ridge (steps + 1)).residual‖) =
      problem.recorderAt settings (steps + 1) := by
  unfold MatrixProblem.recorderAt Recorder.recordOptimality Recorder.recordResidual
  cases settings.keepsHistory with
  | false => rfl
  | true => simp only [if_true, List.range_succ (n := steps + 1), List.map_append, List.map_cons,
      List.map_nil]

/-! ### The workspace along a solve -/

namespace Workspace.At

variable {workspace : MatrixWorkspace 𝕜 rows columns}

theorem launched (solution : workspace.solution = 0)
    (residual : workspace.residual = problem.rightHandSide)
    (recorder : workspace.recorder =
      (Recorder.cleared settings.keepsHistory).recordResidual ‖problem.rightHandSide‖) :
    (problem.launched settings workspace).At problem settings 0 := by
  refine { carries := .launched solution residual, recorder := ?_, divisors := ?_ }
  · rw [← problem.recorderAt_zero, ← recorder]
    unfold MatrixProblem.launched MatrixProblem.normalVector
    rw [residual]
  · intro earlier before
    exact absurd before (Nat.not_lt_zero earlier)

theorem advanced {steps : ℕ} (stands : workspace.At problem settings steps)
    (image : workspace.normalImage ≠ 0)
    (curved : curvature (problem.normalMap settings.ridge) workspace.gradient ≠ 0)
    {next : MatrixWorkspace 𝕜 rows columns}
    (advance : next =
      problem.advanced settings
        (curvature (problem.normalMap settings.ridge) workspace.gradient) workspace) :
    (next.completed (steps + 1) (problem.measure settings next)).At problem settings
      (steps + 1) := by
  have carries : next.Carries problem settings.ridge
      (problem.iterateAt settings.ridge (steps + 1)) := by
    rw [advance]
    exact stands.carries.advanced
  refine { carries := carries.completed _ _, recorder := ?_, divisors := ?_ }
  · rw [← problem.recorderAt_succ, ← stands.recorder, carries.measure, advance]
    rfl
  · intro earlier before
    rcases Nat.lt_succ_iff_lt_or_eq.mp before with older | last
    · exact stands.divisors earlier older
    · rw [last, ← stands.carries.normalImage, ← stands.carries.gradient]
      exact ⟨image, curved⟩

theorem direction_ne_zero {threshold : ℝ} {steps : ℕ}
    (place : workspace.At problem settings steps)
    (curved : ¬ workspace.Flat settings threshold) : workspace.direction ≠ 0 := by
  intro zero
  apply Workspace.normalImage_ne_zero curved
  rw [place.carries.normalImage, ← place.carries.direction, zero, map_zero]

end Workspace.At

structure Course.Stands (problem : MatrixProblem 𝕜 rows columns) (settings : Settings ℝ)
    (course : Course ℝ) (workspace : MatrixWorkspace 𝕜 rows columns) : Prop where
  place : workspace.At problem settings course.iterations
  progress : course.toProgress = problem.measure settings workspace

theorem Course.Stands.progress_eq {course : Course ℝ} {workspace : MatrixWorkspace 𝕜 rows columns}
    (stands : course.Stands problem settings workspace) :
    let current := problem.iterateAt settings.ridge course.iterations
    course.toProgress =
      { curvature := curvature (problem.normalMap settings.ridge) current.residual
        optimality := ‖current.residual‖
        residual := problem.residualNorm settings.ridge current.solution } :=
  stands.progress.trans stands.place.carries.measure

theorem Course.Stands.curvature_gradient {course : Course ℝ}
    {workspace : MatrixWorkspace 𝕜 rows columns}
    (stands : course.Stands problem settings workspace) :
    course.curvature = curvature (problem.normalMap settings.ridge) workspace.gradient :=
  congrArg Progress.curvature stands.progress

theorem Course.Stands.curvature_eq {course : Course ℝ} {workspace : MatrixWorkspace 𝕜 rows columns}
    (stands : course.Stands problem settings workspace) :
    course.curvature = curvature (problem.normalMap settings.ridge)
      (problem.iterateAt settings.ridge course.iterations).residual :=
  congrArg Progress.curvature stands.progress_eq

theorem Course.Stands.optimality_eq {course : Course ℝ} {workspace : MatrixWorkspace 𝕜 rows columns}
    (stands : course.Stands problem settings workspace) :
    course.optimality = ‖(problem.iterateAt settings.ridge course.iterations).residual‖ :=
  congrArg Progress.optimality stands.progress_eq

end ConjugateResidual
