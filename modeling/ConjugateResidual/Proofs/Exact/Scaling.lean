import Mathlib
import ConjugateResidual.Proofs.Exact.Reached
import ConjugateResidual.Proofs.Method.Scaling

/-!
A problem in other units: the right-hand side and the radius of the trust region are multiplied by
the same positive number. All vectors that a workspace holds, and all norms that it records, are
then multiplied by that number, and no step length changes. The test for missing curvature compares
a square of such a norm with a product of two, so it answers as if its threshold were fixed.
-/

namespace ConjugateResidual

open Arithmetic Method

variable {𝕜 J : Type} [RCLike 𝕜] {rows columns : ℕ}

noncomputable def MatrixProblem.scaled (scale : ℝ) (problem : MatrixProblem 𝕜 rows columns) :
    MatrixProblem 𝕜 rows columns :=
  { problem with rightHandSide := (scale : 𝕜) • problem.rightHandSide }

noncomputable def Settings.scaled (scale : ℝ) (settings : Settings ℝ) : Settings ℝ :=
  { settings with radius := scale * settings.radius }

noncomputable def Snapshot.scaled (scale : ℝ) (stats : Snapshot ℝ) : Snapshot ℝ :=
  { stats with
    residuals := stats.residuals.map (scale * ·)
    optimalities := stats.optimalities.map (scale * ·) }

variable {problem : MatrixProblem 𝕜 rows columns} {settings : Settings ℝ} {scale : ℝ}

/-! ### The data of a solve -/

theorem MatrixProblem.rightHandSide_scaled_ne_zero (positive : 0 < scale)
    (nonzero : problem.rightHandSide ≠ 0) : (problem.scaled scale).rightHandSide ≠ 0 :=
  smul_ne_zero (RCLike.ofReal_ne_zero.mpr positive.ne') nonzero

theorem MatrixProblem.normalVector_scaled :
    (problem.scaled scale).normalVector = (scale : 𝕜) • problem.normalVector := by
  change problem.adjointMap (problem.weightMap ((scale : 𝕜) • problem.rightHandSide)) = _
  rw [map_smul, map_smul]
  rfl

theorem MatrixProblem.iterateAt_scaled (positive : 0 < scale) (ridge : ℝ) (steps : ℕ) :
    (problem.scaled scale).iterateAt ridge steps =
      (problem.iterateAt ridge steps).scaled (scale : 𝕜) := by
  unfold MatrixProblem.iterateAt
  rw [MatrixProblem.normalVector_scaled]
  exact iterate_smul _ (RCLike.ofReal_ne_zero.mpr positive.ne') _ steps

theorem norm_ofReal_smul {E : Type} [NormedAddCommGroup E] [InnerProductSpace 𝕜 E]
    (positive : 0 < scale) (vector : E) : ‖(scale : 𝕜) • vector‖ = scale * ‖vector‖ := by
  rw [norm_smul, RCLike.norm_ofReal, abs_of_pos positive]

theorem MatrixProblem.threshold_scaled (positive : 0 < scale) (absolute : settings.absolute = 0) :
    (problem.scaled scale).threshold (settings.scaled scale) =
      scale * problem.threshold settings := by
  change settings.absolute + settings.relative * ‖(problem.scaled scale).normalVector‖ =
    scale * (settings.absolute + settings.relative * ‖problem.normalVector‖)
  rw [MatrixProblem.normalVector_scaled, norm_ofReal_smul positive, absolute]
  ring

private theorem MatrixProblem.residualNorm_scaled (positive : 0 < scale) (ridge : ℝ)
    (point : EuclideanSpace 𝕜 (Fin columns)) :
    (problem.scaled scale).residualNorm ridge ((scale : 𝕜) • point) =
      scale * problem.residualNorm ridge point := by
  change √(‖(scale : 𝕜) • problem.rightHandSide - problem.forwardMap ((scale : 𝕜) • point)‖ ^ 2 +
    ridge * ‖(scale : 𝕜) • point‖ ^ 2) = _
  rw [map_smul, ← smul_sub, norm_ofReal_smul positive, norm_ofReal_smul positive,
    mul_pow, mul_pow, mul_left_comm, ← mul_add, Real.sqrt_mul (sq_nonneg scale),
    Real.sqrt_sq positive.le]
  rfl

private theorem MatrixProblem.recorderAt_scaled (positive : 0 < scale) (steps : ℕ) :
    ((problem.scaled scale).recorderAt (settings.scaled scale) steps).snapshot =
      (problem.recorderAt settings steps).snapshot.scaled scale := by
  have residuals (step : ℕ) :
      (problem.scaled scale).residualNorm settings.ridge
          ((problem.scaled scale).iterateAt settings.ridge step).solution =
        scale * problem.residualNorm settings.ridge
          (problem.iterateAt settings.ridge step).solution := by
    rw [MatrixProblem.iterateAt_scaled positive]
    exact MatrixProblem.residualNorm_scaled positive settings.ridge _
  have optimalities (step : ℕ) :
      ‖((problem.scaled scale).iterateAt settings.ridge step).residual‖ =
        scale * ‖(problem.iterateAt settings.ridge step).residual‖ := by
    rw [MatrixProblem.iterateAt_scaled positive]
    exact norm_ofReal_smul positive _
  unfold MatrixProblem.recorderAt Recorder.snapshot Snapshot.scaled
  change Snapshot.mk _ _ _ _
      (if settings.keepsHistory then (List.range (steps + 1)).map fun step =>
        (problem.scaled scale).residualNorm settings.ridge
          ((problem.scaled scale).iterateAt settings.ridge step).solution else [])
      (if settings.keepsHistory then (List.range (steps + 1)).map fun step =>
        ‖((problem.scaled scale).iterateAt settings.ridge step).residual‖ else []) = _
  cases settings.keepsHistory with
  | false => rfl
  | true =>
      simp only [if_true, residuals, optimalities, List.map_map, Function.comp_def]

/-! ### Step lengths -/

section StepLengths

open TrustRegion

variable {point direction gradient : EuclideanSpace 𝕜 (Fin columns)} {radius bound : ℝ}

/-- A line leaves the ball once. -/
theorem TrustRegion.LeavesAt.unique {other : ℝ} (leaves : LeavesAt point direction radius bound)
    (leaves' : LeavesAt point direction radius other) : other = bound := by
  apply le_antisymm
  · by_contra longer
    have inside := leaves'.inside bound leaves.positive.le (not_le.mp longer)
    exact absurd leaves.onSphere inside.ne
  · by_contra longer
    have inside := leaves.inside other leaves'.positive.le (not_le.mp longer)
    exact absurd leaves'.onSphere inside.ne

variable (positive : 0 < scale)
include positive

private theorem TrustRegion.LeavesAt.smul (leaves : LeavesAt point direction radius bound) :
    LeavesAt ((scale : 𝕜) • point) ((scale : 𝕜) • direction) (scale * radius) bound := by
  have along (step : ℝ) :
      ‖(scale : 𝕜) • point + (step : 𝕜) • (scale : 𝕜) • direction‖ =
        scale * ‖point + (step : 𝕜) • direction‖ := by
    rw [smul_comm, ← smul_add, norm_ofReal_smul positive]
  refine { positive := leaves.positive, onSphere := ?_, inside := ?_, outside := ?_ }
  · rw [along, leaves.onSphere]
  · intro step nonneg short
    rw [along]
    exact mul_lt_mul_of_pos_left (leaves.inside step nonneg short) positive
  · intro step long
    rw [along]
    exact mul_le_mul_of_nonneg_left (leaves.outside step long) positive.le

theorem TrustRegion.stepToBoundary_smul (inside : ‖point‖ < radius) (nonzero : direction ≠ 0) :
    stepToBoundary ((scale : 𝕜) • point) ((scale : 𝕜) • direction) (scale * radius)
        (‖(scale : 𝕜) • direction‖ * ‖(scale : 𝕜) • direction‖) =
      stepToBoundary point direction radius (‖direction‖ * ‖direction‖) := by
  have inside' : ‖(scale : 𝕜) • point‖ < scale * radius := by
    rw [norm_ofReal_smul positive]
    exact mul_lt_mul_of_pos_left inside positive
  have nonzero' : (scale : 𝕜) • direction ≠ 0 :=
    smul_ne_zero (RCLike.ofReal_ne_zero.mpr positive.ne') nonzero
  obtain ⟨bound, answer, leaves⟩ := stepToBoundary_leavesAt inside nonzero
  obtain ⟨other, answer', leaves'⟩ := stepToBoundary_leavesAt inside' nonzero'
  rw [answer, answer', (leaves.smul positive).unique leaves']

theorem Settings.radius_scaled_pos : 0 < (settings.scaled scale).radius ↔ 0 < settings.radius :=
  mul_pos_iff_of_pos_left positive

variable (inside : 0 < settings.radius → ‖point‖ < settings.radius)
include inside

theorem gradientStep_smul (nonzero : gradient ≠ 0) {progress progress' : Progress ℝ}
    (optimality : progress.optimality = ‖gradient‖)
    (optimality' : progress'.optimality = scale * progress.optimality)
    (curvature' : progress'.curvature = scale ^ 2 * progress.curvature) :
    gradientStep (settings.scaled scale) progress' ((scale : 𝕜) • point)
        ((scale : 𝕜) • gradient) =
      gradientStep settings progress point gradient := by
  have square : 0 < scale ^ 2 := pow_pos positive 2
  have descent : progress'.descent = progress.descent := by
    unfold Progress.descent
    rw [optimality', curvature', mul_mul_mul_comm, ← pow_two scale,
      mul_div_mul_left _ _ square.ne']
    simp only [mul_pos_iff_of_pos_left square]
  by_cases bounded : 0 < settings.radius
  · have same : progress'.optimality = ‖(scale : 𝕜) • gradient‖ := by
      rw [optimality', optimality, norm_ofReal_smul positive]
    have bound :
        stepToBoundary ((scale : 𝕜) • point) ((scale : 𝕜) • gradient)
            (settings.scaled scale).radius (‖(scale : 𝕜) • gradient‖ * ‖(scale : 𝕜) • gradient‖) =
          stepToBoundary point gradient settings.radius (‖gradient‖ * ‖gradient‖) :=
      stepToBoundary_smul positive (inside bounded) nonzero
    rw [gradientStep_of_bounded bounded,
      gradientStep_of_bounded ((Settings.radius_scaled_pos positive).mpr bounded), same,
      optimality, descent, bound]
  · rw [gradientStep_of_unbounded bounded,
      gradientStep_of_unbounded fun found =>
        bounded ((Settings.radius_scaled_pos positive).mp found), descent]

theorem directionStep_smul (nonzero : direction ≠ 0) {curvature normalSquare : ℝ}
    (square : normalSquare ≠ 0) :
    directionStep (settings.scaled scale) (scale ^ 2 * curvature) (scale ^ 2 * normalSquare)
        ((scale : 𝕜) • point) ((scale : 𝕜) • direction) =
      directionStep settings curvature normalSquare point direction := by
  have scaleSquare : scale ^ 2 ≠ 0 := pow_ne_zero 2 positive.ne'
  have square' : scale ^ 2 * normalSquare ≠ 0 := mul_ne_zero scaleSquare square
  by_cases bounded : 0 < settings.radius
  · have bound :
        stepToBoundary ((scale : 𝕜) • point) ((scale : 𝕜) • direction)
            (settings.scaled scale).radius
            (‖(scale : 𝕜) • direction‖ * ‖(scale : 𝕜) • direction‖) =
          stepToBoundary point direction settings.radius (‖direction‖ * ‖direction‖) :=
      stepToBoundary_smul positive (inside bounded) nonzero
    rw [directionStep_of_bounded square bounded,
      directionStep_of_bounded square' ((Settings.radius_scaled_pos positive).mpr bounded),
      mul_div_mul_left _ _ scaleSquare, bound]
  · rw [directionStep_of_unbounded square bounded,
      directionStep_of_unbounded square' fun found =>
        bounded ((Settings.radius_scaled_pos positive).mp found),
      mul_div_mul_left _ _ scaleSquare]

end StepLengths

/-! ### The vectors of a workspace -/

structure Workspace.Magnifies (scale : ℝ) (workspace workspace' : MatrixWorkspace 𝕜 rows columns) :
    Prop where
  solution : workspace'.solution = (scale : 𝕜) • workspace.solution
  gradient : workspace'.gradient = (scale : 𝕜) • workspace.gradient
  direction : workspace'.direction = (scale : 𝕜) • workspace.direction
  normalImage : workspace'.normalImage = (scale : 𝕜) • workspace.normalImage
  directionImage : workspace'.directionImage = (scale : 𝕜) • workspace.directionImage
  gradientImage : workspace'.gradientImage = (scale : 𝕜) • workspace.gradientImage
  stats : workspace'.stats = workspace.stats.scaled scale

namespace Workspace.Magnifies

variable {workspace workspace' : MatrixWorkspace 𝕜 rows columns} (positive : 0 < scale)
include positive

theorem of_places {steps : ℕ} (place : workspace.At problem settings steps)
    (place' : workspace'.At (problem.scaled scale) (settings.scaled scale) steps) :
    workspace.Magnifies scale workspace' := by
  have carries := place.carries
  have carries' := place'.carries
  have iterate := problem.iterateAt_scaled positive settings.ridge steps
  change workspace'.Carries _ settings.ridge ((problem.scaled scale).iterateAt settings.ridge _)
    at carries'
  rw [iterate] at carries'
  refine
    { solution := ?_, gradient := ?_, direction := ?_, normalImage := ?_
      directionImage := ?_, gradientImage := ?_, stats := ?_ }
  · rw [carries'.solution, carries.solution]
    rfl
  · rw [carries'.gradient, carries.gradient]
    rfl
  · rw [carries'.direction, carries.direction]
    rfl
  · rw [carries'.normalImage, carries.normalImage]
    exact map_smul (problem.normalMap settings.ridge) _ _
  · rw [carries'.directionImage, carries.directionImage]
    exact map_smul problem.forwardMap _ _
  · rw [carries'.gradientImage, carries.gradientImage]
    exact map_smul problem.forwardMap _ _
  · unfold Workspace.stats
    rw [place'.recorder, place.recorder]
    exact MatrixProblem.recorderAt_scaled positive steps

variable (magnifies : workspace.Magnifies scale workspace')
include magnifies

/-- Whether a direction is taken to have no curvature depends on the units of the threshold only. -/
theorem flat_iff (threshold : ℝ) :
    workspace'.Flat (settings.scaled scale) threshold ↔ workspace.Flat settings threshold := by
  unfold Workspace.Flat
  rw [magnifies.normalImage, magnifies.directionImage, magnifies.direction,
    smul_eq_zero_iff_right (RCLike.ofReal_ne_zero.mpr positive.ne'),
    Settings.radius_scaled_pos positive, norm_ofReal_smul positive, norm_ofReal_smul positive,
    norm_ofReal_smul positive, mul_pow]
  have square : 0 < scale ^ 2 := pow_pos positive 2
  rw [show threshold * (scale * ‖workspace.normalImage‖) * (scale * ‖workspace.direction‖) =
    scale ^ 2 * (threshold * ‖workspace.normalImage‖ * ‖workspace.direction‖) by ring,
    mul_le_mul_iff_right₀ square]

omit positive in
theorem moved {vector vector' image image' : EuclideanSpace 𝕜 (Fin columns)}
    (along : vector' = (scale : 𝕜) • vector) (images : image' = (scale : 𝕜) • image)
    (step : ℝ) :
    (workspace.moved step vector image).Magnifies scale (workspace'.moved step vector' image') := by
  refine { magnifies with solution := ?_, gradient := ?_ }
  · change workspace'.solution + (step : 𝕜) • vector' = _
    rw [magnifies.solution, along, smul_comm, ← smul_add]
    rfl
  · change workspace'.gradient - (step : 𝕜) • image' = _
    rw [magnifies.gradient, images, smul_comm, ← smul_sub]
    rfl

variable (problem settings) in
omit positive in
theorem turned :
    (problem.turned settings workspace).Magnifies scale
      ((problem.scaled scale).turned (settings.scaled scale) workspace') := by
  refine { magnifies with normalImage := ?_ }
  change problem.adjointMap (problem.weightMap workspace'.gradientImage) +
    (settings.ridge : 𝕜) • workspace'.gradient = _
  rw [magnifies.gradientImage, magnifies.gradient, map_smul, map_smul, smul_comm, ← smul_add]
  rfl

end Workspace.Magnifies

end ConjugateResidual
