import Mathlib
import ConjugateResidual.Iteration
import ConjugateResidual.Proofs.Exact.Boundary

/-!
The length of a step in exact arithmetic. Without a trust region it is the one that the method
chooses; inside a ball it is that one unless it would leave the ball, and then the one to the
sphere.
-/

namespace ConjugateResidual

open Arithmetic

variable {𝕜 : Type} [RCLike 𝕜] {columns : ℕ} {settings : Settings ℝ}
variable {solution direction : EuclideanSpace 𝕜 (Fin columns)}

variable (settings) in
/-- The step to the sphere is never refused along a vector that is not zero, wherever it starts. -/
theorem stepToBoundary_answers (bounded : 0 < settings.radius) (nonzero : direction ≠ 0) :
    ∃ bound,
      TrustRegion.stepToBoundary solution direction settings.radius
        (‖direction‖ * ‖direction‖) = .ok bound := by
  have square : ‖direction‖ * ‖direction‖ ≠ 0 := mul_self_ne_zero.mpr (norm_ne_zero_iff.mpr nonzero)
  apply TrustRegion.stepToBoundary_ok _ _ (VectorArithmetic.dot_exact _ _)
    (VectorArithmetic.dot_exact _ _)
  · rw [Bool.eq_false_iff, ne_eq, le_real]
    exact not_le.mpr bounded
  · rw [Bool.eq_false_iff, ne_eq, isZero_real]
    exact square

/-! ### Along the gradient -/

noncomputable def Progress.descent (progress : Progress ℝ) : ℝ :=
  if 0 < progress.curvature then
    progress.optimality * progress.optimality / progress.curvature
  else 0

theorem Progress.descent_nonneg (progress : Progress ℝ) : 0 ≤ progress.descent := by
  unfold Progress.descent
  split
  · rename_i positive
    exact div_nonneg (mul_self_nonneg _) positive.le
  · exact le_rfl

theorem Progress.descent_mul_curvature_le (progress : Progress ℝ) :
    progress.descent * progress.curvature ≤ progress.optimality * progress.optimality := by
  unfold Progress.descent
  split
  · rename_i positive
    exact (div_mul_cancel₀ _ positive.ne').le
  · rw [zero_mul]
    exact mul_self_nonneg _

variable {progress : Progress ℝ} {gradient : EuclideanSpace 𝕜 (Fin columns)}

private theorem gradientStep_eq (progress : Progress ℝ)
    (gradient : EuclideanSpace 𝕜 (Fin columns)) :
    gradientStep settings progress solution gradient =
      if isPositive settings.radius then do
        let bound ←
          TrustRegion.stepToBoundary solution gradient settings.radius
            (progress.optimality * progress.optimality)
        .ok (smaller progress.descent bound)
      else .ok progress.descent := by
  unfold gradientStep Progress.descent
  by_cases positive : 0 < progress.curvature
  · simp only [if_pos ((isPositive_real _).mpr positive), quotient_of_ne_zero positive.ne',
      if_pos positive]
    rfl
  · simp only [if_neg fun found => positive ((isPositive_real _).mp found), if_neg positive]
    rfl

theorem gradientStep_of_unbounded (unbounded : ¬ 0 < settings.radius) (progress : Progress ℝ)
    (gradient : EuclideanSpace 𝕜 (Fin columns)) :
    gradientStep settings progress solution gradient = .ok progress.descent := by
  rw [gradientStep_eq, if_neg fun found => unbounded ((isPositive_real _).mp found)]

theorem gradientStep_of_bounded (bounded : 0 < settings.radius) (progress : Progress ℝ)
    (gradient : EuclideanSpace 𝕜 (Fin columns)) :
    gradientStep settings progress solution gradient =
      match TrustRegion.stepToBoundary solution gradient settings.radius
          (progress.optimality * progress.optimality) with
      | .error fault => .error fault
      | .ok bound => .ok (min progress.descent bound) := by
  rw [gradientStep_eq, if_pos ((isPositive_real _).mpr bounded)]
  cases TrustRegion.stepToBoundary solution gradient settings.radius
      (progress.optimality * progress.optimality) with
  | error fault => rfl
  | ok bound => exact congrArg Except.ok (smaller_real _ _)

variable (settings) in
theorem gradientStep_ok (nonzero : gradient ≠ 0) (optimality : progress.optimality = ‖gradient‖) :
    ∃ step, gradientStep settings progress solution gradient = .ok step := by
  by_cases bounded : 0 < settings.radius
  · obtain ⟨bound, answer⟩ := stepToBoundary_answers settings bounded nonzero
    rw [gradientStep_of_bounded bounded, optimality, answer]
    exact ⟨_, rfl⟩
  · exact ⟨_, gradientStep_of_unbounded bounded progress gradient⟩

/-- Inside the ball a step of steepest descent ends at the lowest point or at the sphere. -/
theorem gradientStep_cases (inside : ‖solution‖ < settings.radius) (nonzero : gradient ≠ 0)
    (optimality : progress.optimality = ‖gradient‖) :
    ∃ bound, TrustRegion.LeavesAt solution gradient settings.radius bound ∧
      gradientStep settings progress solution gradient = .ok (min progress.descent bound) := by
  obtain ⟨bound, answer, leaves⟩ := TrustRegion.stepToBoundary_leavesAt inside nonzero
  refine ⟨bound, leaves, ?_⟩
  rw [gradientStep_of_bounded ((norm_nonneg _).trans_lt inside), optimality, answer]

/-- A step of steepest descent ends in the ball. -/
theorem gradientStep_within {step : ℝ} (inside : ‖solution‖ < settings.radius)
    (nonzero : gradient ≠ 0) (optimality : progress.optimality = ‖gradient‖)
    (stepped : gradientStep settings progress solution gradient = .ok step) :
    ‖solution + (step : 𝕜) • gradient‖ ≤ settings.radius := by
  obtain ⟨bound, leaves, answer⟩ := gradientStep_cases inside nonzero optimality
  rw [answer] at stepped
  cases stepped
  exact leaves.within (le_min progress.descent_nonneg leaves.positive.le) (min_le_right _ _)

/-- A step of steepest descent does not go beyond the lowest point. -/
theorem gradientStep_short {step : ℝ} (inside : 0 < settings.radius → ‖solution‖ < settings.radius)
    (nonzero : gradient ≠ 0) (optimality : progress.optimality = ‖gradient‖)
    (stepped : gradientStep settings progress solution gradient = .ok step) :
    0 ≤ step ∧ step ≤ progress.descent := by
  by_cases bounded : 0 < settings.radius
  · obtain ⟨bound, leaves, answer⟩ := gradientStep_cases (inside bounded) nonzero optimality
    rw [answer] at stepped
    cases stepped
    exact ⟨le_min progress.descent_nonneg leaves.positive.le, min_le_left _ _⟩
  · rw [gradientStep_of_unbounded bounded] at stepped
    cases stepped
    exact ⟨progress.descent_nonneg, le_rfl⟩

variable (settings) in
structure Settings.Allows (solution direction : EuclideanSpace 𝕜 (Fin columns)) (step : ℝ) :
    Prop where
  nonneg : 0 ≤ step
  within : 0 < settings.radius → ‖solution + (step : 𝕜) • direction‖ ≤ settings.radius

/-- Of all steps that are allowed the step of steepest descent comes nearest to the lowest point. -/
theorem gradientStep_nearest {step : ℝ}
    (inside : 0 < settings.radius → ‖solution‖ < settings.radius) (nonzero : gradient ≠ 0)
    (optimality : progress.optimality = ‖gradient‖)
    (stepped : gradientStep settings progress solution gradient = .ok step) :
    settings.Allows solution gradient step ∧
      ∀ other, settings.Allows solution gradient other →
        (step - progress.descent) ^ 2 ≤ (other - progress.descent) ^ 2 := by
  by_cases bounded : 0 < settings.radius
  · obtain ⟨bound, leaves, answer⟩ := gradientStep_cases (inside bounded) nonzero optimality
    have within := gradientStep_within (inside bounded) nonzero optimality stepped
    rw [answer] at stepped
    cases stepped
    refine ⟨{ nonneg := le_min progress.descent_nonneg leaves.positive.le
              within := fun _ => within }, ?_⟩
    intro other allowed
    have short := leaves.le_of_within (inside bounded) (allowed.within bounded)
    rcases le_total progress.descent bound with reachable | beyond
    · rw [min_eq_left reachable, sub_self, zero_pow two_ne_zero]
      exact sq_nonneg _
    · rw [min_eq_right beyond, sub_sq_comm bound, sub_sq_comm other]
      exact pow_le_pow_left₀ (sub_nonneg.mpr beyond) (sub_le_sub_left short _) 2
  · rw [gradientStep_of_unbounded bounded] at stepped
    cases stepped
    refine ⟨{ nonneg := progress.descent_nonneg, within := fun found => absurd found bounded }, ?_⟩
    intro other allowed
    rw [sub_self, zero_pow two_ne_zero]
    exact sq_nonneg _

/-! ### Along the direction -/

variable {curvature normalSquare : ℝ} (nonzero : normalSquare ≠ 0)
include nonzero

theorem directionStep_of_unbounded (unbounded : ¬ 0 < settings.radius) :
    directionStep settings curvature normalSquare solution direction =
      .ok (curvature / normalSquare, false) := by
  unfold directionStep
  rw [quotient_of_ne_zero nonzero]
  change (if isPositive settings.radius = true then _ else _) = _
  rw [if_neg fun found => unbounded ((isPositive_real _).mp found)]

theorem directionStep_of_bounded (bounded : 0 < settings.radius) :
    directionStep settings curvature normalSquare solution direction =
      match TrustRegion.stepToBoundary solution direction settings.radius
          (‖direction‖ * ‖direction‖) with
      | .error fault => .error fault
      | .ok bound =>
          .ok (if bound ≤ curvature / normalSquare then (bound, true)
            else (curvature / normalSquare, false)) := by
  unfold directionStep
  rw [quotient_of_ne_zero nonzero]
  change (if isPositive settings.radius = true then _ else _) = _
  rw [if_pos ((isPositive_real _).mpr bounded)]
  cases TrustRegion.stepToBoundary solution direction settings.radius
      (‖direction‖ * ‖direction‖) with
  | error fault => rfl
  | ok bound => simp only [bind, Except.bind, le_real]

theorem directionStep_of_unclipped {step : ℝ}
    (stepped :
      directionStep settings curvature normalSquare solution direction = .ok (step, false)) :
    step = curvature / normalSquare := by
  by_cases bounded : 0 < settings.radius
  · rw [directionStep_of_bounded nonzero bounded] at stepped
    split at stepped
    · cases stepped
    · split at stepped
      · cases stepped
      · cases stepped
        rfl
  · rw [directionStep_of_unbounded nonzero bounded] at stepped
    cases stepped
    rfl

variable (settings) in
theorem directionStep_ok (directed : direction ≠ 0) :
    (∃ step, directionStep settings curvature normalSquare solution direction =
        .ok (step, true)) ∨
      directionStep settings curvature normalSquare solution direction =
        .ok (curvature / normalSquare, false) := by
  by_cases bounded : 0 < settings.radius
  · obtain ⟨bound, answer⟩ := stepToBoundary_answers settings bounded directed
    rw [directionStep_of_bounded nonzero bounded, answer]
    dsimp only
    split
    · exact .inl ⟨bound, rfl⟩
    · exact .inr rfl
  · exact .inr (directionStep_of_unbounded nonzero bounded)

section Inside

variable (inside : ‖solution‖ < settings.radius) (directed : direction ≠ 0)
include inside directed

variable (curvature) in
theorem directionStep_cases :
    ∃ bound, TrustRegion.LeavesAt solution direction settings.radius bound ∧
      directionStep settings curvature normalSquare solution direction =
        .ok (if bound ≤ curvature / normalSquare then (bound, true)
          else (curvature / normalSquare, false)) := by
  obtain ⟨bound, answer, leaves⟩ := TrustRegion.stepToBoundary_leavesAt inside directed
  refine ⟨bound, leaves, ?_⟩
  rw [directionStep_of_bounded nonzero ((norm_nonneg _).trans_lt inside), answer]

/-- A clipped step ends on the sphere, on the way to where the full one would have ended. -/
theorem directionStep_clipped {step : ℝ}
    (stepped :
      directionStep settings curvature normalSquare solution direction = .ok (step, true)) :
    0 < step ∧ step ≤ curvature / normalSquare ∧
      ‖solution + (step : 𝕜) • direction‖ = settings.radius ∧
      settings.radius ≤ ‖solution + ((curvature / normalSquare : ℝ) : 𝕜) • direction‖ := by
  obtain ⟨bound, leaves, answer⟩ :=
    directionStep_cases curvature nonzero inside directed
  rw [answer] at stepped
  split at stepped
  · rename_i long
    cases stepped
    exact ⟨leaves.positive, long, leaves.onSphere, leaves.outside _ long⟩
  · cases stepped

theorem directionStep_full {step : ℝ} (ascends : 0 ≤ curvature / normalSquare)
    (stepped :
      directionStep settings curvature normalSquare solution direction = .ok (step, false)) :
    ‖solution + (step : 𝕜) • direction‖ < settings.radius := by
  obtain ⟨bound, leaves, answer⟩ :=
    directionStep_cases curvature nonzero inside directed
  rw [answer] at stepped
  split at stepped
  · cases stepped
  · rename_i short
    cases stepped
    exact leaves.inside _ ascends (not_le.mp short)

end Inside

theorem directionStep_of_inside (directed : direction ≠ 0)
    (inside : 0 < settings.radius →
      ‖solution‖ < settings.radius ∧
        ‖solution + ((curvature / normalSquare : ℝ) : 𝕜) • direction‖ < settings.radius) :
    directionStep settings curvature normalSquare solution direction =
      .ok (curvature / normalSquare, false) := by
  by_cases bounded : 0 < settings.radius
  · obtain ⟨start, finish⟩ := inside bounded
    obtain ⟨bound, leaves, answer⟩ :=
      directionStep_cases curvature nonzero start directed
    rw [answer, if_neg fun long => not_le.mpr finish (leaves.outside _ long)]
  · exact directionStep_of_unbounded nonzero bounded

/-- No step along the direction goes beyond the full one. -/
theorem directionStep_short {step : ℝ} {clipped : Bool} (directed : direction ≠ 0)
    (ascends : 0 ≤ curvature / normalSquare)
    (inside : 0 < settings.radius → ‖solution‖ < settings.radius)
    (stepped :
      directionStep settings curvature normalSquare solution direction = .ok (step, clipped)) :
    0 ≤ step ∧ step ≤ curvature / normalSquare := by
  cases clipped with
  | true =>
      by_cases bounded : 0 < settings.radius
      · obtain ⟨positive, short, _, _⟩ :=
          directionStep_clipped nonzero (inside bounded) directed stepped
        exact ⟨positive.le, short⟩
      · rw [directionStep_of_unbounded nonzero bounded] at stepped
        cases stepped
  | false =>
      rw [directionStep_of_unclipped nonzero stepped]
      exact ⟨ascends, le_rfl⟩

end ConjugateResidual
