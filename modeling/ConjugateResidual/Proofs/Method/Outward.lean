import Mathlib
import ConjugateResidual.Proofs.Method.Descent

/-!
The iterates of the conjugate residual method move away from zero, where they start. The directions
do not point away from each other, since each is a sum of residuals and no residual points away from
a direction; so the solution, which is a sum of directions, never gets shorter.
-/

namespace ConjugateResidual.Method

variable {𝕜 E : Type} [RCLike 𝕜] [NormedAddCommGroup E] [InnerProductSpace 𝕜 E]

private theorem norm_le_norm_add_smul {point direction : E} {step : ℝ} (nonneg : 0 ≤ step)
    (outward : 0 ≤ RCLike.re (inner 𝕜 point direction)) :
    ‖point‖ ≤ ‖point + (step : 𝕜) • direction‖ := by
  apply le_of_sq_le_sq _ (norm_nonneg _)
  rw [norm_add_sq (𝕜 := 𝕜), inner_smul_right, RCLike.re_ofReal_mul, add_assoc]
  apply le_add_of_nonneg_right
  exact add_nonneg (mul_nonneg zero_le_two (mul_nonneg nonneg outward)) (sq_nonneg _)

variable {operator : E →ₗ[𝕜] E} {rightHandSide : E}

private theorem solution_succ (operator : E →ₗ[𝕜] E) (rightHandSide : E) (steps : ℕ) :
    (iterate operator rightHandSide (steps + 1)).solution =
      (iterate operator rightHandSide steps).solution +
        ((iterate operator rightHandSide steps).step operator : 𝕜) •
          (iterate operator rightHandSide steps).direction :=
  rfl

/-- The solution does not point away from a vector that no direction points away from. -/
theorem inner_solution_nonneg (positive : operator.IsPositive) {vector : E}
    (directions : ∀ index, 0 ≤ RCLike.re (inner 𝕜
      (iterate operator rightHandSide index).direction vector)) (steps : ℕ) :
    0 ≤ RCLike.re (inner 𝕜 (iterate operator rightHandSide steps).solution vector) := by
  induction steps with
  | zero =>
      change 0 ≤ RCLike.re (inner 𝕜 (0 : E) vector)
      rw [inner_zero_left, map_zero]
  | succ steps ih =>
      rw [solution_succ, inner_add_left, inner_smul_left, RCLike.conj_ofReal, map_add,
        RCLike.re_ofReal_mul]
      exact add_nonneg ih (mul_nonneg (step_nonneg positive _) (directions steps))

variable [FiniteDimensional 𝕜 E]
variable (positive : operator.IsPositive) (consistent : Consistent operator rightHandSide)
include positive consistent

private theorem inner_directions_nonneg (first second : ℕ) :
    0 ≤ RCLike.re (inner 𝕜 (iterate operator rightHandSide first).direction
      (iterate operator rightHandSide second).direction) := by
  induction second with
  | zero => exact inner_direction_residual_nonneg positive consistent first 0
  | succ second ih =>
      rw [direction_succ, inner_add_right, inner_smul_right, map_add, RCLike.re_ofReal_mul]
      exact add_nonneg (inner_direction_residual_nonneg positive consistent first (second + 1))
        (mul_nonneg (ratio_nonneg positive _) ih)

theorem Iterate.LeadsTo.norm_le {steps : ℕ} {point : E}
    (leads : (iterate operator rightHandSide steps).LeadsTo operator point) :
    ‖(iterate operator rightHandSide steps).solution‖ ≤ ‖point‖ := by
  cases leads with
  | nowhere => exact le_rfl
  | direction nonneg short =>
      exact norm_le_norm_add_smul nonneg (inner_solution_nonneg positive
        (fun index => inner_directions_nonneg positive consistent index steps) steps)
  | residual nonneg short =>
      exact norm_le_norm_add_smul nonneg (inner_solution_nonneg positive
        (fun index => inner_direction_residual_nonneg positive consistent index steps) steps)

theorem norm_solution_monotone :
    Monotone fun steps => ‖(iterate operator rightHandSide steps).solution‖ := by
  apply monotone_nat_of_le_succ
  intro steps
  exact Iterate.LeadsTo.norm_le positive consistent
    (.direction (step_nonneg positive _) le_rfl)

end ConjugateResidual.Method
