import Mathlib
import ConjugateResidual.Proofs.Method.Iterate

/-!
The conjugate residual method does not know in which units its right-hand side is measured: a
multiple of the right-hand side multiplies every iterate and leaves all quotients as they are.
-/

namespace ConjugateResidual.Method

variable {𝕜 E : Type} [RCLike 𝕜] [NormedAddCommGroup E] [InnerProductSpace 𝕜 E]

def Iterate.scaled (scale : 𝕜) (current : Iterate E) : Iterate E :=
  { solution := scale • current.solution
    residual := scale • current.residual
    direction := scale • current.direction }

variable (operator : E →ₗ[𝕜] E)

theorem curvature_smul (scale : 𝕜) (vector : E) :
    curvature operator (scale • vector) = ‖scale‖ ^ 2 * curvature operator vector := by
  unfold curvature
  rw [map_smul, inner_smul_left, inner_smul_right, ← mul_assoc, RCLike.conj_mul,
    ← RCLike.ofReal_pow, RCLike.re_ofReal_mul]

variable {scale : 𝕜} (nonzero : scale ≠ 0)
include nonzero

namespace Iterate

variable (current : Iterate E)

theorem step_scaled : (current.scaled scale).step operator = current.step operator := by
  have square : ‖scale‖ ^ 2 ≠ 0 := pow_ne_zero 2 (norm_ne_zero_iff.mpr nonzero)
  change curvature operator (scale • current.residual) /
    ‖operator (scale • current.direction)‖ ^ 2 = _
  rw [curvature_smul, map_smul, norm_smul, mul_pow, mul_div_mul_left _ _ square]
  rfl

theorem nextResidual_scaled :
    (current.scaled scale).nextResidual operator = scale • current.nextResidual operator := by
  unfold nextResidual
  rw [step_scaled operator nonzero]
  change scale • current.residual -
    (current.step operator : 𝕜) • operator (scale • current.direction) = _
  rw [map_smul, smul_comm, ← smul_sub]

private theorem ratio_scaled : (current.scaled scale).ratio operator = current.ratio operator := by
  have square : ‖scale‖ ^ 2 ≠ 0 := pow_ne_zero 2 (norm_ne_zero_iff.mpr nonzero)
  unfold ratio
  rw [nextResidual_scaled operator nonzero]
  change _ / curvature operator (scale • current.residual) = _
  rw [curvature_smul, curvature_smul, mul_div_mul_left _ _ square]

private theorem next_scaled :
    (current.scaled scale).next operator = (current.next operator).scaled scale := by
  unfold next nextSolution
  rw [nextResidual_scaled operator nonzero, ratio_scaled operator nonzero,
    step_scaled operator nonzero]
  simp only [scaled, smul_add, smul_comm scale]

end Iterate

theorem iterate_smul (rightHandSide : E) (steps : ℕ) :
    iterate operator (scale • rightHandSide) steps =
      (iterate operator rightHandSide steps).scaled scale := by
  induction steps with
  | zero =>
      change _ = Iterate.scaled scale (.first rightHandSide)
      unfold Iterate.scaled Iterate.first
      rw [smul_zero]
      rfl
  | succ steps ih => rw [iterate_succ, iterate_succ, ih, Iterate.next_scaled operator nonzero]

end ConjugateResidual.Method
