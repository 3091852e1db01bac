import Mathlib
import ConjugateResidual.Proofs.Method.Iterate

/-!
Orthogonality in the conjugate residual method for a symmetric operator: as long as the residuals
have positive curvature, the images of the directions are orthogonal to each other and to all later
residuals. For a positive operator and a consistent right-hand side a residual has positive
curvature unless it is zero, so the method ends after as many steps as an invariant subspace has
dimensions.
-/

namespace ConjugateResidual.Method

variable {𝕜 E : Type} [RCLike 𝕜] [NormedAddCommGroup E] [InnerProductSpace 𝕜 E]
variable {operator : E →ₗ[𝕜] E} {rightHandSide : E}

structure Conjugate (operator : E →ₗ[𝕜] E) (rightHandSide : E) (steps : ℕ) : Prop where
  imageNonzero : ∀ earlier < steps,
    operator (iterate operator rightHandSide earlier).direction ≠ 0
  images : ∀ earlier < steps,
    inner 𝕜 (operator (iterate operator rightHandSide earlier).direction)
      (operator (iterate operator rightHandSide steps).direction) = 0
  residuals : ∀ earlier < steps,
    inner 𝕜 (operator (iterate operator rightHandSide earlier).direction)
      (iterate operator rightHandSide steps).residual = 0

theorem inner_image_self (symmetric : operator.IsSymmetric) (vector : E) :
    inner 𝕜 (operator vector) vector = (curvature operator vector : 𝕜) := by
  have real := symmetric.coe_re_inner_apply_self vector
  rw [← real, symmetric vector vector]
  rfl

namespace Conjugate

theorem inner_image_residual (symmetric : operator.IsSymmetric) {steps : ℕ}
    (conjugate : Conjugate operator rightHandSide steps) :
    inner 𝕜 (operator (iterate operator rightHandSide steps).direction)
        (iterate operator rightHandSide steps).residual =
      (curvature operator (iterate operator rightHandSide steps).residual : 𝕜) := by
  cases steps with
  | zero => exact inner_image_self symmetric _
  | succ steps =>
      rw [image_succ, inner_add_left, inner_smul_left,
        conjugate.residuals steps (Nat.lt_succ_self steps), mul_zero, add_zero]
      exact inner_image_self symmetric _

theorem image_ne_zero (symmetric : operator.IsSymmetric) {steps : ℕ}
    (conjugate : Conjugate operator rightHandSide steps)
    (positive : 0 < curvature operator (iterate operator rightHandSide steps).residual) :
    operator (iterate operator rightHandSide steps).direction ≠ 0 := by
  intro zero
  have own := conjugate.inner_image_residual symmetric
  rw [zero, inner_zero_left] at own
  exact positive.ne (RCLike.ofReal_eq_zero.mp own.symm).symm

private theorem inner_image_earlier {steps : ℕ}
    (residuals : ∀ earlier < steps,
      inner 𝕜 (operator (iterate operator rightHandSide earlier).direction)
        (iterate operator rightHandSide steps).residual = 0)
    {earlier : ℕ} (before : earlier < steps) :
    inner 𝕜 (operator (iterate operator rightHandSide earlier).residual)
      (iterate operator rightHandSide steps).residual = 0 := by
  cases earlier with
  | zero => exact residuals 0 before
  | succ earlier =>
      have image := image_succ operator rightHandSide earlier
      rw [eq_sub_of_add_eq image.symm, inner_sub_left, inner_smul_left,
        residuals _ before, residuals earlier (Nat.lt_of_succ_lt before), mul_zero, sub_zero]

end Conjugate

private theorem residuals_succ (symmetric : operator.IsSymmetric) {steps : ℕ}
    (conjugate : Conjugate operator rightHandSide steps)
    (nonzero : operator (iterate operator rightHandSide steps).direction ≠ 0) :
    ∀ earlier < steps + 1,
      inner 𝕜 (operator (iterate operator rightHandSide earlier).direction)
        (iterate operator rightHandSide (steps + 1)).residual = 0 := by
  intro earlier before
  rw [iterate_succ]
  simp only [Iterate.next, Iterate.nextResidual, inner_sub_right, inner_smul_right]
  rcases Nat.lt_succ_iff_lt_or_eq.mp before with older | rfl
  · rw [conjugate.residuals earlier older, conjugate.images earlier older, mul_zero, sub_zero]
  · have square : ((‖operator (iterate operator rightHandSide earlier).direction‖ : ℝ) : 𝕜) ^ 2 ≠
        0 := by
      rw [← RCLike.ofReal_pow, RCLike.ofReal_ne_zero]
      exact pow_ne_zero 2 (norm_ne_zero_iff.mpr nonzero)
    rw [conjugate.inner_image_residual symmetric, inner_self_eq_norm_sq_to_K, Iterate.step,
      RCLike.ofReal_div, RCLike.ofReal_pow, div_mul_cancel₀ _ square, sub_self]

private theorem step_smul_image (operator : E →ₗ[𝕜] E) (rightHandSide : E) (steps : ℕ) :
    ((iterate operator rightHandSide steps).step operator : 𝕜) •
        operator (iterate operator rightHandSide steps).direction =
      (iterate operator rightHandSide steps).residual -
        (iterate operator rightHandSide (steps + 1)).residual := by
  rw [iterate_succ]
  simp only [Iterate.next, Iterate.nextResidual, sub_sub_cancel]

private theorem step_mul_inner (symmetric : operator.IsSymmetric) (rightHandSide : E)
    (steps : ℕ) (vector : E) :
    ((iterate operator rightHandSide steps).step operator : 𝕜) *
        inner 𝕜 (operator (iterate operator rightHandSide steps).direction) (operator vector) =
      inner 𝕜 (operator (iterate operator rightHandSide steps).residual) vector -
        inner 𝕜 (operator (iterate operator rightHandSide (steps + 1)).residual) vector := by
  have pulled :
      ((iterate operator rightHandSide steps).step operator : 𝕜) *
          inner 𝕜 (operator (iterate operator rightHandSide steps).direction) (operator vector) =
        inner 𝕜 (((iterate operator rightHandSide steps).step operator : 𝕜) •
          operator (iterate operator rightHandSide steps).direction) (operator vector) := by
    rw [inner_smul_left, RCLike.conj_ofReal]
  rw [pulled, step_smul_image, ← symmetric, map_sub, inner_sub_left]

private theorem images_succ (symmetric : operator.IsSymmetric) {steps : ℕ}
    (positive : ∀ earlier ≤ steps,
      0 < curvature operator (iterate operator rightHandSide earlier).residual)
    (conjugate : Conjugate operator rightHandSide steps)
    (nonzero : ∀ earlier ≤ steps, operator (iterate operator rightHandSide earlier).direction ≠ 0)
    (residuals : ∀ earlier < steps + 1,
      inner 𝕜 (operator (iterate operator rightHandSide earlier).direction)
        (iterate operator rightHandSide (steps + 1)).residual = 0) :
    ∀ earlier < steps + 1,
      inner 𝕜 (operator (iterate operator rightHandSide earlier).direction)
        (operator (iterate operator rightHandSide (steps + 1)).direction) = 0 := by
  intro earlier before
  have within : earlier ≤ steps := Nat.le_of_lt_succ before
  have normNonzero : ‖operator (iterate operator rightHandSide earlier).direction‖ ≠ 0 :=
    norm_ne_zero_iff.mpr (nonzero earlier within)
  have curvatureNonzero := (positive earlier within).ne'
  have stepNonzero : ((iterate operator rightHandSide earlier).step operator : 𝕜) ≠ 0 := by
    rw [RCLike.ofReal_ne_zero]
    exact div_ne_zero curvatureNonzero (pow_ne_zero 2 normNonzero)
  have change := step_mul_inner symmetric rightHandSide earlier
    (iterate operator rightHandSide (steps + 1)).residual
  rw [Conjugate.inner_image_earlier residuals before, zero_sub] at change
  rw [image_succ, inner_add_right, inner_smul_right]
  rcases Nat.lt_succ_iff_lt_or_eq.mp before with older | rfl
  · rw [Conjugate.inner_image_earlier residuals (Nat.succ_lt_succ older), neg_zero] at change
    rw [(mul_eq_zero.mp change).resolve_left stepNonzero, conjugate.images earlier older,
      mul_zero, add_zero]
  · -- The ratio is chosen for this last case.
    rw [inner_image_self symmetric] at change
    apply (mul_eq_zero.mp _).resolve_left stepNonzero
    rw [mul_add, change, inner_self_eq_norm_sq_to_K, ← RCLike.ofReal_pow, ← RCLike.ofReal_neg,
      ← RCLike.ofReal_mul, ← RCLike.ofReal_mul, ← RCLike.ofReal_add, RCLike.ofReal_eq_zero,
      iterate_succ, Iterate.ratio, Iterate.step]
    simp only [Iterate.next]
    field_simp
    ring

theorem conjugate_of_positive (symmetric : operator.IsSymmetric) (steps : ℕ)
    (positive : ∀ earlier < steps,
      0 < curvature operator (iterate operator rightHandSide earlier).residual) :
    Conjugate operator rightHandSide steps := by
  induction steps with
  | zero =>
      constructor
      · intro earlier before
        exact absurd before (Nat.not_lt_zero earlier)
      · intro earlier before
        exact absurd before (Nat.not_lt_zero earlier)
      · intro earlier before
        exact absurd before (Nat.not_lt_zero earlier)
  | succ steps ih =>
      have conjugate := ih fun earlier before => positive earlier (Nat.lt_succ_of_lt before)
      have own := conjugate.image_ne_zero symmetric (positive steps (Nat.lt_succ_self steps))
      have nonzero : ∀ earlier ≤ steps,
          operator (iterate operator rightHandSide earlier).direction ≠ 0 := by
        intro earlier within
        rcases Nat.lt_or_eq_of_le within with older | rfl
        · exact conjugate.imageNonzero earlier older
        · exact own
      have residuals := residuals_succ symmetric conjugate own
      exact
        { imageNonzero := fun earlier before => nonzero earlier (Nat.le_of_lt_succ before)
          images :=
            images_succ symmetric
              (fun earlier within => positive earlier (Nat.lt_succ_of_le within)) conjugate nonzero
              residuals
          residuals }

end ConjugateResidual.Method
