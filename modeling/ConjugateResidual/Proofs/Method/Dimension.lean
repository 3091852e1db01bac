import Mathlib
import ConjugateResidual.Proofs.Method.Conjugacy

/-!
How many steps the conjugate residual method takes: for a positive operator and a right-hand side
without a part that the operator cannot reach, each step with a nonzero residual has positive
curvature and a nonzero image, and adds a dimension to any subspace that contains the images.
-/

namespace ConjugateResidual.Method

variable {𝕜 E : Type} [RCLike 𝕜] [NormedAddCommGroup E] [InnerProductSpace 𝕜 E]
variable {operator : E →ₗ[𝕜] E} {rightHandSide : E}

/-- The right-hand side is orthogonal to the null space of the operator. -/
def Consistent (operator : E →ₗ[𝕜] E) (rightHandSide : E) : Prop :=
  ∀ vector, operator vector = 0 → inner 𝕜 vector rightHandSide = 0

theorem curvature_nonneg (positive : operator.IsPositive) (vector : E) :
    0 ≤ curvature operator vector :=
  positive.re_inner_nonneg_right vector

private theorem curvature_line (symmetric : operator.IsSymmetric) (vector : E) (step : ℝ) :
    curvature operator (vector + (step : 𝕜) • operator vector) =
      curvature operator (operator vector) * (step * step) +
        2 * ‖operator vector‖ ^ 2 * step + curvature operator vector := by
  have square : inner 𝕜 vector (operator (operator vector)) =
      ((‖operator vector‖ ^ 2 : ℝ) : 𝕜) := by
    rw [← symmetric, inner_self_eq_norm_sq_to_K, RCLike.ofReal_pow]
  have own : inner 𝕜 (operator vector) (operator vector) = ((‖operator vector‖ ^ 2 : ℝ) : 𝕜) := by
    rw [inner_self_eq_norm_sq_to_K, RCLike.ofReal_pow]
  unfold curvature
  simp only [map_add, map_smul, inner_add_left, inner_add_right, inner_smul_left,
    inner_smul_right, RCLike.conj_ofReal, square, own, RCLike.re_ofReal_mul, RCLike.ofReal_re]
  ring

/-- A direction without curvature is mapped to zero: else the curvature would be negative somewhere
on the line through it along its image. -/
theorem image_eq_zero_of_curvature (positive : operator.IsPositive) {vector : E}
    (flat : curvature operator vector = 0) : operator vector = 0 := by
  have line : ∀ step : ℝ,
      0 ≤ curvature operator (operator vector) * (step * step) +
        2 * ‖operator vector‖ ^ 2 * step + 0 := by
    intro step
    have nonneg := curvature_nonneg positive (vector + (step : 𝕜) • operator vector)
    rw [curvature_line positive.isSymmetric, flat] at nonneg
    exact nonneg
  have bound := discrim_le_zero line
  rw [discrim, mul_zero, sub_zero] at bound
  have square := pow_eq_zero_iff (two_ne_zero) |>.mp (le_antisymm bound (sq_nonneg _))
  have norm := (mul_eq_zero.mp square).resolve_left two_ne_zero
  exact norm_eq_zero.mp (pow_eq_zero_iff two_ne_zero |>.mp norm)

private theorem inner_residual_eq_zero (symmetric : operator.IsSymmetric)
    (consistent : Consistent operator rightHandSide) (steps : ℕ) {vector : E}
    (null : operator vector = 0) :
    inner 𝕜 vector (iterate operator rightHandSide steps).residual = 0 := by
  rw [residual_eq_sub, inner_sub_right, consistent vector null, ← symmetric, null,
    inner_zero_left, sub_zero]

theorem curvature_residual_pos (positive : operator.IsPositive)
    (consistent : Consistent operator rightHandSide) {steps : ℕ}
    (nonzero : (iterate operator rightHandSide steps).residual ≠ 0) :
    0 < curvature operator (iterate operator rightHandSide steps).residual := by
  apply (curvature_nonneg positive _).lt_of_ne
  intro flat
  have null := image_eq_zero_of_curvature positive flat.symm
  exact nonzero
    (inner_self_eq_zero.mp (inner_residual_eq_zero positive.isSymmetric consistent steps null))

variable (positive : operator.IsPositive) (consistent : Consistent operator rightHandSide)
include positive consistent

theorem conjugate_of_nonzero {steps : ℕ}
    (nonzero : ∀ earlier < steps, (iterate operator rightHandSide earlier).residual ≠ 0) :
    Conjugate operator rightHandSide steps :=
  conjugate_of_positive positive.isSymmetric steps fun earlier before =>
    curvature_residual_pos positive consistent (nonzero earlier before)

theorem image_direction_ne_zero {steps : ℕ}
    (nonzero : ∀ earlier ≤ steps, (iterate operator rightHandSide earlier).residual ≠ 0) :
    operator (iterate operator rightHandSide steps).direction ≠ 0 := by
  have conjugate := conjugate_of_nonzero positive consistent
    fun earlier (before : earlier < steps) => nonzero earlier before.le
  exact conjugate.image_ne_zero positive.isSymmetric
    (curvature_residual_pos positive consistent (nonzero steps le_rfl))

/-- The images of the directions are independent, so there are no more of them than dimensions. -/
theorem steps_le_finrank [FiniteDimensional 𝕜 E] {space : Submodule 𝕜 E}
    (start : rightHandSide ∈ space) (invariant : ∀ vector ∈ space, operator vector ∈ space)
    {steps : ℕ}
    (nonzero : ∀ earlier < steps, (iterate operator rightHandSide earlier).residual ≠ 0) :
    steps ≤ Module.finrank 𝕜 space := by
  let image (index : Fin steps) : space :=
    ⟨operator (iterate operator rightHandSide index).direction,
      invariant _ (mem_of_invariant operator rightHandSide start invariant index).2.2⟩
  have conjugateAt : ∀ index ≤ steps, Conjugate operator rightHandSide index := by
    intro index within
    exact conjugate_of_nonzero positive consistent fun earlier before =>
      nonzero earlier (before.trans_le within)
  have independent : LinearIndependent 𝕜 image := by
    apply linearIndependent_of_ne_zero_of_inner_eq_zero
    · intro index zero
      exact (conjugateAt steps le_rfl).imageNonzero index index.isLt (congrArg Subtype.val zero)
    · intro left right different
      change inner 𝕜 (operator (iterate operator rightHandSide left).direction)
        (operator (iterate operator rightHandSide right).direction) = 0
      rcases lt_or_gt_of_ne different with before | after
      · exact (conjugateAt right right.isLt.le).images left before
      · rw [inner_eq_zero_symm]
        exact (conjugateAt left left.isLt.le).images right after
  simpa using independent.fintype_card_le_finrank

end ConjugateResidual.Method
