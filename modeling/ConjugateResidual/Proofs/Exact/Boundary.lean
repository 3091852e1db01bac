import Mathlib
import ConjugateResidual.TrustRegion
import ConjugateResidual.Proofs.Exact.Quadratic

/-!
Steps to the sphere in exact arithmetic. From inside the ball the step to the boundary is the one
length at which the line leaves the ball: shorter steps stay inside and longer ones do not.
-/

namespace ConjugateResidual.TrustRegion

open Arithmetic

variable {𝕜 : Type} [RCLike 𝕜] {size : ℕ}
variable {point direction : EuclideanSpace 𝕜 (Fin size)} {radius : ℝ}

theorem norm_add_smul_sq (point direction : EuclideanSpace 𝕜 (Fin size)) (step : ℝ) :
    ‖point + (step : 𝕜) • direction‖ ^ 2 =
      ‖direction‖ ^ 2 * step * step + 2 * RCLike.re (inner 𝕜 point direction) * step +
        ‖point‖ ^ 2 := by
  rw [norm_add_sq (𝕜 := 𝕜), inner_smul_right, norm_smul, RCLike.re_ofReal_mul, RCLike.norm_ofReal,
    mul_pow, sq_abs]
  ring

def Known (known : Option ℝ) (vector : EuclideanSpace 𝕜 (Fin size)) : Prop :=
  ∀ value ∈ known, value = ‖vector‖ ^ 2

private theorem squaredNorm_exact {known : Option ℝ} {vector : EuclideanSpace 𝕜 (Fin size)}
    (correct : Known known vector) : squaredNorm known vector = .ok (‖vector‖ ^ 2) := by
  cases known with
  | none => exact VectorArithmetic.dot_self_exact vector
  | some value =>
      rw [← correct value rfl]
      rfl

/-- The two step lengths factor the distance of the squared norm from the squared radius. -/
theorem crossings_factored (positive : 0 < radius) (within : ‖point‖ ≤ radius)
    (nonzero : direction ≠ 0) {knownPoint knownDirection : Option ℝ}
    (truePoint : Known knownPoint point) (trueDirection : Known knownDirection direction) :
    ∃ first second,
      crossings point direction radius knownPoint knownDirection = .ok (first, second) ∧
        first ≤ second ∧
        ∀ step : ℝ, ‖point + (step : 𝕜) • direction‖ ^ 2 - radius ^ 2 =
          ‖direction‖ ^ 2 * (step - first) * (step - second) := by
  have square : ‖direction‖ ^ 2 ≠ 0 := pow_ne_zero 2 (norm_ne_zero_iff.mpr nonzero)
  let equation : Quadratic ℝ :=
    { quadratic := ‖direction‖ ^ 2
      linear := two * RCLike.re (inner 𝕜 point direction)
      constant := ‖point‖ ^ 2 - radius * radius }
  have real : 0 ≤ equation.discriminant := by
    rw [Quadratic.discriminant_real]
    have bound : ‖point‖ ^ 2 ≤ radius * radius := by
      rw [← pow_two]
      exact pow_le_pow_left₀ (norm_nonneg point) within 2
    have product := mul_nonneg (sq_nonneg ‖direction‖) (sub_nonneg.mpr bound)
    have linear := mul_self_nonneg equation.linear
    change 0 ≤ equation.linear * equation.linear -
      4 * ‖direction‖ ^ 2 * (‖point‖ ^ 2 - radius * radius)
    linarith
  obtain ⟨first, second, answer, sorted, factored⟩ := Quadratic.roots_factored 1 square real
  refine ⟨first, second, ?_, sorted, ?_⟩
  · unfold crossings
    rw [if_neg fun found => not_le.mpr positive ((le_real radius 0).mp found),
      VectorArithmetic.dot_exact, squaredNorm_exact trueDirection, squaredNorm_exact truePoint]
    change (if isZero (‖direction‖ ^ 2) = true then _ else equation.roots 1) = _
    rw [if_neg fun found => square ((isZero_real _).mp found), answer]
  · intro step
    rw [norm_add_smul_sq, ← factored step, Quadratic.valueAt_real]
    change _ = ‖direction‖ ^ 2 * step * step + two * RCLike.re (inner 𝕜 point direction) * step +
      (‖point‖ ^ 2 - radius * radius)
    rw [two_real]
    ring

structure LeavesAt (point direction : EuclideanSpace 𝕜 (Fin size)) (radius bound : ℝ) : Prop where
  positive : 0 < bound
  onSphere : ‖point + (bound : 𝕜) • direction‖ = radius
  inside : ∀ step : ℝ, 0 ≤ step → step < bound → ‖point + (step : 𝕜) • direction‖ < radius
  outside : ∀ step : ℝ, bound ≤ step → radius ≤ ‖point + (step : 𝕜) • direction‖

theorem LeavesAt.within {bound step : ℝ} (leaves : LeavesAt point direction radius bound)
    (nonneg : 0 ≤ step) (short : step ≤ bound) : ‖point + (step : 𝕜) • direction‖ ≤ radius := by
  rcases short.lt_or_eq with shorter | same
  · exact (leaves.inside step nonneg shorter).le
  · rw [same]
    exact leaves.onSphere.le

/-- From inside the ball no longer step ends in it. -/
theorem LeavesAt.le_of_within {bound step : ℝ} (leaves : LeavesAt point direction radius bound)
    (inside : ‖point‖ < radius) (within : ‖point + (step : 𝕜) • direction‖ ≤ radius) :
    step ≤ bound := by
  by_contra! long
  have positive : 0 < step := leaves.positive.trans long
  -- Where the line leaves the ball is a mean of the two ends.
  have share : bound / step < 1 := (div_lt_one positive).mpr long
  have mean : point + (bound : 𝕜) • direction =
      ((1 - bound / step : ℝ) : 𝕜) • point +
        ((bound / step : ℝ) : 𝕜) • (point + (step : 𝕜) • direction) := by
    rw [smul_add, smul_smul, ← RCLike.ofReal_mul, div_mul_cancel₀ _ positive.ne', ← add_assoc,
      ← add_smul, ← RCLike.ofReal_add, sub_add_cancel, RCLike.ofReal_one, one_smul]
  have short : ‖point + (bound : 𝕜) • direction‖ < radius := by
    calc
      ‖point + (bound : 𝕜) • direction‖
          ≤ (1 - bound / step) * ‖point‖ +
            bound / step * ‖point + (step : 𝕜) • direction‖ := by
        rw [mean]
        apply (norm_add_le _ _).trans_eq
        rw [norm_smul, norm_smul, RCLike.norm_ofReal, RCLike.norm_ofReal,
          abs_of_pos (sub_pos.mpr share), abs_of_pos (div_pos leaves.positive positive)]
      _ < (1 - bound / step) * radius + bound / step * radius :=
        add_lt_add_of_lt_of_le (mul_lt_mul_of_pos_left inside (sub_pos.mpr share))
          (mul_le_mul_of_nonneg_left within (div_pos leaves.positive positive).le)
      _ = radius := by ring
  exact short.ne leaves.onSphere

theorem stepToBoundary_leavesAt (inside : ‖point‖ < radius) (nonzero : direction ≠ 0) :
    ∃ bound, stepToBoundary point direction radius (‖direction‖ * ‖direction‖) = .ok bound ∧
      LeavesAt point direction radius bound := by
  have positive : 0 < radius := (norm_nonneg point).trans_lt inside
  have square : 0 < ‖direction‖ ^ 2 := pow_pos (norm_pos_iff.mpr nonzero) 2
  have known : Known (some (‖direction‖ * ‖direction‖)) direction := by
    intro value found
    cases found
    exact (pow_two _).symm
  obtain ⟨first, second, answer, sorted, factored⟩ :=
    crossings_factored positive inside.le nonzero
      (fun value found => absurd found (Option.not_mem_none value)) known
  -- At the point itself the product of the roots has the sign of the constant term.
  have atPoint := factored 0
  rw [RCLike.ofReal_zero, zero_smul, add_zero, zero_sub, zero_sub] at atPoint
  have below : ‖point‖ ^ 2 - radius ^ 2 < 0 :=
    sub_neg.mpr (pow_lt_pow_left₀ inside (norm_nonneg point) two_ne_zero)
  have product : first * second < 0 := by
    by_contra nonneg
    have := mul_nonneg square.le (not_lt.mp nonneg)
    linarith
  have signs : first < 0 ∧ 0 < second := by
    rcases mul_neg_iff.mp product with ⟨firstPos, secondNeg⟩ | signs
    · exact absurd (firstPos.trans_le (sorted.trans secondNeg.le)) (lt_irrefl 0)
    · exact signs
  refine ⟨second, ?_, signs.2, ?_, ?_, ?_⟩
  · unfold stepToBoundary
    rw [answer]
    change Except.ok (larger first second) = _
    rw [larger_real, max_eq_right sorted]
  · have onSphere := factored second
    rw [sub_self, mul_zero, sub_eq_zero] at onSphere
    exact (pow_left_inj₀ (norm_nonneg _) positive.le two_ne_zero).mp onSphere
  · intro step nonneg short
    have sign : ‖direction‖ ^ 2 * (step - first) * (step - second) < 0 :=
      mul_neg_of_pos_of_neg (mul_pos square (by linarith)) (sub_neg.mpr short)
    rw [← factored step, sub_neg] at sign
    exact lt_of_pow_lt_pow_left₀ 2 positive.le sign
  · intro step long
    have sign : 0 ≤ ‖direction‖ ^ 2 * (step - first) * (step - second) :=
      mul_nonneg (mul_nonneg square.le (by linarith)) (sub_nonneg.mpr long)
    rw [← factored step, sub_nonneg] at sign
    exact le_of_sq_le_sq sign (norm_nonneg _)

end ConjugateResidual.TrustRegion
