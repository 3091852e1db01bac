import Mathlib
import ConjugateResidual.Proofs.Exact.Quadratic

/-!
The answer to an equation with a negative discriminant, in exact arithmetic. One root is the double
root of the clamped equation, the center of the parabola. The other is the constant over the pivot,
which is not the center unless the linear term is zero, and every Newton step takes it along the
parabola, which has no root: measured from the center, in units of the square root of the defect, it
is the cotangent of an angle that each step doubles.
-/

namespace ConjugateResidual.Quadratic

open Arithmetic

/-- Halving the difference from the inverse doubles the angle, at the poles too, where the cotangent
reads as zero. -/
private theorem cot_double (angle : ℝ) :
    Real.cot (2 * angle) = (Real.cot angle - (Real.cot angle)⁻¹) / 2 := by
  rw [Real.cot_eq_cos_div_sin, Real.cot_eq_cos_div_sin, Real.sin_two_mul, Real.cos_two_mul']
  by_cases sine : Real.sin angle = 0
  · simp [sine]
  · by_cases cosine : Real.cos angle = 0
    · simp [cosine]
    · field_simp

private theorem cot_arctan (value : ℝ) : Real.cot (Real.arctan value) = value⁻¹ := by
  have root : Real.sqrt (1 + value ^ 2) ≠ 0 := Real.sqrt_ne_zero'.mpr (by positivity)
  rw [Real.cot_eq_cos_div_sin, Real.cos_arctan, Real.sin_arctan]
  by_cases zero : value = 0
  · simp [zero]
  · field_simp

/-- The sine of a doubled angle is zero where the sine was, or where a cosine was on the way. -/
private theorem sin_pow_two_mul_eq_zero_iff (angle : ℝ) (steps : ℕ) :
    Real.sin (2 ^ steps * angle) = 0 ↔
      Real.sin angle = 0 ∨ ∃ earlier < steps, Real.cos (2 ^ earlier * angle) = 0 := by
  induction steps with
  | zero => simp
  | succ steps ih =>
      rw [pow_succ', mul_assoc, Real.sin_two_mul]
      simp only [mul_eq_zero, two_ne_zero, false_or, ih, Nat.lt_succ_iff_lt_or_eq, or_and_right,
        exists_or, exists_eq_left, or_assoc]

private theorem cot_pow_two_mul_eq_zero_iff (angle : ℝ) (steps : ℕ) :
    Real.cot (2 ^ steps * angle) = 0 ↔
      Real.sin angle = 0 ∨ ∃ earlier ≤ steps, Real.cos (2 ^ earlier * angle) = 0 := by
  rw [Real.cot_eq_cos_div_sin, div_eq_zero_iff, sin_pow_two_mul_eq_zero_iff, or_left_comm]
  simp only [Nat.le_iff_lt_or_eq, or_and_right, exists_or, exists_eq_left, or_comm]

variable (equation : Quadratic ℝ)

noncomputable def center : ℝ :=
  -equation.linear / (2 • equation.quadratic)

noncomputable def defect : ℝ :=
  equation.constant / equation.quadratic - equation.center ^ 2

/-- The angle under which the center is seen. -/
noncomputable def angle : ℝ :=
  Real.arctan (equation.center / Real.sqrt equation.defect)

noncomputable def drifted (steps : ℕ) : ℝ :=
  equation.center + Real.sqrt equation.defect * Real.cot (2 ^ steps • equation.angle)

structure Missing : Prop where
  quadratic : equation.quadratic ≠ 0
  below : equation.linear ^ 2 < 4 * equation.quadratic * equation.constant

variable {equation}

theorem center_eq : equation.center = -equation.linear / (2 * equation.quadratic) := by
  rw [center, nsmul_eq_mul, Nat.cast_ofNat]

theorem drifted_eq (steps : ℕ) : equation.drifted steps =
    equation.center + Real.sqrt equation.defect * Real.cot (2 ^ steps * equation.angle) := by
  rw [drifted, nsmul_eq_mul, Nat.cast_pow, Nat.cast_ofNat]

private theorem ordered_eq_iff (first second value : ℝ) :
    ordered (first, second) = (value, value) ↔ first = value ∧ second = value := by
  unfold ordered
  by_cases less : le first second = true
  · rw [if_pos less, Prod.mk.injEq]
  · rw [if_neg less, Prod.mk.injEq, and_comm]

/-- The real quotient by a zero slope is zero, so a step that is not made moves nothing. -/
theorem refine_succ (steps : ℕ) (point : ℝ) :
    equation.refine (steps + 1) point =
      equation.refine steps (point - equation.valueAt point / equation.slope point) := by
  by_cases flat : equation.slope point = 0
  · have stays := (isZero_real _).mpr flat
    rw [flat, div_zero, sub_zero]
    cases steps with
    | zero => simp only [refine, if_pos stays]
    | succ steps => simp only [refine, if_pos stays]
  · have moves : ¬ isZero (equation.slope point) = true :=
      fun zero => flat ((isZero_real _).mp zero)
    simp only [refine, if_neg moves]

namespace Missing

variable (missing : equation.Missing)
include missing

private theorem slope_center_add (offset : ℝ) :
    equation.slope (equation.center + offset) = 2 * equation.quadratic * offset := by
  have quadratic := missing.quadratic
  unfold slope
  rw [two_real, center_eq]
  field_simp
  ring

private theorem valueAt_center_add (offset : ℝ) :
    equation.valueAt (equation.center + offset) =
      equation.quadratic * (offset ^ 2 + equation.defect) := by
  have quadratic := missing.quadratic
  rw [valueAt_real, defect, center_eq]
  field_simp
  ring

private theorem constant_ne_zero : equation.constant ≠ 0 := by
  intro zero
  have below := missing.below
  rw [zero, mul_zero] at below
  exact absurd (sq_nonneg equation.linear) (not_le.mpr below)

theorem defect_pos : 0 < equation.defect := by
  have quadratic := missing.quadratic
  have square : 0 < 4 * equation.quadratic ^ 2 := by positivity
  have product : 4 * equation.quadratic ^ 2 * equation.defect =
      4 * equation.quadratic * equation.constant - equation.linear ^ 2 := by
    rw [defect, center_eq]
    field_simp
    ring
  apply pos_of_mul_pos_right _ square.le
  rw [product]
  exact sub_pos.mpr missing.below

private theorem sqrt_defect_pos : 0 < Real.sqrt equation.defect :=
  Real.sqrt_pos.mpr missing.defect_pos

theorem center_eq_zero_iff : equation.center = 0 ↔ equation.linear = 0 := by
  have quadratic := missing.quadratic
  simp [center_eq, quadratic]

/-- One Newton step doubles the angle. At the center, where the slope is zero, the quotient reads as
zero. -/
theorem newton_cot (offset : ℝ) :
    equation.center + Real.sqrt equation.defect * Real.cot offset -
        equation.valueAt (equation.center + Real.sqrt equation.defect * Real.cot offset) /
          equation.slope (equation.center + Real.sqrt equation.defect * Real.cot offset) =
      equation.center + Real.sqrt equation.defect * Real.cot (2 * offset) := by
  have quadratic := missing.quadratic
  have root := missing.sqrt_defect_pos.ne'
  have square := Real.sq_sqrt missing.defect_pos.le
  rw [missing.valueAt_center_add, missing.slope_center_add, cot_double]
  by_cases flat : Real.cot offset = 0
  · simp [flat]
  · generalize Real.sqrt equation.defect = length at *
    rw [← square]
    field_simp
    ring

private theorem refine_cot (steps : ℕ) (offset : ℝ) :
    equation.refine steps (equation.center + Real.sqrt equation.defect * Real.cot offset) =
      equation.center + Real.sqrt equation.defect * Real.cot (2 ^ steps * offset) := by
  induction steps generalizing offset with
  | zero => rw [pow_zero, one_mul, refine]
  | succ steps ih => rw [refine_succ, missing.newton_cot, ih, pow_succ, mul_assoc]

private theorem refine_center (steps : ℕ) :
    equation.refine steps equation.center = equation.center := by
  have kept := missing.refine_cot steps 0
  simpa [Real.cot_eq_cos_div_sin] using kept

private theorem refine_drifted (steps : ℕ) : equation.refine steps (equation.drifted 0) =
    equation.drifted steps := by
  rw [drifted_eq, drifted_eq, pow_zero, one_mul, missing.refine_cot]

private theorem cot_angle :
    Real.sqrt equation.defect * Real.cot equation.angle = equation.defect / equation.center := by
  rw [angle, cot_arctan, inv_div, mul_div_assoc', Real.mul_self_sqrt missing.defect_pos.le]

/-- The angle starts at the constant over the pivot. -/
theorem drifted_zero (linear : equation.linear ≠ 0) :
    equation.drifted 0 = -(2 * equation.constant) / equation.linear := by
  have quadratic := missing.quadratic
  rw [drifted_eq, pow_zero, one_mul, missing.cot_angle, defect, center_eq]
  field_simp
  ring

/-- The first Newton step halves it. -/
theorem drifted_one (linear : equation.linear ≠ 0) :
    equation.drifted 1 = -equation.constant / equation.linear := by
  have quadratic := missing.quadratic
  have positive := missing.defect_pos.ne'
  have center : equation.center ≠ 0 := fun zero => linear (missing.center_eq_zero_iff.mp zero)
  have start := missing.drifted_zero linear
  rw [drifted_eq, pow_zero, one_mul, missing.cot_angle] at start
  rw [drifted_eq, pow_one, ← missing.newton_cot, missing.cot_angle, missing.valueAt_center_add,
    missing.slope_center_add, start]
  have change :
      equation.quadratic * ((equation.defect / equation.center) ^ 2 + equation.defect) /
          (2 * equation.quadratic * (equation.defect / equation.center)) =
        (equation.center + equation.defect / equation.center) / 2 := by
    field_simp
    ring
  rw [change, start]
  ring

private theorem pivot_eq : equation.pivot = -(equation.linear / 2) := by
  have below : equation.discriminant ≤ 0 := by
    rw [discriminant_real]
    linarith [missing.below]
  unfold pivot
  simp only [larger_real, max_eq_right below, sqrt_real, Real.sqrt_zero, copySign_real, half_real,
    abs_zero, neg_zero, ite_self]
  ring

private theorem rawRoots_eq : equation.rawRoots = .ok (equation.center, equation.drifted 0) := by
  unfold rawRoots
  by_cases linear : equation.linear = 0
  · have flat : equation.pivot = 0 := by simp [missing.pivot_eq, linear]
    have center := missing.center_eq_zero_iff.mpr linear
    have other : equation.drifted 0 = 0 := by
      simp [drifted_eq, angle, center, Real.cot_eq_cos_div_sin]
    rw [if_pos ((isZero_real _).mpr flat), center, other]
  · have steep : equation.pivot ≠ 0 := by simp [missing.pivot_eq, linear]
    rw [if_neg fun zero => steep ((isZero_real _).mp zero),
      quotient_of_ne_zero missing.quadratic, quotient_of_ne_zero steep,
      missing.drifted_zero linear, missing.pivot_eq]
    change Except.ok (_, _) = _
    rw [center_eq]
    have quadratic := missing.quadratic
    congr 2
    · field_simp
    · field_simp

theorem roots_eq (refinements : ℕ) :
    equation.roots refinements =
      .ok (ordered (equation.center, equation.drifted refinements)) := by
  unfold roots
  rw [if_neg fun zero => missing.quadratic ((isZero_real _).mp zero),
    if_neg fun zero => missing.constant_ne_zero ((isZero_real _).mp zero), missing.rawRoots_eq]
  change Except.ok (ordered (equation.refine refinements equation.center,
    equation.refine refinements (equation.drifted 0))) = _
  rw [missing.refine_center, missing.refine_drifted]

/-- The second root is the center after some number of steps only: where the linear term is zero, or
where a step has come to the center. -/
theorem roots_eq_center_iff (refinements : ℕ) :
    equation.roots refinements = .ok (equation.center, equation.center) ↔
      equation.linear = 0 ∨
        ∃ earlier ≤ refinements, Real.cos (2 ^ earlier * equation.angle) = 0 := by
  have root := missing.sqrt_defect_pos.ne'
  have sine : Real.sin equation.angle = 0 ↔ equation.linear = 0 := by
    rw [angle, Real.sin_arctan_eq_zero, div_eq_zero_iff, or_iff_left root,
      missing.center_eq_zero_iff]
  rw [missing.roots_eq, Except.ok.injEq, ordered_eq_iff, drifted_eq, add_eq_left, mul_eq_zero,
    or_iff_right root, cot_pow_two_mul_eq_zero_iff, sine]
  exact and_iff_right rfl

end Missing

/-- Below zero the discriminant is not treated as zero throughout: the smaller root and the larger
one are the center, which is the double root of the clamped equation, and a point that drifts. Both
are the center only if the linear term is zero or a step has come to the center by chance. -/
theorem roots_clamped (missing : equation.Missing) (refinements : ℕ) :
    equation.roots refinements =
        .ok (ordered (equation.center, equation.drifted refinements)) ∧
      (equation.roots refinements = .ok (equation.center, equation.center) ↔
        equation.linear = 0 ∨
          ∃ earlier ≤ refinements, Real.cos (2 ^ earlier * equation.angle) = 0) ∧
      (equation.linear ≠ 0 →
        equation.drifted 0 = -(2 * equation.constant) / equation.linear ∧
          equation.drifted 1 = -equation.constant / equation.linear) := by
  refine ⟨missing.roots_eq refinements, missing.roots_eq_center_iff refinements, ?_⟩
  intro linear
  exact ⟨missing.drifted_zero linear, missing.drifted_one linear⟩

/-- A double root at minus one, missed by a millionth. -/
theorem missing_slightly : Missing (⟨1, 2, 1 + 1 / 2 ^ 20⟩ : Quadratic ℝ) := by
  constructor
  case quadratic => exact one_ne_zero
  case below => norm_num

theorem roots_clamped_slightly :
    Missing (⟨1, 2, 1 + 1 / 2 ^ 20⟩ : Quadratic ℝ) ∧
      drifted (⟨1, 2, 1 + 1 / 2 ^ 20⟩ : Quadratic ℝ) 1 = -(1 + 1 / 2 ^ 20) / 2 :=
  ⟨missing_slightly, ((roots_clamped missing_slightly 1).2.2 two_ne_zero).2⟩

/-- The clamped equation has the double root minus one; the answer has a root near minus one
half. -/
theorem roots_not_clamped :
    ¬ ∀ (equation : Quadratic ℝ) (refinements : ℕ), equation.quadratic ≠ 0 →
      equation.linear ^ 2 < 4 * equation.quadratic * equation.constant →
      equation.roots refinements =
        .ok (-equation.linear / (2 * equation.quadratic),
          -equation.linear / (2 * equation.quadratic)) := by
  intro clamped
  have double := clamped _ 1 missing_slightly.quadratic missing_slightly.below
  rw [missing_slightly.roots_eq, Except.ok.injEq, ordered_eq_iff,
    missing_slightly.drifted_one two_ne_zero] at double
  norm_num at double

end ConjugateResidual.Quadratic
