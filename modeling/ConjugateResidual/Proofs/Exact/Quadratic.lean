import Mathlib
import ConjugateResidual.Quadratic
import ConjugateResidual.Proofs.Exact.Arithmetic

/-!
Roots of a quadratic in exact arithmetic. When the discriminant is not negative the answer factors
the equation: the Newton steps leave exact roots alone, and no quotient has a zero divisor.
-/

namespace ConjugateResidual.Quadratic

open Arithmetic

variable (equation : Quadratic ℝ)

theorem discriminant_real :
    equation.discriminant =
      equation.linear * equation.linear - 4 * equation.quadratic * equation.constant := by
  unfold discriminant
  rw [four_real]

theorem valueAt_real (point : ℝ) :
    equation.valueAt point =
      equation.quadratic * point * point + equation.linear * point + equation.constant :=
  rfl

private theorem refine_of_root (steps : ℕ) {point : ℝ} (root : equation.valueAt point = 0) :
    equation.refine steps point = point := by
  induction steps with
  | zero => rfl
  | succ steps ih =>
      unfold refine
      by_cases flat : isZero (equation.slope point) = true
      · simp only [if_pos flat]
      · simp only [if_neg flat, root, zero_div, sub_zero]
        exact ih

def Factored (first second : ℝ) : Prop :=
  ∀ point,
    equation.valueAt point = equation.quadratic * (point - first) * (point - second)

variable {equation}

theorem Factored.swap {first second : ℝ} (factored : equation.Factored first second) :
    equation.Factored second first := by
  intro point
  rw [factored point]
  ring

private theorem Factored.valueAt_first {first second : ℝ}
    (factored : equation.Factored first second) :
    equation.valueAt first = 0 := by
  rw [factored first]
  ring

private theorem ordered_cases (first second : ℝ) :
    (first ≤ second ∧ ordered (first, second) = (first, second)) ∨
      (second ≤ first ∧ ordered (first, second) = (second, first)) := by
  unfold ordered
  by_cases less : first ≤ second
  · exact .inl ⟨less, if_pos ((le_real first second).mpr less)⟩
  · exact .inr ⟨(not_le.mp less).le, if_neg fun found => less ((le_real first second).mp found)⟩

private theorem factored_ordered {first second : ℝ} (factored : equation.Factored first second) :
    (ordered (first, second)).1 ≤ (ordered (first, second)).2 ∧
      equation.Factored (ordered (first, second)).1 (ordered (first, second)).2 := by
  rcases ordered_cases first second with ⟨less, same⟩ | ⟨less, same⟩
  · rw [same]
    exact ⟨less, factored⟩
  · rw [same]
    exact ⟨less, factored.swap⟩

/-- The pivot is a root of the companion equation, whose roots are the products of the leading
coefficient and the roots. -/
private theorem pivot_companion (real : 0 ≤ equation.discriminant) :
    equation.pivot * equation.pivot + equation.linear * equation.pivot +
      equation.quadratic * equation.constant = 0 := by
  have square := (Real.mul_self_sqrt real).trans equation.discriminant_real
  unfold pivot
  simp only [larger_real, half_real, copySign_real, sqrt_real, max_eq_left real,
    abs_of_nonneg (Real.sqrt_nonneg equation.discriminant)]
  split
  · linear_combination (1 / 4) * square
  · linear_combination (1 / 4) * square

private theorem pivot_ne_zero (real : 0 ≤ equation.discriminant)
    (quadratic : equation.quadratic ≠ 0) (constant : equation.constant ≠ 0) :
    equation.pivot ≠ 0 := by
  intro zero
  have companion := pivot_companion real
  rw [zero, mul_zero, mul_zero, zero_add, zero_add] at companion
  exact (mul_ne_zero quadratic constant) companion

private theorem factored_rawRoots (real : 0 ≤ equation.discriminant)
    (quadratic : equation.quadratic ≠ 0) (constant : equation.constant ≠ 0) :
    ∃ first second, equation.rawRoots = .ok (first, second) ∧ equation.Factored first second := by
  have nonzero := pivot_ne_zero real quadratic constant
  refine ⟨equation.pivot / equation.quadratic, equation.constant / equation.pivot, ?_, ?_⟩
  · unfold rawRoots
    rw [if_neg fun zero => nonzero ((isZero_real _).mp zero), quotient_of_ne_zero quadratic,
      quotient_of_ne_zero nonzero]
    rfl
  · intro point
    have companion := pivot_companion real
    rw [valueAt_real]
    field_simp
    linear_combination point * companion

theorem roots_factored (refinements : ℕ) (quadratic : equation.quadratic ≠ 0)
    (real : 0 ≤ equation.discriminant) :
    ∃ first second, equation.roots refinements = .ok (first, second) ∧ first ≤ second ∧
      equation.Factored first second := by
  have notZero : ¬isZero equation.quadratic = true :=
    fun zero => quadratic ((isZero_real _).mp zero)
  unfold roots
  rw [if_neg notZero]
  by_cases constant : equation.constant = 0
  · rw [if_pos ((isZero_real _).mpr constant), quotient_of_ne_zero quadratic]
    have factored : equation.Factored 0 (-equation.linear / equation.quadratic) := by
      intro point
      rw [valueAt_real, constant]
      field_simp
      ring
    obtain ⟨sorted, kept⟩ := factored_ordered factored
    exact ⟨_, _, rfl, sorted, kept⟩
  · rw [if_neg fun zero => constant ((isZero_real _).mp zero)]
    obtain ⟨first, second, raw, factored⟩ := factored_rawRoots real quadratic constant
    obtain ⟨sorted, kept⟩ := factored_ordered factored
    refine ⟨_, _, ?_, sorted, kept⟩
    rw [raw]
    change Except.ok
      (ordered (equation.refine refinements first, equation.refine refinements second)) = _
    rw [equation.refine_of_root refinements factored.valueAt_first,
      equation.refine_of_root refinements factored.swap.valueAt_first]

end ConjugateResidual.Quadratic
