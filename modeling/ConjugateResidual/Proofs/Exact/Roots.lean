import Mathlib
import ConjugateResidual.Proofs.Exact.Quadratic

/-!
The answer to an equation in exact arithmetic. Every equation that is not degenerate and has real
roots is solved, the smaller root first, and no Newton step moves them. The only refusal is that of
a degenerate equation: no divisor is ever zero, in the Newton steps either.
-/

namespace ConjugateResidual.Quadratic

open Arithmetic

section AnyArithmetic

variable {R : Type} [Arithmetic R]

/-- Newton steps whose divisions are refused where the divisor is zero. -/
def refineChecked (equation : Quadratic R) : Nat → R → Except (Fault R) R
  | 0, point => .ok point
  | steps + 1, point =>
      if isZero (equation.slope point) then .ok point
      else do
        let change ← quotient (equation.valueAt point) (equation.slope point)
        equation.refineChecked steps (point - change)

/-- The Newton steps never divide by zero. -/
theorem refineChecked_eq (equation : Quadratic R) (steps : Nat) (point : R) :
    equation.refineChecked steps point = .ok (equation.refine steps point) := by
  induction steps generalizing point with
  | zero => rfl
  | succ steps ih =>
      unfold refineChecked refine
      by_cases flat : isZero (equation.slope point) = true
      · simp only [flat, if_true]
      · have divides := eq_false_of_ne_true flat
        simp only [divides, Bool.false_eq_true, if_false]
        rw [quotient_of_isZero_eq_false divides]
        exact ih _

end AnyArithmetic

variable (equation : Quadratic ℝ)

def Solves (point : ℝ) : Prop :=
  equation.quadratic * point ^ 2 + equation.linear * point + equation.constant = 0

/-- Neither a quadratic nor a linear term. -/
def Degenerate : Prop :=
  equation.quadratic = 0 ∧ equation.linear = 0

structure Solution (first second : ℝ) : Prop where
  sorted : first ≤ second
  solves_iff (point : ℝ) : equation.Solves point ↔ point = first ∨ point = second

variable {equation}

theorem solves_iff_valueAt (point : ℝ) : equation.Solves point ↔ equation.valueAt point = 0 := by
  rw [Solves, valueAt_real, pow_two, mul_assoc]

private theorem Factored.solution {first second : ℝ} (factored : equation.Factored first second)
    (quadratic : equation.quadratic ≠ 0) (sorted : first ≤ second) :
    equation.Solution first second := by
  constructor
  case sorted => exact sorted
  case solves_iff =>
    intro point
    rw [solves_iff_valueAt, factored point]
    simp [quadratic, sub_eq_zero]

private theorem Solution.unique {first second other another : ℝ}
    (solution : equation.Solution first second)
    (also : equation.Solution other another) : first = other ∧ second = another := by
  have swap := fun point => (solution.solves_iff point).symm.trans (also.solves_iff point)
  have firstIn := (swap first).mp (.inl rfl)
  have secondIn := (swap second).mp (.inr rfl)
  have otherIn := (swap other).mpr (.inl rfl)
  have anotherIn := (swap another).mpr (.inr rfl)
  have sorted := solution.sorted
  have alsoSorted := also.sorted
  grind

private theorem solution_linear (quadratic : equation.quadratic = 0)
    (linear : equation.linear ≠ 0) :
    equation.Solution (-equation.constant / equation.linear)
      (-equation.constant / equation.linear) := by
  constructor
  case sorted => exact le_rfl
  case solves_iff =>
    intro point
    rw [Solves, quadratic, zero_mul, zero_add, or_self, eq_div_iff linear, add_eq_zero_iff_eq_neg,
      mul_comm]

theorem roots_linear (refinements : ℕ) (quadratic : equation.quadratic = 0)
    (linear : equation.linear ≠ 0) :
    equation.roots refinements =
      .ok (-equation.constant / equation.linear, -equation.constant / equation.linear) := by
  unfold roots
  rw [if_pos ((isZero_real _).mpr quadratic),
    if_neg fun zero => linear ((isZero_real _).mp zero), quotient_of_ne_zero linear]
  rfl

private theorem roots_degenerate (refinements : ℕ) (degenerate : equation.Degenerate) :
    equation.roots refinements = .error .degenerateQuadratic := by
  unfold roots
  rw [if_pos ((isZero_real _).mpr degenerate.1), if_pos ((isZero_real _).mpr degenerate.2)]

private theorem roots_solution (refinements : ℕ) (proper : ¬ equation.Degenerate)
    (real : equation.quadratic = 0 ∨
      4 * equation.quadratic * equation.constant ≤ equation.linear ^ 2) :
    ∃ first second,
      equation.roots refinements = .ok (first, second) ∧ equation.Solution first second := by
  by_cases quadratic : equation.quadratic = 0
  · have linear : equation.linear ≠ 0 := fun zero => proper ⟨quadratic, zero⟩
    exact ⟨_, _, roots_linear refinements quadratic linear, solution_linear quadratic linear⟩
  · have bound := real.resolve_left quadratic
    have nonneg : 0 ≤ equation.discriminant := by
      rw [discriminant_real]
      linarith
    rcases roots_factored refinements quadratic nonneg with
      ⟨first, second, answer, sorted, factored⟩
    exact ⟨first, second, answer, factored.solution quadratic sorted⟩

/-- Every equation that is not degenerate is answered, whatever its discriminant. -/
theorem roots_answered (refinements : ℕ) (proper : ¬ equation.Degenerate) :
    ∃ pair, equation.roots refinements = .ok pair := by
  by_cases quadratic : equation.quadratic = 0
  · have linear : equation.linear ≠ 0 := fun zero => proper ⟨quadratic, zero⟩
    exact ⟨_, roots_linear refinements quadratic linear⟩
  · apply equation.roots_ok
    exact eq_false_of_ne_true fun zero => quadratic ((isZero_real _).mp zero)

private theorem roots_eq_error_iff (refinements : ℕ) (fault : Fault ℝ) :
    equation.roots refinements = .error fault ↔
      fault = .degenerateQuadratic ∧ equation.Degenerate := by
  constructor
  · intro refused
    by_cases degenerate : equation.Degenerate
    · rw [roots_degenerate refinements degenerate] at refused
      exact ⟨(Except.error.inj refused).symm, degenerate⟩
    · rcases roots_answered refinements degenerate with ⟨pair, answer⟩
      rw [answer] at refused
      cases refused
  · rintro ⟨rfl, degenerate⟩
    exact roots_degenerate refinements degenerate

/-- An equation with real roots is solved, and with any number of Newton steps it has the answer
that it has without them; only a degenerate equation is refused, and every Newton step has a
divisor. -/
theorem roots_exact (equation : Quadratic ℝ) (refinements : ℕ) :
    (¬ equation.Degenerate →
      (equation.quadratic = 0 ∨
        4 * equation.quadratic * equation.constant ≤ equation.linear ^ 2) →
      ∃ first second,
        equation.roots refinements = .ok (first, second) ∧
          equation.Solution first second ∧
          equation.roots 0 = .ok (first, second)) ∧
    (∀ fault, equation.roots refinements = .error fault ↔
      fault = .degenerateQuadratic ∧ equation.Degenerate) ∧
    (∀ point, equation.refineChecked refinements point =
      .ok (equation.refine refinements point)) := by
  refine ⟨?_, roots_eq_error_iff refinements, equation.refineChecked_eq refinements⟩
  intro proper real
  rcases roots_solution refinements proper real with ⟨first, second, answer, solution⟩
  rcases roots_solution 0 proper real with ⟨other, another, unrefined, also⟩
  rcases solution.unique also with ⟨rfl, rfl⟩
  exact ⟨first, second, answer, solution, unrefined⟩

/-- The equation `t ^ 2 - 3 * t + 2 = 0`. -/
theorem roots_exact_one_two :
    ∃ first second,
      roots 1 (⟨1, -3, 2⟩ : Quadratic ℝ) = .ok (first, second) ∧
        Solution (⟨1, -3, 2⟩ : Quadratic ℝ) first second ∧
        roots 0 (⟨1, -3, 2⟩ : Quadratic ℝ) = .ok (first, second) := by
  apply (roots_exact ⟨1, -3, 2⟩ 1).1
  · rintro ⟨quadratic, -⟩
    exact one_ne_zero quadratic
  · right
    norm_num

end ConjugateResidual.Quadratic
