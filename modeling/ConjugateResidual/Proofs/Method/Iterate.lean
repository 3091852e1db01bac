import Mathlib

/-!
The conjugate residual method for `operator x = rightHandSide` in exact arithmetic, over a real or
complex inner product space: iterates as pure values, with no stopping test and no stored images.
A quotient with a zero divisor is zero here.
-/

namespace ConjugateResidual.Method

variable {𝕜 E : Type} [RCLike 𝕜] [NormedAddCommGroup E] [InnerProductSpace 𝕜 E]

structure Iterate (E : Type) where
  solution : E
  residual : E
  direction : E

noncomputable def curvature (operator : E →ₗ[𝕜] E) (vector : E) : ℝ :=
  RCLike.re (inner 𝕜 vector (operator vector))

namespace Iterate

variable (operator : E →ₗ[𝕜] E) (current : Iterate E)

def first (rightHandSide : E) : Iterate E :=
  { solution := 0, residual := rightHandSide, direction := rightHandSide }

/-- The step that makes the next residual shortest. -/
noncomputable def step : ℝ :=
  curvature operator current.residual / ‖operator current.direction‖ ^ 2

noncomputable def nextSolution : E :=
  current.solution + (current.step operator : 𝕜) • current.direction

noncomputable def nextResidual : E :=
  current.residual - (current.step operator : 𝕜) • operator current.direction

noncomputable def ratio : ℝ :=
  curvature operator (current.nextResidual operator) / curvature operator current.residual

noncomputable def next : Iterate E :=
  { solution := current.nextSolution operator
    residual := current.nextResidual operator
    direction :=
      current.nextResidual operator + (current.ratio operator : 𝕜) • current.direction }

/-- The length of a last step along the residual, if there is curvature along it. -/
noncomputable def descent : ℝ :=
  if 0 < curvature operator current.residual then
    ‖current.residual‖ * ‖current.residual‖ / curvature operator current.residual
  else 0

noncomputable def finish : Iterate E :=
  { current with
    solution := current.solution + (current.descent operator : 𝕜) • current.residual
    residual := current.residual - (current.descent operator : 𝕜) • operator current.residual }

end Iterate

noncomputable def iterate (operator : E →ₗ[𝕜] E) (rightHandSide : E) : ℕ → Iterate E
  | 0 => .first rightHandSide
  | steps + 1 => (iterate operator rightHandSide steps).next operator

section

variable (operator : E →ₗ[𝕜] E) (rightHandSide : E)

theorem iterate_succ (steps : ℕ) :
    iterate operator rightHandSide (steps + 1) =
      (iterate operator rightHandSide steps).next operator :=
  rfl

theorem residual_eq_sub (steps : ℕ) :
    (iterate operator rightHandSide steps).residual =
      rightHandSide - operator (iterate operator rightHandSide steps).solution := by
  induction steps with
  | zero =>
      change rightHandSide = rightHandSide - operator 0
      rw [map_zero, sub_zero]
  | succ steps ih =>
      rw [iterate_succ]
      simp only [Iterate.next, Iterate.nextSolution, Iterate.nextResidual, map_add, map_smul]
      rw [ih]
      abel

theorem image_succ (steps : ℕ) :
    operator (iterate operator rightHandSide (steps + 1)).direction =
      operator (iterate operator rightHandSide (steps + 1)).residual +
        ((iterate operator rightHandSide steps).ratio operator : 𝕜) •
          operator (iterate operator rightHandSide steps).direction := by
  rw [iterate_succ]
  simp only [Iterate.next, map_add, map_smul]

/-- All vectors of the method stay in a subspace that holds the right-hand side and is mapped into
itself. -/
theorem mem_of_invariant {space : Submodule 𝕜 E} (start : rightHandSide ∈ space)
    (invariant : ∀ vector ∈ space, operator vector ∈ space) (steps : ℕ) :
    (iterate operator rightHandSide steps).solution ∈ space ∧
      (iterate operator rightHandSide steps).residual ∈ space ∧
      (iterate operator rightHandSide steps).direction ∈ space := by
  induction steps with
  | zero => exact ⟨space.zero_mem, start, start⟩
  | succ steps ih =>
      obtain ⟨solution, residual, direction⟩ := ih
      have nextResidual :
          (iterate operator rightHandSide steps).nextResidual operator ∈ space :=
        space.sub_mem residual (space.smul_mem _ (invariant _ direction))
      exact ⟨space.add_mem solution (space.smul_mem _ direction), nextResidual,
        space.add_mem nextResidual (space.smul_mem _ direction)⟩

end

end ConjugateResidual.Method
