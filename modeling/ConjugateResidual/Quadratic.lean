import ConjugateResidual.Arithmetic

/-!
Real roots of a quadratic, the smaller first. The first root of a general equation avoids
cancellation by the sign of the linear coefficient, the second is the constant over the first
one's numerator; each is then improved by Newton steps. A negative discriminant counts as zero.
-/

namespace ConjugateResidual

open Arithmetic

/-- The equation `quadratic * t ^ 2 + linear * t + constant = 0`. -/
structure Quadratic (R : Type) where
  quadratic : R
  linear : R
  constant : R

namespace Quadratic

variable {R : Type} [Arithmetic R]

def discriminant (equation : Quadratic R) : R :=
  equation.linear * equation.linear - four * equation.quadratic * equation.constant

def slope (equation : Quadratic R) (point : R) : R :=
  two * equation.quadratic * point + equation.linear

def valueAt (equation : Quadratic R) (point : R) : R :=
  equation.quadratic * point * point + equation.linear * point + equation.constant

/-- Newton steps from a point. They end early where the slope is zero. -/
def refine (equation : Quadratic R) : Nat → R → R
  | 0, point => point
  | steps + 1, point =>
      let slope := equation.slope point
      if isZero slope then point
      else equation.refine steps (point - equation.valueAt point / slope)

def ordered (pair : R × R) : R × R :=
  if le pair.1 pair.2 then pair else (pair.2, pair.1)

def pivot (equation : Quadratic R) : R :=
  let root := sqrt (larger equation.discriminant 0)
  (-half) * (equation.linear + copySign root equation.linear)

/-- Both roots before they are refined and ordered; an equation with a zero pivot has the double
root zero. -/
def rawRoots (equation : Quadratic R) : Except (Fault R) (R × R) :=
  let pivot := equation.pivot
  if isZero pivot then .ok (0, 0)
  else do
    let first ← quotient pivot equation.quadratic
    let second ← quotient equation.constant pivot
    .ok (first, second)

def roots (refinements : Nat) (equation : Quadratic R) : Except (Fault R) (R × R) :=
  if isZero equation.quadratic then
    if isZero equation.linear then .error .degenerateQuadratic
    else do
      let root ← quotient (-equation.constant) equation.linear
      .ok (root, root)
  else if isZero equation.constant then do
    let other ← quotient (-equation.linear) equation.quadratic
    .ok (ordered (0, other))
  else do
    let (first, second) ← equation.rawRoots
    .ok (ordered (equation.refine refinements first, equation.refine refinements second))

section Answers

variable (equation : Quadratic R) (quadratic : isZero equation.quadratic = false)
include quadratic

theorem rawRoots_ok : ∃ pair, equation.rawRoots = .ok pair := by
  simp only [rawRoots]
  split
  · exact ⟨_, rfl⟩
  · next nonzero =>
    have divides := eq_false_of_ne_true nonzero
    rw [quotient_of_isZero_eq_false quadratic, quotient_of_isZero_eq_false divides]
    exact ⟨_, rfl⟩

/-- An equation with a quadratic term always has roots to give, whatever its discriminant: every
divisor is tested before. -/
theorem roots_ok (refinements : Nat) : ∃ pair, equation.roots refinements = .ok pair := by
  unfold roots
  rw [quadratic]
  cases isZero equation.constant with
  | true =>
      rw [quotient_of_isZero_eq_false quadratic]
      exact ⟨_, rfl⟩
  | false =>
      obtain ⟨pair, raw⟩ := equation.rawRoots_ok quadratic
      rw [raw]
      exact ⟨_, rfl⟩

end Answers

end Quadratic

end ConjugateResidual
