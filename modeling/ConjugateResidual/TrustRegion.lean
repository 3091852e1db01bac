import ConjugateResidual.Quadratic

/-!
Steps along a line to the sphere around the origin: the two step lengths at which
`point + step * direction` has the norm `radius`. From inside the ball the larger one is the step
to the boundary, and it is not negative.
-/

namespace ConjugateResidual.TrustRegion

open Arithmetic

variable {R V : Type} [Arithmetic R] [VectorArithmetic R V]

def squaredNorm (known : Option R) (vector : V) : Except (Fault R) R :=
  match known with
  | some value => .ok value
  | none => VectorArithmetic.dot vector vector

def crossings (point direction : V) (radius : R) (knownPoint knownDirection : Option R) :
    Except (Fault R) (R × R) :=
  if le radius 0 then .error (.nonpositiveRadius radius)
  else do
    let product ← VectorArithmetic.dot point direction
    let directionSquare ← squaredNorm knownDirection direction
    if isZero directionSquare then .error .zeroDirection
    else
      let pointSquare ← squaredNorm knownPoint point
      Quadratic.roots 1
        { quadratic := directionSquare
          linear := two * product
          constant := pointSquare - radius * radius }

/-- The step to the boundary: the larger of the two. -/
def stepToBoundary (point direction : V) (radius directionSquare : R) : Except (Fault R) R := do
  let (first, second) ← crossings point direction radius none (some directionSquare)
  .ok (larger first second)

/-- A radius above zero and a direction with a length are all that a step to the boundary needs; the
point may lie anywhere. -/
theorem stepToBoundary_ok {point direction : V} {radius directionSquare product pointSquare : R}
    (bounded : le radius 0 = false) (nonzero : isZero directionSquare = false)
    (multiplied : VectorArithmetic.dot point direction = .ok product)
    (squared : VectorArithmetic.dot point point = .ok pointSquare) :
    ∃ bound, stepToBoundary point direction radius directionSquare = .ok bound := by
  unfold stepToBoundary crossings squaredNorm
  rw [bounded, multiplied, squared]
  simp only [Bool.false_eq_true, if_false, bind, Except.bind, nonzero]
  obtain ⟨pair, answer⟩ := Quadratic.roots_ok
    { quadratic := directionSquare
      linear := two * product
      constant := pointSquare - radius * radius } nonzero 1
  rw [answer]
  exact ⟨_, rfl⟩

end ConjugateResidual.TrustRegion
