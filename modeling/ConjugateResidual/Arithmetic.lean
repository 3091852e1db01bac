import ConjugateResidual.Fault

/-!
The arithmetic a solve runs in. The recurrences are written once, over any scalars with the
operations of `Arithmetic` and any vectors with those of `VectorArithmetic`: over floats they are
the program, over the reals they are the method.
-/

namespace ConjugateResidual

class Arithmetic (R : Type) extends Zero R, One R, Add R, Sub R, Mul R, Neg R, Div R where
  sqrt : R → R
  copySign : R → R → R
  lt : R → R → Bool
  le : R → R → Bool
  same : R → R → Bool

-- The operations that a number type has of its own come first.
attribute [instance (100)] Arithmetic.toZero Arithmetic.toOne Arithmetic.toAdd Arithmetic.toSub
  Arithmetic.toMul Arithmetic.toNeg Arithmetic.toDiv

namespace Arithmetic

variable {R : Type} [Arithmetic R]

def two : R := 1 + 1

def four : R := (1 + 1) * (1 + 1)

def half : R := 1 / (1 + 1)

def isZero (value : R) : Bool := same value 0

def isPositive (value : R) : Bool := lt 0 value

def larger (first second : R) : R :=
  if lt first second then second else first

def smaller (first second : R) : R :=
  if lt second first then second else first

/-- Division that refuses a zero divisor. -/
def quotient (dividend divisor : R) : Except (Fault R) R :=
  if isZero divisor then .error .zeroDivisor else .ok (dividend / divisor)

theorem quotient_of_isZero_eq_false {divisor : R} (nonzero : isZero divisor = false)
    (dividend : R) : quotient dividend divisor = .ok (dividend / divisor) := by
  unfold quotient
  rw [nonzero]
  rfl

end Arithmetic

/-- Vectors over a scalar field whose inner products have real parts in `R`. -/
class VectorArithmetic (R : outParam Type) (V : Type) where
  dot : V → V → Except (Fault R) R
  norm : V → R
  addScaled : R → V → V → Except (Fault R) V
  combine : R → V → R → V → Except (Fault R) V
  cleared : V → V

instance : Arithmetic Float where
  zero := 0.0
  one := 1.0
  sqrt := Float.sqrt
  copySign magnitude sign :=
    if Binary64.isNegative sign then -magnitude.abs else magnitude.abs
  lt left right := left < right
  le left right := left ≤ right
  same left right := left == right

end ConjugateResidual
