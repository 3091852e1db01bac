import ConjugateResidual.Arithmetic

/-!
Complex numbers by their real and imaginary parts, over any arithmetic. A rounding is applied
after each operation on parts, so that one definition serves all formats.
-/

namespace ConjugateResidual

open Arithmetic

structure Rectangular (R : Type) where
  re : R
  im : R

namespace Rectangular

variable {R : Type} [Arithmetic R]

def ofReal (value : R) : Rectangular R := ⟨value, 0⟩

def map {S : Type} (change : R → S) (number : Rectangular R) : Rectangular S :=
  ⟨change number.re, change number.im⟩

def conjugate (number : Rectangular R) : Rectangular R := ⟨number.re, -number.im⟩

def isZero (number : Rectangular R) : Bool :=
  Arithmetic.isZero number.re && Arithmetic.isZero number.im

def magnitude (value : R) : R := copySign value 1

variable (round : R → R)

def add (left right : Rectangular R) : Rectangular R :=
  ⟨round (left.re + right.re), round (left.im + right.im)⟩

def sub (left right : Rectangular R) : Rectangular R :=
  ⟨round (left.re - right.re), round (left.im - right.im)⟩

def mul (left right : Rectangular R) : Rectangular R :=
  ⟨round (round (left.re * right.re) - round (left.im * right.im)),
    round (round (left.re * right.im) + round (left.im * right.re))⟩

/-- Quotients scale by the larger part of the divisor first. -/
def div (left right : Rectangular R) : Rectangular R :=
  if le (magnitude right.im) (magnitude right.re) then
    if right.isZero then
      ⟨round (left.re / magnitude right.re), round (left.im / magnitude right.re)⟩
    else
      let ratio := round (right.im / right.re)
      let scale := round (1 / round (right.re + round (right.im * ratio)))
      ⟨round (round (left.re + round (left.im * ratio)) * scale),
        round (round (left.im - round (left.re * ratio)) * scale)⟩
  else
    let ratio := round (right.re / right.im)
    let scale := round (1 / round (right.im + round (right.re * ratio)))
    ⟨round (round (round (left.re * ratio) + left.im) * scale),
      round (round (round (left.im * ratio) - left.re) * scale)⟩

/-- Products and quotients of real numbers leave the imaginary parts alone. -/
def mulReal (left right : Rectangular R) : Rectangular R :=
  ofReal (round (left.re * right.re))

def divReal (left right : Rectangular R) : Rectangular R :=
  ofReal (round (left.re / right.re))

end Rectangular

end ConjugateResidual
