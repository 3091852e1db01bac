import Mathlib
import ConjugateResidual.Proofs.Exact.Boundary

/-!
The chord that a line cuts out of the ball, in exact arithmetic. From a point of the closed ball the
two crossings are its ends, one backward and one forward, and no part of the line outside them lies
in the ball. The forward end is at the point itself when the point is on the sphere and the
direction does not lead into the ball.
-/

namespace ConjugateResidual.TrustRegion

open Arithmetic

variable {𝕜 : Type} [RCLike 𝕜] {size : ℕ}

/-- Two steps at which the line through a point meets the sphere, as the ends of the part of the
line that lies in the closed ball. -/
structure Chord (point direction : EuclideanSpace 𝕜 (Fin size)) (radius first second : ℝ) :
    Prop where
  backward : first ≤ 0
  forward : 0 ≤ second
  enters : ‖point + (first : 𝕜) • direction‖ = radius
  leaves : ‖point + (second : 𝕜) • direction‖ = radius
  within_iff (step : ℝ) :
    ‖point + (step : 𝕜) • direction‖ ≤ radius ↔ first ≤ step ∧ step ≤ second
  stays_iff : second = 0 ↔ ‖point‖ = radius ∧ 0 ≤ RCLike.re (inner 𝕜 point direction)

/-- The steps factor the distance of the squared norm from the squared radius. -/
def Splits (point direction : EuclideanSpace 𝕜 (Fin size)) (radius first second : ℝ) : Prop :=
  ∀ step : ℝ, ‖point + (step : 𝕜) • direction‖ ^ 2 - radius ^ 2 =
    ‖direction‖ ^ 2 * (step - first) * (step - second)

namespace Splits

variable {point direction : EuclideanSpace 𝕜 (Fin size)} {radius first second : ℝ}
variable (splits : Splits point direction radius first second)
include splits

/-- The steps at zero and at one tell the linear coefficient. -/
theorem two_mul_inner :
    2 * RCLike.re (inner 𝕜 point direction) = -(‖direction‖ ^ 2 * (first + second)) := by
  have atZero := splits 0
  have atOne := splits 1
  rw [norm_add_smul_sq] at atZero atOne
  linear_combination atOne - atZero

section Ball

variable (positive : 0 < radius) (nonzero : direction ≠ 0)
include positive nonzero

theorem norm_eq_iff (step : ℝ) :
    ‖point + (step : 𝕜) • direction‖ = radius ↔ step = first ∨ step = second := by
  have square : ‖direction‖ ^ 2 ≠ 0 := pow_ne_zero 2 (norm_ne_zero_iff.mpr nonzero)
  rw [← pow_left_inj₀ (norm_nonneg _) positive.le two_ne_zero, ← sub_eq_zero, splits step]
  simp [square, sub_eq_zero]

private theorem norm_le_iff (sorted : first ≤ second) (step : ℝ) :
    ‖point + (step : 𝕜) • direction‖ ≤ radius ↔ first ≤ step ∧ step ≤ second := by
  have square : 0 < ‖direction‖ ^ 2 := pow_pos (norm_pos_iff.mpr nonzero) 2
  rw [← pow_le_pow_iff_left₀ (norm_nonneg _) positive.le two_ne_zero, ← sub_nonpos, splits step,
    mul_assoc]
  constructor
  · intro nonpos
    have product := nonpos_of_mul_nonpos_right nonpos square
    rcases mul_nonpos_iff.mp product with ⟨after, before⟩ | ⟨before, after⟩
    · exact ⟨sub_nonneg.mp after, sub_nonpos.mp before⟩
    · constructor
      · linarith
      · linarith
  · rintro ⟨after, before⟩
    apply mul_nonpos_of_nonneg_of_nonpos square.le
    exact mul_nonpos_of_nonneg_of_nonpos (sub_nonneg.mpr after) (sub_nonpos.mpr before)

/-- At the point itself the line is on the sphere when one of the steps is zero, and the sum of the
steps has the sign opposite to that of the product of point and direction. -/
theorem second_eq_zero_iff (backward : first ≤ 0) (forward : 0 ≤ second) :
    second = 0 ↔ ‖point‖ = radius ∧ 0 ≤ RCLike.re (inner 𝕜 point direction) := by
  have square : 0 < ‖direction‖ ^ 2 := pow_pos (norm_pos_iff.mpr nonzero) 2
  have linear := splits.two_mul_inner
  have onSphere := splits.norm_eq_iff positive nonzero 0
  rw [RCLike.ofReal_zero, zero_smul, add_zero] at onSphere
  rw [onSphere]
  constructor
  · intro zero
    have sum : ‖direction‖ ^ 2 * (first + second) ≤ 0 :=
      mul_nonpos_of_nonneg_of_nonpos square.le (by linarith)
    exact ⟨.inr zero.symm, by linarith⟩
  · rintro ⟨zero | zero, outward⟩
    · have sum : ‖direction‖ ^ 2 * (first + second) ≤ 0 := by linarith
      have nonpos := nonpos_of_mul_nonpos_right sum square
      linarith
    · exact zero.symm

private theorem chord (sorted : first ≤ second) (within : ‖point‖ ≤ radius) :
    Chord point direction radius first second := by
  have inside := (splits.norm_le_iff positive nonzero sorted 0).mp
  rw [RCLike.ofReal_zero, zero_smul, add_zero] at inside
  have around := inside within
  constructor
  case backward => exact around.1
  case forward => exact around.2
  case enters => exact (splits.norm_eq_iff positive nonzero first).mpr (.inl rfl)
  case leaves => exact (splits.norm_eq_iff positive nonzero second).mpr (.inr rfl)
  case within_iff => exact splits.norm_le_iff positive nonzero sorted
  case stays_iff => exact splits.second_eq_zero_iff positive nonzero around.1 around.2

end Ball

end Splits

variable {point direction : EuclideanSpace 𝕜 (Fin size)} {radius : ℝ}

/-- From every point of the closed ball, along every direction that is not zero, the crossings are
the ends of the chord, whether the squared norms are given or taken. -/
theorem crossings_chord (positive : 0 < radius) (within : ‖point‖ ≤ radius)
    (nonzero : direction ≠ 0) {knownPoint knownDirection : Option ℝ}
    (truePoint : Known knownPoint point) (trueDirection : Known knownDirection direction) :
    ∃ first second,
      crossings point direction radius knownPoint knownDirection = .ok (first, second) ∧
        Chord point direction radius first second := by
  rcases crossings_factored positive within nonzero truePoint trueDirection with
    ⟨first, second, answer, sorted, factored⟩
  have splits : Splits point direction radius first second := factored
  exact ⟨first, second, answer, splits.chord positive nonzero sorted within⟩

/-- From a point halfway to the sphere, with the squared norm of the direction given. -/
theorem crossings_chord_halfway :
    ∃ first second,
      crossings (EuclideanSpace.single (0 : Fin 1) (1 : ℝ)) (EuclideanSpace.single 0 (1 : ℝ))
          (2 : ℝ) none (some 1) = .ok (first, second) ∧
        Chord (EuclideanSpace.single (0 : Fin 1) (1 : ℝ)) (EuclideanSpace.single 0 (1 : ℝ)) 2
          first second := by
  have length : ‖EuclideanSpace.single (0 : Fin 1) (1 : ℝ)‖ = 1 := by simp
  apply crossings_chord two_pos
  · rw [length]
    exact one_le_two
  · rw [← norm_ne_zero_iff, length]
    exact one_ne_zero
  · intro value found
    cases found
  · intro value found
    cases found
    rw [length, one_pow]

end ConjugateResidual.TrustRegion
