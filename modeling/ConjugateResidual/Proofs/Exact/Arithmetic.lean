import Mathlib
import ConjugateResidual.Arithmetic

/-!
Exact arithmetic: real numbers as scalars, and vectors of real or complex entries. No operation
rounds. The updates of a vector without entries are refused, as the routines behind them refuse
it.
-/

namespace ConjugateResidual

noncomputable instance : Arithmetic ℝ where
  sqrt := Real.sqrt
  copySign magnitude sign := if sign < 0 then -|magnitude| else |magnitude|
  lt left right := decide (left < right)
  le left right := decide (left ≤ right)
  same left right := decide (left = right)

namespace Arithmetic

theorem sqrt_real (value : ℝ) : sqrt value = Real.sqrt value :=
  rfl

theorem copySign_real (magnitude sign : ℝ) :
    copySign magnitude sign = if sign < 0 then -|magnitude| else |magnitude| :=
  rfl

theorem two_real : (two : ℝ) = 2 := by
  unfold two
  norm_num

theorem four_real : (four : ℝ) = 4 := by
  unfold four
  norm_num

theorem half_real : (half : ℝ) = 1 / 2 := by
  unfold half
  norm_num

theorem le_real (left right : ℝ) : le left right = true ↔ left ≤ right :=
  decide_eq_true_iff

theorem lt_real (left right : ℝ) : lt left right = true ↔ left < right :=
  decide_eq_true_iff

theorem isZero_real (value : ℝ) : isZero value = true ↔ value = 0 :=
  decide_eq_true_iff

theorem isPositive_real (value : ℝ) : isPositive value = true ↔ 0 < value :=
  decide_eq_true_iff

theorem larger_real (first second : ℝ) : larger first second = max first second := by
  unfold larger
  by_cases less : first < second
  · rw [if_pos ((lt_real first second).mpr less), max_eq_right less.le]
  · rw [if_neg (fun found => less ((lt_real first second).mp found)), max_eq_left (not_lt.mp less)]

theorem smaller_real (first second : ℝ) : smaller first second = min first second := by
  unfold smaller
  by_cases less : second < first
  · rw [if_pos ((lt_real second first).mpr less), min_eq_right less.le]
  · rw [if_neg (fun found => less ((lt_real second first).mp found)), min_eq_left (not_lt.mp less)]

theorem quotient_of_ne_zero {dividend divisor : ℝ} (nonzero : divisor ≠ 0) :
    quotient dividend divisor = .ok (dividend / divisor) := by
  unfold quotient
  rw [if_neg (fun zero => nonzero ((isZero_real divisor).mp zero))]

theorem quotient_zero (dividend : ℝ) : quotient dividend 0 = .error .zeroDivisor := by
  unfold quotient
  rw [if_pos ((isZero_real 0).mpr rfl)]

end Arithmetic

variable {𝕜 : Type} [RCLike 𝕜] {size : ℕ}

noncomputable instance : VectorArithmetic ℝ (EuclideanSpace 𝕜 (Fin size)) where
  dot left right := .ok (RCLike.re (inner 𝕜 left right))
  norm vector := ‖vector‖
  addScaled scale source target :=
    if size = 0 then .error .routineRefused else .ok (target + (scale : 𝕜) • source)
  combine scale source targetScale target :=
    if scale = 1 then .ok ((targetScale : 𝕜) • target + source)
    else if size = 0 then .error .routineRefused
    else .ok ((targetScale : 𝕜) • target + (scale : 𝕜) • source)
  cleared _ := 0

namespace VectorArithmetic

theorem dot_exact (left right : EuclideanSpace 𝕜 (Fin size)) :
    dot left right = .ok (RCLike.re (inner 𝕜 left right)) :=
  rfl

theorem dot_self_exact (vector : EuclideanSpace 𝕜 (Fin size)) :
    dot vector vector = .ok (‖vector‖ ^ 2) := by
  rw [dot_exact, inner_self_eq_norm_sq]

theorem norm_exact (vector : EuclideanSpace 𝕜 (Fin size)) : norm vector = ‖vector‖ :=
  rfl

theorem addScaled_exact (sized : 0 < size) (scale : ℝ)
    (source target : EuclideanSpace 𝕜 (Fin size)) :
    addScaled scale source target = .ok (target + (scale : 𝕜) • source) :=
  if_neg sized.ne'

theorem combine_one_exact (source : EuclideanSpace 𝕜 (Fin size)) (targetScale : ℝ)
    (target : EuclideanSpace 𝕜 (Fin size)) :
    combine 1 source targetScale target = .ok (source + (targetScale : 𝕜) • target) := by
  rw [add_comm]
  exact if_pos rfl

end VectorArithmetic

end ConjugateResidual
