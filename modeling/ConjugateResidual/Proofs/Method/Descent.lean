import Mathlib
import ConjugateResidual.Proofs.Method.Dimension

/-!
What the conjugate residual method makes smaller. Each step is chosen for the norm of the residual,
and by orthogonality the norms fall. The energy `⟪x, B x⟫ - 2 ⟪x, b⟫` of the iterates falls as well,
because no direction ever points away from a residual; this is proved from the last residual
backwards, since the last one is zero. A shorter step than the full one, or one along the residual,
lowers the energy as well.
-/

namespace ConjugateResidual.Method

variable {𝕜 E : Type} [RCLike 𝕜] [NormedAddCommGroup E] [InnerProductSpace 𝕜 E]
variable {operator : E →ₗ[𝕜] E} {rightHandSide : E}

/-- Twice the function whose gradient is `operator point - rightHandSide`. -/
noncomputable def energy (operator : E →ₗ[𝕜] E) (rightHandSide point : E) : ℝ :=
  curvature operator point - 2 • RCLike.re (inner 𝕜 point rightHandSide)

theorem energy_along (symmetric : operator.IsSymmetric) (rightHandSide point direction : E)
    (step : ℝ) :
    energy operator rightHandSide (point + (step : 𝕜) • direction) =
      energy operator rightHandSide point +
        step * (step * curvature operator direction -
          2 * RCLike.re (inner 𝕜 direction (rightHandSide - operator point))) := by
  have mixed : RCLike.re (inner 𝕜 point (operator direction)) =
      RCLike.re (inner 𝕜 direction (operator point)) := by
    rw [← symmetric, inner_re_symm]
  unfold energy curvature
  simp only [map_add, map_smul, inner_add_left, inner_add_right, inner_sub_right, map_sub,
    inner_smul_left, inner_smul_right, RCLike.conj_ofReal, RCLike.re_ofReal_mul, mixed]
  ring

/-- Along a direction that does not point away from the residual the energy falls at least until
the two are orthogonal. -/
theorem energy_le_of_short (symmetric : operator.IsSymmetric) {point direction : E} {step : ℝ}
    (nonneg : 0 ≤ step)
    (ascends : 0 ≤ RCLike.re (inner 𝕜 direction (rightHandSide - operator point)))
    (short : step * curvature operator direction ≤
      RCLike.re (inner 𝕜 direction (rightHandSide - operator point))) :
    energy operator rightHandSide (point + (step : 𝕜) • direction) ≤
      energy operator rightHandSide point := by
  rw [energy_along symmetric]
  have change : step * (step * curvature operator direction -
      2 * RCLike.re (inner 𝕜 direction (rightHandSide - operator point))) ≤ 0 :=
    mul_nonpos_of_nonneg_of_nonpos nonneg (by linarith)
  linarith

section Scalars

variable (positive : operator.IsPositive) (current : Iterate E)
include positive

theorem step_nonneg : 0 ≤ current.step operator :=
  div_nonneg (curvature_nonneg positive _) (sq_nonneg _)

theorem ratio_nonneg : 0 ≤ current.ratio operator :=
  div_nonneg (curvature_nonneg positive _) (curvature_nonneg positive _)

end Scalars

theorem residual_succ (operator : E →ₗ[𝕜] E) (rightHandSide : E) (steps : ℕ) :
    (iterate operator rightHandSide (steps + 1)).residual =
      (iterate operator rightHandSide steps).residual -
        ((iterate operator rightHandSide steps).step operator : 𝕜) •
          operator (iterate operator rightHandSide steps).direction :=
  rfl

theorem direction_succ (operator : E →ₗ[𝕜] E) (rightHandSide : E) (steps : ℕ) :
    (iterate operator rightHandSide (steps + 1)).direction =
      (iterate operator rightHandSide (steps + 1)).residual +
        ((iterate operator rightHandSide steps).ratio operator : 𝕜) •
          (iterate operator rightHandSide steps).direction :=
  rfl

private theorem direction_eq_zero {steps : ℕ}
    (zero : (iterate operator rightHandSide steps).residual = 0) :
    (iterate operator rightHandSide steps).direction = 0 := by
  cases steps with
  | zero => exact zero
  | succ steps =>
      have ratio : (iterate operator rightHandSide steps).ratio operator = 0 := by
        change curvature operator (iterate operator rightHandSide (steps + 1)).residual / _ = 0
        rw [zero, curvature, inner_zero_left, map_zero, zero_div]
      rw [direction_succ, zero, ratio, RCLike.ofReal_zero, zero_smul, add_zero]

/-- Once the residual is zero it stays so. -/
theorem residual_eq_zero_of_le {reached steps : ℕ}
    (zero : (iterate operator rightHandSide reached).residual = 0) (later : reached ≤ steps) :
    (iterate operator rightHandSide steps).residual = 0 := by
  induction steps, later using Nat.le_induction with
  | base => exact zero
  | succ steps later ih =>
      rw [residual_succ, Iterate.step, ih]
      simp only [curvature, map_zero, inner_zero_left, zero_div, zero_smul, sub_zero]

theorem residual_ne_zero_of_le {steps earlier : ℕ} (before : earlier ≤ steps)
    (nonzero : (iterate operator rightHandSide steps).residual ≠ 0) :
    (iterate operator rightHandSide earlier).residual ≠ 0 :=
  fun zero => nonzero (residual_eq_zero_of_le zero before)

variable (positive : operator.IsPositive) (consistent : Consistent operator rightHandSide)
include positive consistent

private theorem norm_residual_succ_le (steps : ℕ) :
    ‖(iterate operator rightHandSide (steps + 1)).residual‖ ≤
      ‖(iterate operator rightHandSide steps).residual‖ := by
  by_cases zero : (iterate operator rightHandSide steps).residual = 0
  · rw [residual_eq_zero_of_le zero (Nat.le_succ steps), norm_zero]
    exact norm_nonneg _
  · have conjugate : Conjugate operator rightHandSide (steps + 1) :=
      conjugate_of_nonzero positive consistent fun earlier before =>
        residual_ne_zero_of_le (Nat.le_of_lt_succ before) zero
    have orthogonal := conjugate.residuals steps (Nat.lt_succ_self steps)
    -- The old residual is the sum of the new one and a vector orthogonal to it.
    have parts : (iterate operator rightHandSide steps).residual =
        ((iterate operator rightHandSide steps).step operator : 𝕜) •
            operator (iterate operator rightHandSide steps).direction +
          (iterate operator rightHandSide (steps + 1)).residual := by
      rw [residual_succ]
      abel
    have square := norm_add_sq_eq_norm_sq_add_norm_sq_of_inner_eq_zero
      (((iterate operator rightHandSide steps).step operator : 𝕜) •
        operator (iterate operator rightHandSide steps).direction)
      (iterate operator rightHandSide (steps + 1)).residual
      (by rw [inner_smul_left, orthogonal, mul_zero])
    rw [← parts] at square
    apply (mul_self_le_mul_self_iff (norm_nonneg _) (norm_nonneg _)).mpr
    rw [square]
    exact le_add_of_nonneg_left (mul_self_nonneg _)

theorem norm_residual_antitone :
    Antitone fun steps => ‖(iterate operator rightHandSide steps).residual‖ :=
  antitone_nat_of_succ_le (norm_residual_succ_le positive consistent)

/-- The image of a direction does not point away from a later direction. -/
theorem inner_image_direction_nonneg {earlier steps : ℕ} (before : earlier ≤ steps)
    (nonzero : ∀ index < steps, (iterate operator rightHandSide index).residual ≠ 0) :
    0 ≤ RCLike.re (inner 𝕜 (operator (iterate operator rightHandSide earlier).direction)
      (iterate operator rightHandSide steps).direction) := by
  induction steps, before using Nat.le_induction with
  | base =>
      rw [inner_image_self positive.isSymmetric, RCLike.ofReal_re]
      exact curvature_nonneg positive _
  | succ steps before ih =>
      have conjugate := conjugate_of_nonzero positive consistent nonzero
      have former := ih fun index within => nonzero index (Nat.lt_succ_of_lt within)
      rw [direction_succ, inner_add_right, conjugate.residuals earlier (Nat.lt_succ_of_le before),
        zero_add, inner_smul_right, RCLike.re_ofReal_mul]
      exact mul_nonneg (ratio_nonneg positive _) former

/-- No image of a direction points away from a direction, whichever comes first. -/
theorem inner_image_nonneg (first second : ℕ) :
    0 ≤ RCLike.re (inner 𝕜 (operator (iterate operator rightHandSide first).direction)
      (iterate operator rightHandSide second).direction) := by
  have ordered : ∀ {earlier later : ℕ}, earlier ≤ later →
      0 ≤ RCLike.re (inner 𝕜 (operator (iterate operator rightHandSide earlier).direction)
        (iterate operator rightHandSide later).direction) := by
    intro earlier later before
    by_cases ended : ∃ index < later, (iterate operator rightHandSide index).residual = 0
    · obtain ⟨index, less, zero⟩ := ended
      rw [direction_eq_zero (residual_eq_zero_of_le zero less.le), inner_zero_right, map_zero]
    · push Not at ended
      exact inner_image_direction_nonneg positive consistent before ended
  rcases Nat.le_total first second with before | after
  · exact ordered before
  · rw [positive.isSymmetric, inner_re_symm]
    exact ordered after

variable [FiniteDimensional 𝕜 E]

/-- The method ends: there is a first residual that is zero. -/
theorem exists_residual_eq_zero :
    ∃ last, (iterate operator rightHandSide last).residual = 0 ∧
      ∀ earlier < last, (iterate operator rightHandSide earlier).residual ≠ 0 := by
  classical
  have ends : ∃ last, (iterate operator rightHandSide last).residual = 0 := by
    by_contra never
    push Not at never
    have few : Module.finrank 𝕜 (⊤ : Submodule 𝕜 E) + 1 ≤
        Module.finrank 𝕜 (⊤ : Submodule 𝕜 E) :=
      steps_le_finrank positive consistent Submodule.mem_top (fun _ _ => Submodule.mem_top)
        fun earlier _ => never earlier
    exact Nat.not_succ_le_self _ few
  exact ⟨Nat.find ends, Nat.find_spec ends, fun earlier before => Nat.find_min ends before⟩

/-- No residual points away from a vector that all images of directions lean to: from the last
residual backwards, each is the next one plus an image of a direction. -/
theorem inner_residual_nonneg {vector : E}
    (images : ∀ index, 0 ≤ RCLike.re (inner 𝕜 vector
      (operator (iterate operator rightHandSide index).direction))) (steps : ℕ) :
    0 ≤ RCLike.re (inner 𝕜 vector (iterate operator rightHandSide steps).residual) := by
  obtain ⟨last, zero, -⟩ := exists_residual_eq_zero positive consistent
  have gone : ∀ later, last ≤ later →
      0 ≤ RCLike.re (inner 𝕜 vector (iterate operator rightHandSide later).residual) := by
    intro later after
    rw [residual_eq_zero_of_le zero after, inner_zero_right, map_zero]
  rcases Nat.le_total last steps with after | within
  · exact gone steps after
  · induction within using Nat.decreasingInduction with
    | self => exact gone last le_rfl
    | of_succ steps within ih =>
        have parts : (iterate operator rightHandSide steps).residual =
            (iterate operator rightHandSide (steps + 1)).residual +
              ((iterate operator rightHandSide steps).step operator : 𝕜) •
                operator (iterate operator rightHandSide steps).direction := by
          rw [residual_succ]
          abel
        rw [parts, inner_add_right, map_add, inner_smul_right, RCLike.re_ofReal_mul]
        exact add_nonneg ih (mul_nonneg (step_nonneg positive _) (images steps))

/-- No direction points away from a residual. -/
theorem inner_direction_residual_nonneg (index steps : ℕ) :
    0 ≤ RCLike.re (inner 𝕜 (iterate operator rightHandSide index).direction
      (iterate operator rightHandSide steps).residual) := by
  apply inner_residual_nonneg positive consistent
  intro other
  rw [← positive.isSymmetric]
  exact inner_image_nonneg positive consistent index other

private theorem step_mul_curvature_le (steps : ℕ) :
    (iterate operator rightHandSide steps).step operator *
        curvature operator (iterate operator rightHandSide steps).direction ≤
      RCLike.re (inner 𝕜 (iterate operator rightHandSide steps).direction
        (iterate operator rightHandSide steps).residual) := by
  have ascends := inner_direction_residual_nonneg positive consistent steps (steps + 1)
  rw [residual_succ, inner_sub_right, map_sub, inner_smul_right, RCLike.re_ofReal_mul] at ascends
  exact sub_nonneg.mp ascends

/-- The energy falls along a direction, up to the full step. -/
theorem energy_direction_le (steps : ℕ) {step : ℝ} (nonneg : 0 ≤ step)
    (short : step ≤ (iterate operator rightHandSide steps).step operator) :
    energy operator rightHandSide
        ((iterate operator rightHandSide steps).solution +
          (step : 𝕜) • (iterate operator rightHandSide steps).direction) ≤
      energy operator rightHandSide (iterate operator rightHandSide steps).solution := by
  apply energy_le_of_short positive.isSymmetric nonneg
  · rw [← residual_eq_sub]
    exact inner_direction_residual_nonneg positive consistent steps steps
  · rw [← residual_eq_sub]
    exact (mul_le_mul_of_nonneg_right short (curvature_nonneg positive _)).trans
      (step_mul_curvature_le positive consistent steps)

theorem energy_antitone :
    Antitone fun steps =>
      energy operator rightHandSide (iterate operator rightHandSide steps).solution :=
  antitone_nat_of_succ_le fun steps =>
    energy_direction_le positive consistent steps (step_nonneg positive _) le_rfl

omit consistent [FiniteDimensional 𝕜 E]

/-- The energy falls along the residual, up to the step of steepest descent. -/
theorem energy_residual_le (steps : ℕ) {step : ℝ} (nonneg : 0 ≤ step)
    (short : step * curvature operator (iterate operator rightHandSide steps).residual ≤
      ‖(iterate operator rightHandSide steps).residual‖ ^ 2) :
    energy operator rightHandSide
        ((iterate operator rightHandSide steps).solution +
          (step : 𝕜) • (iterate operator rightHandSide steps).residual) ≤
      energy operator rightHandSide (iterate operator rightHandSide steps).solution := by
  have square : RCLike.re (inner 𝕜 (iterate operator rightHandSide steps).residual
      (rightHandSide - operator (iterate operator rightHandSide steps).solution)) =
        ‖(iterate operator rightHandSide steps).residual‖ ^ 2 := by
    rw [← residual_eq_sub, inner_self_eq_norm_sq]
  apply energy_le_of_short positive.isSymmetric nonneg
  · rw [square]
    exact sq_nonneg _
  · rw [square]
    exact short

omit positive

variable (operator) in
/-- Where a last step from an iterate may lead: along the direction up to the full step, or along
the residual up to the lowest point. -/
inductive Iterate.LeadsTo (current : Iterate E) : E → Prop where
  | nowhere : LeadsTo current current.solution
  | direction {step : ℝ} (nonneg : 0 ≤ step) (short : step ≤ current.step operator) :
      LeadsTo current (current.solution + (step : 𝕜) • current.direction)
  | residual {step : ℝ} (nonneg : 0 ≤ step)
      (short : step * curvature operator current.residual ≤ ‖current.residual‖ ^ 2) :
      LeadsTo current (current.solution + (step : 𝕜) • current.residual)

theorem Iterate.LeadsTo.mem {space : Submodule 𝕜 E} (start : rightHandSide ∈ space)
    (invariant : ∀ vector ∈ space, operator vector ∈ space) {steps : ℕ} {point : E}
    (leads : (iterate operator rightHandSide steps).LeadsTo operator point) : point ∈ space := by
  obtain ⟨solution, residual, direction⟩ :=
    mem_of_invariant operator rightHandSide start invariant steps
  cases leads with
  | nowhere => exact solution
  | direction nonneg short => exact space.add_mem solution (space.smul_mem _ direction)
  | residual nonneg short => exact space.add_mem solution (space.smul_mem _ residual)

theorem Iterate.LeadsTo.energy_le [FiniteDimensional 𝕜 E] (positive : operator.IsPositive)
    (consistent : Consistent operator rightHandSide) {steps : ℕ} {point : E}
    (leads : (iterate operator rightHandSide steps).LeadsTo operator point) :
    energy operator rightHandSide point ≤
      energy operator rightHandSide (iterate operator rightHandSide steps).solution := by
  cases leads with
  | nowhere => exact le_rfl
  | direction nonneg short => exact energy_direction_le positive consistent steps nonneg short
  | residual nonneg short => exact energy_residual_le positive steps nonneg short

end ConjugateResidual.Method
