import Mathlib
import ConjugateResidual.Problem
import ConjugateResidual.Proofs.Exact.Arithmetic
import ConjugateResidual.Proofs.Method.Dimension

/-!
Least-squares problems given by real or complex matrices, and the normal equations
`(Aᴴ M A + ridge) x = Aᴴ M b` that a solve works on.
-/

namespace ConjugateResidual

open Method
open scoped ComplexOrder

structure MatrixProblem (𝕜 : Type) (rows columns : ℕ) where
  operator : Matrix (Fin rows) (Fin columns) 𝕜
  /-- What the preconditioner does to a vector, by a product or by a solve. -/
  weight? : Option (Mode × Matrix (Fin rows) (Fin rows) 𝕜)
  rightHandSide : EuclideanSpace 𝕜 (Fin rows)
  field : ElementType
  tolerance : ℝ

namespace MatrixProblem

variable {𝕜 J : Type} [RCLike 𝕜] {rows columns : ℕ} (problem : MatrixProblem 𝕜 rows columns)

noncomputable def forwardMap :
    EuclideanSpace 𝕜 (Fin columns) →ₗ[𝕜] EuclideanSpace 𝕜 (Fin rows) :=
  problem.operator.toEuclideanLin

noncomputable def adjointMap :
    EuclideanSpace 𝕜 (Fin rows) →ₗ[𝕜] EuclideanSpace 𝕜 (Fin columns) :=
  problem.operator.conjTranspose.toEuclideanLin

noncomputable def weightMap : EuclideanSpace 𝕜 (Fin rows) →ₗ[𝕜] EuclideanSpace 𝕜 (Fin rows) :=
  match problem.weight? with
  | none => LinearMap.id
  | some (_, matrix) => matrix.toEuclideanLin

/-- The problem as a solve takes it. No application fails. -/
noncomputable def toProblem :
    Problem J ℝ (EuclideanSpace 𝕜 (Fin columns)) (EuclideanSpace 𝕜 (Fin rows)) :=
  { rows, columns
    field := problem.field
    tolerance := problem.tolerance
    zeroColumns := 0
    zeroRows := 0
    rightHandSide := problem.rightHandSide
    forward := fun vector => pure (problem.forwardMap vector)
    adjoint := fun vector => pure (problem.adjointMap vector)
    weight? :=
      problem.weight?.map fun weight =>
        { mode := weight.1, apply := fun vector => pure (weight.2.toEuclideanLin vector) } }

/-- `Aᴴ M A + ridge`. -/
noncomputable def normalMap (ridge : ℝ) :
    EuclideanSpace 𝕜 (Fin columns) →ₗ[𝕜] EuclideanSpace 𝕜 (Fin columns) :=
  problem.adjointMap ∘ₗ problem.weightMap ∘ₗ problem.forwardMap + (ridge : 𝕜) • LinearMap.id

/-- `Aᴴ M b`. -/
noncomputable def normalVector : EuclideanSpace 𝕜 (Fin columns) :=
  problem.adjointMap (problem.weightMap problem.rightHandSide)

noncomputable def residualNorm (ridge : ℝ) (point : EuclideanSpace 𝕜 (Fin columns)) : ℝ :=
  √(‖problem.rightHandSide - problem.forwardMap point‖ ^ 2 + ridge * ‖point‖ ^ 2)

theorem rightHandSide_ne_zero (nonzero : problem.normalVector ≠ 0) : problem.rightHandSide ≠ 0 := by
  intro blank
  apply nonzero
  unfold normalVector
  rw [blank, map_zero, map_zero]

theorem rows_pos (nonzero : problem.rightHandSide ≠ 0) : 0 < rows := by
  apply Nat.pos_of_ne_zero
  intro empty
  subst empty
  exact nonzero (Subsingleton.elim _ _)

theorem weightMap_of_none (absent : problem.weight? = none) (vector) :
    problem.weightMap vector = vector := by
  unfold weightMap
  rw [absent]
  rfl

theorem weightMap_of_some {mode : Mode} {matrix : Matrix (Fin rows) (Fin rows) 𝕜}
    (present : problem.weight? = some (mode, matrix)) (vector) :
    problem.weightMap vector = matrix.toEuclideanLin vector := by
  unfold weightMap
  rw [present]

theorem normalMap_apply (ridge : ℝ) (vector : EuclideanSpace 𝕜 (Fin columns)) :
    problem.normalMap ridge vector =
      problem.adjointMap (problem.weightMap (problem.forwardMap vector)) + (ridge : 𝕜) • vector :=
  rfl

theorem inner_adjointMap (left : EuclideanSpace 𝕜 (Fin columns))
    (right : EuclideanSpace 𝕜 (Fin rows)) :
    inner 𝕜 left (problem.adjointMap right) = inner 𝕜 (problem.forwardMap left) right := by
  unfold adjointMap forwardMap
  rw [Matrix.toEuclideanLin_conjTranspose_eq_adjoint, LinearMap.adjoint_inner_right]

theorem curvature_normalMap (ridge : ℝ) (vector : EuclideanSpace 𝕜 (Fin columns)) :
    curvature (problem.normalMap ridge) vector =
      RCLike.re (inner 𝕜 (problem.forwardMap vector)
        (problem.weightMap (problem.forwardMap vector))) + ridge * ‖vector‖ ^ 2 := by
  unfold curvature
  rw [normalMap_apply, inner_add_right, inner_adjointMap, inner_smul_right, map_add,
    RCLike.re_ofReal_mul, inner_self_eq_norm_sq]

/-- The preconditioner does not turn vectors around. -/
def WeightNonneg : Prop :=
  ∀ vector, 0 ≤ curvature problem.weightMap vector

def WeightSemidefinite : Prop :=
  ∀ weight ∈ problem.weight?, weight.2.PosSemidef

variable {problem}

theorem curvature_nonneg (nonneg : problem.WeightNonneg) {ridge : ℝ} (ridgeNonneg : 0 ≤ ridge)
    (vector : EuclideanSpace 𝕜 (Fin columns)) :
    0 ≤ curvature (problem.normalMap ridge) vector := by
  rw [curvature_normalMap]
  exact add_nonneg (nonneg _) (mul_nonneg ridgeNonneg (sq_nonneg _))

theorem WeightSemidefinite.isPositive (semidefinite : problem.WeightSemidefinite) :
    problem.weightMap.IsPositive := by
  unfold weightMap
  cases present : problem.weight? with
  | none => exact LinearMap.isPositive_id
  | some weight =>
      rw [Matrix.isPositive_toEuclideanLin_iff]
      exact semidefinite weight present

theorem WeightSemidefinite.weightNonneg (semidefinite : problem.WeightSemidefinite) :
    problem.WeightNonneg :=
  fun vector => Method.curvature_nonneg semidefinite.isPositive vector

theorem WeightSemidefinite.isPositive_normalMap (semidefinite : problem.WeightSemidefinite)
    {ridge : ℝ} (ridgeNonneg : 0 ≤ ridge) : (problem.normalMap ridge).IsPositive := by
  constructor
  · intro left right
    rw [normalMap_apply, normalMap_apply, inner_add_left, inner_add_right, inner_adjointMap,
      ← inner_conj_symm, inner_adjointMap, inner_conj_symm,
      semidefinite.isPositive.isSymmetric, inner_smul_left, inner_smul_right,
      RCLike.conj_ofReal]
  · intro vector
    rw [inner_re_symm]
    exact curvature_nonneg semidefinite.weightNonneg ridgeNonneg vector

theorem WeightSemidefinite.consistent (semidefinite : problem.WeightSemidefinite)
    {ridge : ℝ} (ridgeNonneg : 0 ≤ ridge) :
    Consistent (problem.normalMap ridge) problem.normalVector := by
  intro vector null
  have flat : curvature (problem.normalMap ridge) vector = 0 := by
    unfold curvature
    rw [null, inner_zero_right, map_zero]
  rw [curvature_normalMap] at flat
  have image : curvature problem.weightMap (problem.forwardMap vector) = 0 :=
    ((add_eq_zero_iff_of_nonneg (semidefinite.weightNonneg _)
      (mul_nonneg ridgeNonneg (sq_nonneg _))).mp flat).1
  have weighted := image_eq_zero_of_curvature semidefinite.isPositive image
  unfold normalVector
  rw [inner_adjointMap, ← semidefinite.isPositive.isSymmetric, weighted, inner_zero_left]

noncomputable def rowSpace (problem : MatrixProblem 𝕜 rows columns) :
    Submodule 𝕜 (EuclideanSpace 𝕜 (Fin columns)) :=
  LinearMap.range problem.adjointMap

theorem normalVector_mem_rowSpace : problem.normalVector ∈ problem.rowSpace :=
  LinearMap.mem_range_self _ _

theorem normalMap_mem_rowSpace (ridge : ℝ) :
    ∀ vector ∈ problem.rowSpace, problem.normalMap ridge vector ∈ problem.rowSpace := by
  intro vector member
  rw [normalMap_apply]
  exact problem.rowSpace.add_mem (LinearMap.mem_range_self _ _)
    (problem.rowSpace.smul_mem _ member)

theorem finrank_rowSpace_le : Module.finrank 𝕜 problem.rowSpace ≤ min rows columns := by
  apply le_min
  · have bound := problem.adjointMap.finrank_range_le
    rwa [finrank_euclideanSpace_fin] at bound
  · have bound := problem.rowSpace.finrank_le
    rwa [finrank_euclideanSpace_fin] at bound

/-! ### One equation in one unknown -/

noncomputable def unit : MatrixProblem ℝ 1 1 :=
  { operator := 1, weight? := some (.multiply, 1), rightHandSide := EuclideanSpace.single 0 1
    field := .real .double, tolerance := 0 }

theorem forwardMap_unit (vector : EuclideanSpace ℝ (Fin 1)) :
    unit.forwardMap vector = vector := by
  unfold forwardMap unit
  simp

theorem adjointMap_unit (vector : EuclideanSpace ℝ (Fin 1)) :
    unit.adjointMap vector = vector := by
  unfold adjointMap unit
  simp

theorem weightMap_unit (vector : EuclideanSpace ℝ (Fin 1)) : unit.weightMap vector = vector := by
  unfold weightMap unit
  simp

theorem weightSemidefinite_unit : unit.WeightSemidefinite := by
  intro weight present
  cases present
  exact Matrix.PosSemidef.one

theorem normalMap_unit (vector : EuclideanSpace ℝ (Fin 1)) : unit.normalMap 0 vector = vector := by
  rw [normalMap_apply, forwardMap_unit, weightMap_unit, adjointMap_unit, RCLike.ofReal_zero,
    zero_smul, add_zero]

theorem normalVector_unit : unit.normalVector = unit.rightHandSide := by
  unfold normalVector
  rw [weightMap_unit, adjointMap_unit]

theorem norm_rightHandSide_unit : ‖unit.rightHandSide‖ = 1 := by
  unfold unit
  simp

/-! ### Two equations in two unknowns -/

/-- The equations are weighted differently, so the method needs two steps. -/
noncomputable def pair : MatrixProblem ℝ 2 2 :=
  { operator := Matrix.diagonal ![1, 1 + 1], weight? := none
    rightHandSide := WithLp.toLp _ ![1 + 1, (1 + 1)⁻¹]
    field := .real .double, tolerance := 0 }

theorem rightHandSide_pair : pair.rightHandSide = !₂[2, 1 / 2] := by
  ext index
  fin_cases index
  · simp [pair, one_add_one_eq_two]
  · simp [pair, one_add_one_eq_two]

theorem weightSemidefinite_pair : pair.WeightSemidefinite := by
  intro weight present
  cases present

theorem forwardMap_pair (first second : ℝ) :
    pair.forwardMap !₂[first, second] = !₂[first, 2 * second] := by
  ext index
  fin_cases index <;> simp [forwardMap, pair, one_add_one_eq_two]

theorem adjointMap_pair (first second : ℝ) :
    pair.adjointMap !₂[first, second] = !₂[first, 2 * second] := by
  ext index
  fin_cases index <;> simp [adjointMap, pair, one_add_one_eq_two]

theorem normalMap_pair (first second : ℝ) :
    pair.normalMap 0 !₂[first, second] = !₂[first, 4 * second] := by
  rw [normalMap_apply, forwardMap_pair, pair.weightMap_of_none rfl, adjointMap_pair,
    RCLike.ofReal_zero, zero_smul, add_zero]
  ring_nf

theorem normalVector_pair : pair.normalVector = !₂[2, 1] := by
  unfold normalVector
  rw [pair.weightMap_of_none rfl, rightHandSide_pair, adjointMap_pair]
  norm_num

theorem curvature_pair (first second : ℝ) :
    curvature (pair.normalMap 0) !₂[first, second] = first ^ 2 + 4 * second ^ 2 := by
  unfold curvature
  rw [normalMap_pair]
  simp [PiLp.inner_apply, Fin.sum_univ_two]
  ring

theorem norm_sq_pair (first second : ℝ) : ‖!₂[first, second]‖ ^ 2 = first ^ 2 + second ^ 2 := by
  rw [EuclideanSpace.real_norm_sq_eq, Fin.sum_univ_two]
  rfl

theorem ne_zero_of_first {first : ℝ} (nonzero : first ≠ 0) (second : ℝ) :
    (!₂[first, second] : EuclideanSpace ℝ (Fin 2)) ≠ 0 :=
  fun same => nonzero (congrArg (fun vector : EuclideanSpace ℝ (Fin 2) => vector 0) same)

theorem norm_lt_pair {first second bound : ℝ} (nonneg : 0 ≤ bound)
    (short : first ^ 2 + second ^ 2 < bound ^ 2) : ‖!₂[first, second]‖ < bound := by
  apply lt_of_pow_lt_pow_left₀ 2 nonneg
  rwa [norm_sq_pair]

theorem rightHandSide_pair_ne_zero : pair.rightHandSide ≠ 0 := by
  rw [rightHandSide_pair]
  exact ne_zero_of_first two_ne_zero _

end MatrixProblem

end ConjugateResidual
