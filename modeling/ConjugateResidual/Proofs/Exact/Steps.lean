import Mathlib
import ConjugateResidual.Solve
import ConjugateResidual.Proofs.Exact.Problem

/-!
The parts of a solve of a matrix problem in exact arithmetic, each as one equation: what it gives
and which vectors of the workspace it leaves changed.
-/

namespace ConjugateResidual

open Arithmetic Method

abbrev MatrixWorkspace (𝕜 : Type) [RCLike 𝕜] (rows columns : ℕ) : Type :=
  Workspace ℝ (EuclideanSpace 𝕜 (Fin columns)) (EuclideanSpace 𝕜 (Fin rows))

abbrev MatrixState (J 𝕜 : Type) [RCLike 𝕜] (rows columns : ℕ) : Type :=
  RunState J ℝ (EuclideanSpace 𝕜 (Fin columns)) (EuclideanSpace 𝕜 (Fin rows))

abbrev MatrixRun (J 𝕜 : Type) [RCLike 𝕜] (rows columns : ℕ) (A : Type) : Type :=
  Run J ℝ (EuclideanSpace 𝕜 (Fin columns)) (EuclideanSpace 𝕜 (Fin rows)) A

variable {𝕜 J : Type} [RCLike 𝕜] {rows columns : ℕ}
variable (problem : MatrixProblem 𝕜 rows columns) (settings : Settings ℝ)
variable (state : MatrixState J 𝕜 rows columns)

noncomputable def MatrixProblem.ownWorkspace : MatrixWorkspace 𝕜 rows columns :=
  .fresh rows columns problem.field 0 0

noncomputable def MatrixProblem.buffered (vector : EuclideanSpace 𝕜 (Fin rows))
    (old : Option (EuclideanSpace 𝕜 (Fin rows))) : Option (EuclideanSpace 𝕜 (Fin rows)) :=
  match problem.weight? with
  | none => old
  | some _ => some (problem.weightMap vector)

/-! ### Applications -/

theorem weigh_exact (vector : EuclideanSpace 𝕜 (Fin rows)) :
    problem.toProblem.weigh vector state =
      (.ok (problem.weightMap vector),
        { state with
          workspace :=
            { state.workspace with
              weighted? := problem.buffered vector state.workspace.weighted? } }) := by
  unfold Problem.weigh MatrixProblem.buffered MatrixProblem.toProblem
  cases present : problem.weight? with
  | none =>
      rw [problem.weightMap_of_none present]
      rfl
  | some weight =>
      rw [problem.weightMap_of_some present]
      simp only [Option.map_some, Run.bind_apply, Run.perform_apply, Run.update_apply,
        Run.pure_apply, Reply.journal_pure, Reply.outcome_pure, List.append_nil]

theorem applyForward_exact (vector : EuclideanSpace 𝕜 (Fin columns)) :
    problem.toProblem.applyForward vector state = (.ok (problem.forwardMap vector), state) := by
  unfold Problem.applyForward MatrixProblem.toProblem
  simp only [Run.perform_apply, Reply.journal_pure, Reply.outcome_pure, List.append_nil]

theorem applyAdjoint_exact (vector : EuclideanSpace 𝕜 (Fin rows)) :
    problem.toProblem.applyAdjoint vector state = (.ok (problem.adjointMap vector), state) := by
  unfold Problem.applyAdjoint MatrixProblem.toProblem
  simp only [Run.perform_apply, Reply.journal_pure, Reply.outcome_pure, List.append_nil]

/-! ### The ridge -/

/-- A ridge is left out only if it is zero. -/
private theorem ridge_cases {ridge : ℝ} (nonneg : 0 ≤ ridge) :
    isPositive ridge = true ∨ isPositive ridge = false ∧ ridge = 0 := by
  rcases nonneg.lt_or_eq with positive | zero
  · exact .inl ((isPositive_real ridge).mpr positive)
  · refine .inr ⟨?_, zero.symm⟩
    rw [← zero, Bool.eq_false_iff, ne_eq, isPositive_real]
    exact lt_irrefl 0

theorem addRidge_exact (sized : 0 < columns) {ridge : ℝ} (nonneg : 0 ≤ ridge)
    (source target : EuclideanSpace 𝕜 (Fin columns)) :
    addRidge ridge source target state = (.ok (target + (ridge : 𝕜) • source), state) := by
  unfold addRidge
  rcases ridge_cases nonneg with positive | ⟨absent, zero⟩
  · rw [if_pos positive, Run.ofExcept_apply, VectorArithmetic.addScaled_exact sized]
  · rw [absent, zero, RCLike.ofReal_zero, zero_smul, add_zero]
    rfl

theorem addRidge_of_empty (ridge : ℝ) (source target : EuclideanSpace 𝕜 (Fin 0))
    (state : MatrixState J 𝕜 rows 0) :
    addRidge ridge source target state =
      (if isPositive ridge then .error .routineRefused else .ok target, state) := by
  unfold addRidge
  split
  · rfl
  · rfl

theorem withRidge_exact {ridge : ℝ} (nonneg : 0 ≤ ridge) (square optimality : ℝ) :
    withRidge ridge square optimality = square + ridge * optimality ^ 2 := by
  unfold withRidge
  rcases ridge_cases nonneg with positive | ⟨absent, zero⟩
  · rw [if_pos positive]
    ring
  · rw [absent, zero, zero_mul (optimality ^ 2), add_zero]
    exact if_neg Bool.false_ne_true

private theorem residualNorm_exact {ridge : ℝ} (nonneg : 0 ≤ ridge) :
    residualNorm ridge state =
      (.ok √(‖state.workspace.residual‖ ^ 2 + ridge * ‖state.workspace.solution‖ ^ 2),
        state) := by
  unfold residualNorm
  rw [Run.bind_of_ok (Run.workspace_apply state)]
  rcases ridge_cases nonneg with positive | ⟨absent, zero⟩
  · simp only [if_pos positive, Run.bind_apply, Run.ofExcept_apply,
      VectorArithmetic.dot_self_exact, Run.pure_apply, sqrt_real]
  · rw [absent, zero, zero_mul, add_zero, Real.sqrt_sq (norm_nonneg _)]
    rfl

/-! ### The parts of an iteration -/

noncomputable def MatrixProblem.measure (workspace : MatrixWorkspace 𝕜 rows columns) :
    Progress ℝ :=
  { curvature := curvature (problem.normalMap settings.ridge) workspace.gradient
    optimality := ‖workspace.gradient‖
    residual := √(‖workspace.residual‖ ^ 2 + settings.ridge * ‖workspace.solution‖ ^ 2) }

noncomputable def MatrixProblem.launched (workspace : MatrixWorkspace 𝕜 rows columns) :
    MatrixWorkspace 𝕜 rows columns :=
  let gradient := problem.adjointMap (problem.weightMap workspace.residual)
  let image := problem.forwardMap gradient
  { workspace with
    gradient, direction := gradient
    gradientImage := image, directionImage := image
    normalImage := problem.normalMap settings.ridge gradient
    weighted? :=
      problem.buffered image (problem.buffered workspace.residual workspace.weighted?)
    recorder := workspace.recorder.recordOptimality ‖gradient‖ }

theorem launch_exact (sized : 0 < columns) (nonneg : 0 ≤ settings.ridge) (residual : ℝ) :
    launch problem.toProblem settings residual state =
      let launched := problem.launched settings state.workspace
      (.ok { problem.measure settings launched with residual },
        { state with workspace := launched }) := by
  unfold launch
  simp only [Run.bind_apply, Run.workspace_apply, Run.ofExcept_apply, Run.update_apply,
    Run.pure_apply, weigh_exact, applyForward_exact, applyAdjoint_exact,
    addRidge_exact _ sized nonneg, VectorArithmetic.norm_exact, VectorArithmetic.dot_exact,
    withRidge_exact nonneg, MatrixProblem.measure, MatrixProblem.launched,
    MatrixProblem.curvature_normalMap]
  rfl

/-- Without columns a solve is refused for its ridge, or its gradient is zero. -/
theorem launch_of_empty (problem : MatrixProblem 𝕜 rows 0) (state : MatrixState J 𝕜 rows 0)
    (residual : ℝ) :
    (launch problem.toProblem settings residual state).2.journal = state.journal ∧
      ∀ start, (launch problem.toProblem settings residual state).1 = .ok start →
        start.optimality = 0 := by
  unfold launch
  simp only [Run.bind_apply, Run.workspace_apply, Run.ofExcept_apply, Run.update_apply,
    Run.pure_apply, weigh_exact, applyForward_exact, applyAdjoint_exact, addRidge_of_empty,
    VectorArithmetic.norm_exact, VectorArithmetic.dot_exact]
  by_cases positive : isPositive settings.ridge = true
  · simp only [if_pos positive]
    exact ⟨trivial, fun start found => by cases found⟩
  · simp only [if_neg positive]
    refine ⟨trivial, ?_⟩
    intro start found
    cases found
    exact norm_eq_zero.mpr (Subsingleton.elim _ _)

theorem recorder_launch_of_empty (problem : MatrixProblem 𝕜 rows 0)
    (state : MatrixState J 𝕜 rows 0) (residual : ℝ) :
    let after := (launch problem.toProblem settings residual state).2.workspace.recorder
    after = state.workspace.recorder ∨
      ∃ optimality, after = state.workspace.recorder.recordOptimality optimality := by
  unfold launch
  simp only [Run.bind_apply, Run.workspace_apply, Run.ofExcept_apply, Run.update_apply,
    Run.pure_apply, weigh_exact, applyForward_exact, applyAdjoint_exact, addRidge_of_empty,
    VectorArithmetic.norm_exact, VectorArithmetic.dot_exact]
  by_cases positive : isPositive settings.ridge = true
  · simp only [if_pos positive]
    exact .inl trivial
  · simp only [if_neg positive]
    exact .inr ⟨_, rfl⟩

theorem residual_launch_of_empty (problem : MatrixProblem 𝕜 rows 0)
    (state : MatrixState J 𝕜 rows 0) (residual : ℝ) :
    (launch problem.toProblem settings residual state).2.workspace.residual =
        state.workspace.residual ∧
      ∀ start, (launch problem.toProblem settings residual state).1 = .ok start →
        start.residual = residual := by
  unfold launch
  simp only [Run.bind_apply, Run.workspace_apply, Run.ofExcept_apply, Run.update_apply,
    Run.pure_apply, weigh_exact, applyForward_exact, applyAdjoint_exact, addRidge_of_empty,
    VectorArithmetic.norm_exact, VectorArithmetic.dot_exact]
  by_cases positive : isPositive settings.ridge = true
  · simp only [if_pos positive]
    exact ⟨trivial, fun start found => by cases found⟩
  · simp only [if_neg positive]
    refine ⟨trivial, ?_⟩
    intro start found
    cases found
    rfl

noncomputable def Workspace.moved (step : ℝ) (vector normalImage : EuclideanSpace 𝕜 (Fin columns))
    (workspace : MatrixWorkspace 𝕜 rows columns) : MatrixWorkspace 𝕜 rows columns :=
  { workspace with
    solution := workspace.solution + (step : 𝕜) • vector
    gradient := workspace.gradient - (step : 𝕜) • normalImage }

theorem moveAlong_exact (sized : 0 < columns) (step : ℝ)
    (vector normalImage : EuclideanSpace 𝕜 (Fin columns)) :
    moveAlong step vector normalImage state =
      let moved := state.workspace.moved step vector normalImage
      (.ok ‖moved.gradient‖, { state with workspace := moved }) := by
  unfold moveAlong
  simp only [Run.bind_apply, Run.workspace_apply, Run.ofExcept_apply, Run.update_apply,
    Run.pure_apply, VectorArithmetic.addScaled_exact sized, VectorArithmetic.norm_exact,
    RCLike.ofReal_neg, neg_smul, ← sub_eq_add_neg, Workspace.moved]

/-- The direction of a workspace has no curvature, or inside a trust region too little. -/
def Workspace.Flat (threshold : ℝ) (workspace : MatrixWorkspace 𝕜 rows columns) : Prop :=
  workspace.normalImage = 0 ∨
    0 < settings.radius ∧
      ‖workspace.directionImage‖ ^ 2 ≤
        threshold * ‖workspace.normalImage‖ * ‖workspace.direction‖

theorem directionIsFlat_exact (threshold : ℝ) :
    ∃ flat, directionIsFlat settings threshold (‖state.workspace.normalImage‖ ^ 2) state =
        (.ok flat, state) ∧ (flat = true ↔ state.workspace.Flat settings threshold) := by
  unfold directionIsFlat Workspace.Flat
  rw [Run.bind_of_ok (Run.workspace_apply state)]
  by_cases zero : state.workspace.normalImage = 0
  · rw [if_pos ((isZero_real _).mpr (by rw [zero, norm_zero, zero_pow two_ne_zero]))]
    exact ⟨true, rfl, by simp [zero]⟩
  · have square : ‖state.workspace.normalImage‖ ^ 2 ≠ 0 :=
      pow_ne_zero 2 (norm_ne_zero_iff.mpr zero)
    rw [if_neg fun found => square ((isZero_real _).mp found)]
    by_cases bounded : 0 < settings.radius
    · simp only [if_pos ((isPositive_real _).mpr bounded), Run.bind_apply, Run.ofExcept_apply,
        VectorArithmetic.dot_self_exact, Run.pure_apply, sqrt_real, VectorArithmetic.norm_exact,
        Real.sqrt_sq (norm_nonneg _)]
      exact ⟨_, rfl, by rw [le_real]; simp [zero, bounded]⟩
    · rw [if_neg fun found => bounded ((isPositive_real _).mp found)]
      exact ⟨false, rfl, by simp [zero, bounded]⟩

theorem directionIsFlat_iff (threshold : ℝ) :
    (directionIsFlat settings threshold (‖state.workspace.normalImage‖ ^ 2) state).1 = .ok true ↔
      state.workspace.Flat settings threshold := by
  obtain ⟨flat, tested, flat_iff⟩ := directionIsFlat_exact settings state threshold
  rw [tested, ← flat_iff, Except.ok.injEq]

noncomputable def MatrixProblem.turned (workspace : MatrixWorkspace 𝕜 rows columns) :
    MatrixWorkspace 𝕜 rows columns :=
  { workspace with
    normalImage :=
      problem.adjointMap (problem.weightMap workspace.gradientImage) +
        (settings.ridge : 𝕜) • workspace.gradient
    weighted? := problem.buffered workspace.gradientImage workspace.weighted? }

theorem finishAlongGradient_exact (sized : 0 < columns) (nonneg : 0 ≤ settings.ridge)
    (progress : Progress ℝ) :
    finishAlongGradient problem.toProblem settings progress state =
      let turned := problem.turned settings state.workspace
      match gradientStep settings progress state.workspace.solution state.workspace.gradient with
      | .error fault => (.error fault, { state with workspace := turned })
      | .ok step =>
          let moved := turned.moved step turned.gradient turned.normalImage
          (.ok ‖moved.gradient‖, { state with workspace := moved }) := by
  unfold finishAlongGradient
  simp only [Run.bind_apply, Run.workspace_apply, Run.ofExcept_apply, Run.update_apply,
    weigh_exact, applyAdjoint_exact, addRidge_exact _ sized nonneg]
  cases gradientStep settings progress state.workspace.solution state.workspace.gradient with
  | error fault => rfl
  | ok step => exact moveAlong_exact _ sized step _ _

noncomputable def MatrixProblem.renewed (step ratio : ℝ)
    (workspace : MatrixWorkspace 𝕜 rows columns) : MatrixWorkspace 𝕜 rows columns :=
  let image := problem.forwardMap workspace.gradient
  let direction := workspace.gradient + (ratio : 𝕜) • workspace.direction
  let directionImage := image + (ratio : 𝕜) • workspace.directionImage
  { workspace with
    residual := workspace.residual - (step : 𝕜) • workspace.directionImage
    gradientImage := image
    direction, directionImage
    normalImage :=
      problem.adjointMap (problem.weightMap directionImage) + (settings.ridge : 𝕜) • direction
    weighted? := problem.buffered directionImage (problem.buffered image workspace.weighted?) }

theorem renewDirection_exact (sizedRows : 0 < rows) (sized : 0 < columns)
    (nonneg : 0 ≤ settings.ridge) (step : ℝ) {oldCurvature : ℝ} (curved : oldCurvature ≠ 0) :
    renewDirection problem.toProblem settings step oldCurvature ‖state.workspace.gradient‖ state =
      let new := curvature (problem.normalMap settings.ridge) state.workspace.gradient
      let renewed := problem.renewed settings step (new / oldCurvature) state.workspace
      (.ok (problem.measure settings renewed), { state with workspace := renewed }) := by
  unfold renewDirection
  simp only [Run.bind_apply, Run.workspace_apply, Run.ofExcept_apply, Run.update_apply,
    Run.pure_apply, VectorArithmetic.addScaled_exact sizedRows, weigh_exact, applyForward_exact,
    applyAdjoint_exact, addRidge_exact _ sized nonneg, VectorArithmetic.dot_exact,
    withRidge_exact nonneg, VectorArithmetic.combine_one_exact, quotient_of_ne_zero curved,
    residualNorm_exact _ nonneg, RCLike.ofReal_neg, neg_smul, ← sub_eq_add_neg,
    MatrixProblem.measure, MatrixProblem.renewed, MatrixProblem.curvature_normalMap]

theorem renewDirection_of_flat (sizedRows : 0 < rows) (nonneg : 0 ≤ settings.ridge)
    (step optimality : ℝ) :
    ∃ after, renewDirection problem.toProblem settings step 0 optimality state =
        (.error .zeroDivisor, after) ∧ after.toTrail = state.toTrail ∧
      after.workspace.solution = state.workspace.solution ∧
      after.workspace.recorder = state.workspace.recorder := by
  unfold renewDirection
  simp only [Run.bind_apply, Run.workspace_apply, Run.ofExcept_apply, Run.update_apply,
    VectorArithmetic.addScaled_exact sizedRows, weigh_exact, applyForward_exact,
    VectorArithmetic.dot_exact, withRidge_exact nonneg, quotient_zero]
  exact ⟨_, rfl, rfl, rfl, rfl⟩

end ConjugateResidual
