import Mathlib
import ConjugateResidual.Proofs.Exact.Coherence
import ConjugateResidual.Proofs.Exact.Termination

/-!
What the status of a solved problem certifies in exact arithmetic. The test is made on the recurred
gradient, but as long as all steps were full ones this is the gradient at the solution itself. With
a ridge the normal equations have one solution, and a small gradient puts the point near to it.
-/

namespace ConjugateResidual

open Arithmetic Method

variable {𝕜 J : Type} [RCLike 𝕜] {rows columns : ℕ}
variable {problem : MatrixProblem 𝕜 rows columns} {settings : Settings ℝ}

/-! ### The normal equations with a ridge -/

namespace MatrixProblem

/-- The normal equations are as steep as the ridge. -/
theorem ridge_mul_norm_le (nonneg : problem.WeightNonneg) (ridge : ℝ)
    (vector : EuclideanSpace 𝕜 (Fin columns)) :
    ridge * ‖vector‖ ≤ ‖problem.normalMap ridge vector‖ := by
  rcases (norm_nonneg vector).eq_or_lt with zero | positive
  · rw [← zero, mul_zero]
    exact norm_nonneg _
  · have steep : ridge * ‖vector‖ ^ 2 ≤ curvature (problem.normalMap ridge) vector := by
      rw [curvature_normalMap]
      exact le_add_of_nonneg_left (nonneg _)
    have bounded : curvature (problem.normalMap ridge) vector ≤
        ‖vector‖ * ‖problem.normalMap ridge vector‖ :=
      (RCLike.re_le_norm _).trans (norm_inner_le_norm _ _)
    have product : ‖vector‖ * (ridge * ‖vector‖) ≤
        ‖vector‖ * ‖problem.normalMap ridge vector‖ := by
      calc
        ‖vector‖ * (ridge * ‖vector‖) = ridge * ‖vector‖ ^ 2 := by ring
        _ ≤ _ := steep.trans bounded
    exact le_of_mul_le_mul_left product positive

private theorem normalMap_injective (nonneg : problem.WeightNonneg) {ridge : ℝ}
    (positive : 0 < ridge) :
    Function.Injective (problem.normalMap ridge) := by
  rw [injective_iff_map_eq_zero]
  intro vector null
  have steep := ridge_mul_norm_le nonneg ridge vector
  rw [null, norm_zero] at steep
  exact norm_le_zero_iff.mp (nonpos_of_mul_nonpos_right steep positive)

/-- With a ridge the normal equations have exactly one solution. -/
theorem exists_solution (nonneg : problem.WeightNonneg) {ridge : ℝ} (positive : 0 < ridge) :
    ∃ solution, ∀ other, problem.normalMap ridge other = problem.normalVector ↔
      other = solution := by
  have injective := normalMap_injective nonneg positive
  obtain ⟨solution, solves⟩ :=
    LinearMap.injective_iff_surjective.mp injective problem.normalVector
  refine ⟨solution, fun other => ⟨?_, ?_⟩⟩
  · intro same
    exact injective (same.trans solves.symm)
  · rintro rfl
    exact solves

variable (problem settings) in
/-- What a small gradient says of a point. -/
structure Certifies (point : EuclideanSpace 𝕜 (Fin columns)) : Prop where
  small :
    ‖problem.adjointMap (problem.weightMap (problem.rightHandSide - problem.forwardMap point)) -
        (settings.ridge : 𝕜) • point‖ ≤
      settings.absolute + settings.relative * ‖problem.normalVector‖
  near : 0 < settings.ridge → problem.WeightSemidefinite →
    ∃ solution,
      (∀ other, problem.normalMap settings.ridge other = problem.normalVector ↔
        other = solution) ∧
      ‖point - solution‖ ≤
        (settings.absolute + settings.relative * ‖problem.normalVector‖) / settings.ridge

private theorem certifies_of_small {point : EuclideanSpace 𝕜 (Fin columns)}
    (small : ‖problem.normalVector - problem.normalMap settings.ridge point‖ ≤
      problem.threshold settings) : problem.Certifies settings point := by
  refine { small := ?_, near := ?_ }
  · rw [← normalVector_sub_normalMap]
    exact small
  · intro positive semidefinite
    have nonneg := semidefinite.weightNonneg
    obtain ⟨solution, unique⟩ := exists_solution nonneg positive
    refine ⟨solution, unique, ?_⟩
    have defect : problem.normalMap settings.ridge (point - solution) =
        -(problem.normalVector - problem.normalMap settings.ridge point) := by
      rw [map_sub, (unique solution).mpr rfl, neg_sub]
    rw [le_div_iff₀' positive]
    calc
      settings.ridge * ‖point - solution‖
          ≤ ‖problem.normalMap settings.ridge (point - solution)‖ :=
        ridge_mul_norm_le nonneg _ _
      _ = ‖problem.normalVector - problem.normalMap settings.ridge point‖ := by
        rw [defect, norm_neg]
      _ ≤ problem.threshold settings := small

end MatrixProblem

/-! ### The status -/

variable {observer : MatrixRun J 𝕜 rows columns Bool} {before : MatrixState J 𝕜 rows columns}

/-- Only the test makes this status, after full steps. -/
theorem Course.of_solved {threshold : ℝ} {course : Course ℝ}
    (solved : course.status settings threshold = .solved) :
    course.Underway ∧ course.isOptimal threshold = true := by
  have running : course.exited = false := by
    cases exited : course.exited with
    | false => rfl
    | true => simp [Course.status, exited] at solved
  have inside : course.status settings threshold ≠ .onBoundary := by
    rw [solved]
    decide
  have curved : course.status settings threshold ≠ .zeroCurvature := by
    rw [solved]
    decide
  have underway : course.Underway :=
    Course.underway_of_status (fun exited => by simp [running] at exited) inside curved
  refine ⟨underway, ?_⟩
  cases optimal : course.isOptimal threshold with
  | true => rfl
  | false =>
      simp only [Course.status, Course.isSolved, running, underway.1, underway.2, optimal,
        Bool.or_self, Bool.false_eq_true, if_false] at solved
      split at solved
      · cases solved
      · cases solved

theorem solve_certifies_solution (admissible : settings.Admissible) (looks : Run.Looks observer)
    {report : Report ℝ} {final : MatrixState J 𝕜 rows columns}
    (solves : solve problem.toProblem settings observer before = (.ok report, final))
    (solved : report.stats.status = .solved) :
    problem.Certifies settings final.workspace.solution := by
  apply MatrixProblem.certifies_of_small
  -- Without columns a solve may not even have opened, but there is nothing to be small.
  rcases Nat.eq_zero_or_pos columns with empty | sized
  · subst empty
    rw [Subsingleton.elim (problem.normalVector - _) 0, norm_zero]
    exact problem.threshold_nonneg admissible
  have ending := solve_ends problem.toProblem settings observer before
  rw [solves] at ending
  cases ending with
  | zero announced zero answered =>
      rw [solveZero_apply] at answered
      cases answered
      cases solved.symm.trans (Workspace.stats_answered _).2.1
  | @finished opening course state _ _ reached ended closed =>
      obtain ⟨printed, figures, returned, rfl⟩ := of_closeCourse_eq closed
      cases returned
      obtain ⟨underway, optimal⟩ := Course.of_solved solved
      have stands := reached.stands admissible looks sized underway
      obtain ⟨_, starts⟩ := reached.starts sized admissible.ridge
      rw [Progress.isOptimal, le_real, stands.optimality_eq, starts.threshold] at optimal
      have defect := residual_eq_sub (problem.normalMap settings.ridge) problem.normalVector
        course.iterations
      change ‖problem.normalVector - problem.normalMap settings.ridge state.workspace.solution‖ ≤ _
      rw [stands.place.carries.solution]
      exact (congrArg norm defect).symm.le.trans optimal

variable (problem) in
/-- A solve that reports the problem solved has made the gradient at its solution small, on a given
workspace as on one of its own; with a ridge and a positive semidefinite preconditioner the solution
is near the exact one. -/
theorem solves_certify {prepared : Reply J ℝ (Options ℝ ×
      Problem J ℝ (EuclideanSpace 𝕜 (Fin columns)) (EuclideanSpace 𝕜 (Fin rows)))}
    {options : Options ℝ} (ready : prepared.outcome = .ok (options, problem.toProblem))
    (admissible : (options.resolve rows columns problem.tolerance).Admissible)
    (looks : Run.Looks observer) :
    (∀ state report final,
      solveInPlace prepared observer state = (.ok report, final) →
        report.stats.status = .solved →
        problem.Certifies (options.resolve rows columns problem.tolerance)
          final.workspace.solution) ∧
    ∀ trail workspace report after,
      solveFresh prepared observer trail = (.ok (workspace, report), after) →
        report.stats.status = .solved →
        problem.Certifies (options.resolve rows columns problem.tolerance)
          workspace.solution := by
  have inPlace : ∀ state report final,
      solveInPlace prepared observer state = (.ok report, final) →
        report.stats.status = .solved →
        problem.Certifies (options.resolve rows columns problem.tolerance)
          final.workspace.solution := by
    intro state report final returned
    exact solve_certifies_solution admissible looks (of_solveInPlace_eq_ok ready returned)
  refine ⟨inPlace, ?_⟩
  intro trail workspace report after returned
  obtain ⟨_, _, _, solved⟩ := solveInPlace_of_solveFresh returned
  exact inPlace _ _ _ solved

theorem solves_certify_unit :
    let options := { Options.exact with ridge := 1 }
    ∃ workspace report after,
      solveFresh (pure (options, MatrixProblem.unit.toProblem)) neverExit
            { printed := [], journal := ([] : List Unit) } =
          (.ok (workspace, report), after) ∧
        report.stats.status = .solved ∧
        MatrixProblem.unit.Certifies (options.resolve 1 1 0) workspace.solution := by
  intro options
  let trail : Trail Unit ℝ := { printed := [], journal := [] }
  have strict : (options.resolve 1 1 0).Strict :=
    { ridge := zero_le_one, absolute := rfl, relative := rfl, radius := rfl }
  have free : ({ trail with
      journal := trail.journal ++ [], workspace := MatrixProblem.unit.ownWorkspace } :
        MatrixState Unit ℝ 1 1).workspace.busy = false := rfl
  obtain ⟨report, final, solves, _, status, _⟩ :=
    solve_strict MatrixProblem.weightSemidefinite_unit strict Nat.one_pos free one_lt_two
  rw [if_neg MatrixProblem.rightHandSide_unit_ne_zero] at status
  have returned : solveFresh (pure (options, MatrixProblem.unit.toProblem)) neverExit trail =
      (.ok (final.workspace, report), final.toTrail) :=
    solveFresh_of_ok neverExit rfl solves
  have certified := (solves_certify MatrixProblem.unit rfl strict.admissible looks_neverExit).2 _ _
    _ _ returned status
  exact ⟨_, _, _, returned, status, certified⟩

end ConjugateResidual
