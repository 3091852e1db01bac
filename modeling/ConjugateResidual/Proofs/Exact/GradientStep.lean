import Mathlib
import ConjugateResidual.Proofs.Exact.Aftermath
import ConjugateResidual.Proofs.Exact.Homogeneity
import ConjugateResidual.Proofs.Exact.Monotone

/-!
The step that a solve takes where it finds no curvature along the direction, in exact arithmetic and
with a positive semidefinite preconditioner. The objective along the gradient is a parabola, and of
all the steps that stay in the ball the one that comes nearest to its lowest point is the best.
-/

namespace ConjugateResidual

open Arithmetic Method

variable {𝕜 J : Type} [RCLike 𝕜] {rows columns : ℕ}
variable (problem : MatrixProblem 𝕜 rows columns) (settings : Settings ℝ)

namespace MatrixProblem

noncomputable def gradientAt (ridge : ℝ) (point : EuclideanSpace 𝕜 (Fin columns)) :
    EuclideanSpace 𝕜 (Fin columns) :=
  problem.adjointMap
      (problem.weightMap (problem.rightHandSide - problem.forwardMap point)) -
    (ridge : 𝕜) • point

structure BestStep (point : EuclideanSpace 𝕜 (Fin columns)) (step : ℝ) : Prop where
  allowed : settings.Allows point (problem.gradientAt settings.ridge point) step
  least : ∀ other, settings.Allows point (problem.gradientAt settings.ridge point) other →
    problem.objective settings.ridge
        (point + (step : 𝕜) • problem.gradientAt settings.ridge point) ≤
      problem.objective settings.ridge
        (point + (other : 𝕜) • problem.gradientAt settings.ridge point)

structure Descended (point : EuclideanSpace 𝕜 (Fin columns))
    (workspace : MatrixWorkspace 𝕜 rows columns) : Prop where
  solution : ∃ step, problem.BestStep settings point step ∧
    workspace.solution = point + (step : 𝕜) • problem.gradientAt settings.ridge point
  gradient : workspace.gradient = problem.gradientAt settings.ridge workspace.solution

variable {problem}

theorem gradientAt_eq (ridge : ℝ) (point : EuclideanSpace 𝕜 (Fin columns)) :
    problem.gradientAt ridge point = problem.normalVector - problem.normalMap ridge point :=
  (normalVector_sub_normalMap ridge point).symm

/-- Along the gradient the objective is a parabola. -/
theorem objective_along_gradient (semidefinite : problem.WeightSemidefinite) {ridge : ℝ}
    (nonneg : 0 ≤ ridge) {point : EuclideanSpace 𝕜 (Fin columns)} {lowest : ℝ}
    (bottom : lowest * curvature (problem.normalMap ridge) (problem.gradientAt ridge point) =
      ‖problem.gradientAt ridge point‖ ^ 2) (step : ℝ) :
    problem.objective ridge (point + (step : 𝕜) • problem.gradientAt ridge point) =
      problem.objective ridge point +
        curvature (problem.normalMap ridge) (problem.gradientAt ridge point) *
          ((step - lowest) ^ 2 - lowest ^ 2) := by
  rw [objective_eq_energy semidefinite, objective_eq_energy semidefinite,
    energy_along (semidefinite.isPositive_normalMap nonneg).isSymmetric, ← gradientAt_eq,
    inner_self_eq_norm_sq, ← bottom]
  ring

end MatrixProblem

variable {problem settings}
variable {observer : MatrixRun J 𝕜 rows columns Bool} {before state : MatrixState J 𝕜 rows columns}
variable {opening : Opening ℝ} {course : Course ℝ}

theorem Workspace.Coherent.gradient_eq {ridge : ℝ} {workspace : MatrixWorkspace 𝕜 rows columns}
    (coherent : workspace.Coherent problem ridge) :
    workspace.gradient = problem.gradientAt ridge workspace.solution := by
  rw [coherent.gradient, coherent.residual]
  rfl

theorem Course.Poised.bestStep (poised : course.Poised problem settings state.workspace)
    (semidefinite : problem.WeightSemidefinite) (ridge : 0 ≤ settings.ridge) {step : ℝ}
    (stepped :
      gradientStep settings course.toProgress state.workspace.solution
        state.workspace.gradient = .ok step) :
    problem.BestStep settings state.workspace.solution step := by
  have gradient := poised.stands.place.coherent.gradient_eq
  have optimality : course.optimality = ‖state.workspace.gradient‖ :=
    congrArg Progress.optimality poised.stands.progress
  obtain ⟨allowed, nearest⟩ :=
    gradientStep_nearest poised.inside poised.descends optimality stepped
  have bottom : course.toProgress.descent * course.curvature =
      ‖state.workspace.gradient‖ ^ 2 := by
    rw [Progress.descent, if_pos poised.curved, div_mul_cancel₀ _ poised.curved.ne', optimality,
      pow_two]
  have curved := poised.curved
  rw [poised.stands.curvature_gradient] at bottom curved
  rw [gradient] at allowed nearest bottom curved
  refine { allowed, least := ?_ }
  intro other possible
  rw [MatrixProblem.objective_along_gradient semidefinite ridge bottom,
    MatrixProblem.objective_along_gradient semidefinite ridge bottom]
  have nearer := sub_le_sub_right (nearest other possible) (course.toProgress.descent ^ 2)
  exact add_le_add_right (mul_le_mul_of_nonneg_left nearer curved.le) _

variable (problem settings observer before) in
structure Turning (opening : Opening ℝ) (course : Course ℝ) (state : MatrixState J 𝕜 rows columns) :
    Prop where
  reached : Reaches problem.toProblem settings observer before opening course state
  iterating : course.isOver opening.threshold = false
  budget : course.iterations < settings.budget
  flat : (directionIsFlat settings opening.threshold (‖state.workspace.normalImage‖ ^ 2) state).1 =
    .ok true

private theorem Course.flat_of_zeroCurvature {threshold : ℝ}
    (status : course.status settings threshold = .zeroCurvature) : course.flat = true := by
  unfold Course.status at status
  split_ifs at status with exited clipped flat
  exact flat

/-- A course is marked flat only by a step along the gradient. -/
theorem Move.turned_of_marked {threshold : ℝ}
    {result : Except (Fault ℝ) (Course ℝ) × MatrixState J 𝕜 rows columns}
    (move : Move problem settings observer threshold course state result)
    (underway : course.Underway) {next : Course ℝ} {after : MatrixState J 𝕜 rows columns}
    (same : result = (.ok next, after)) (marked : next.flat = true) :
    state.workspace.Flat settings threshold ∧ next.iterations = course.iterations ∧
      ∃ step,
        gradientStep settings course.toProgress state.workspace.solution
            state.workspace.gradient = .ok step ∧
          after.workspace.solution =
            state.workspace.solution + (step : 𝕜) • state.workspace.gradient := by
  cases move with
  | unturned flat failed => cases same
  | turned flat stepped move =>
      cases same
      refine ⟨flat, rfl, _, stepped, ?_⟩
      rw [move]
      rfl
  | unstepped curved failed => cases same
  | clipped curved stepped move =>
      cases same
      rw [underway.1] at marked
      cases marked
  | stuck curved zero trail solution recorder => cases same
  | full curved stepped nonzero advance =>
      obtain ⟨exited, counted⟩ := Course.of_completed_eq_ok same
      rw [counted, underway.1] at marked
      cases marked

section Solve

variable (admissible : settings.Admissible) (looks : Run.Looks observer)
  (semidefinite : problem.WeightSemidefinite)
include admissible looks semidefinite

theorem Turning.ends (turning : Turning problem settings observer before opening course state) :
    ∃ report final,
      solve problem.toProblem settings observer before = (.ok report, final) ∧
        report.stats.status = .zeroCurvature ∧ report.stats.iterations = course.iterations ∧
        problem.Descended settings state.workspace.solution final.workspace := by
  have reached := turning.reached
  have poised := reached.poised admissible looks semidefinite turning.iterating
  obtain ⟨step, report, final, stepped, solves, status, count, solution⟩ :=
    reached.ends_turned admissible looks semidefinite turning.iterating
      ((directionIsFlat_iff _ _ _).mp turning.flat) turning.budget
  obtain ⟨_, _, _, _, describe, _⟩ :=
    solve_leaves solves admissible looks reached.rightHandSide_ne_zero
  rw [poised.stands.place.coherent.gradient_eq] at solution
  exact ⟨report, final, solves, status, count,
    { solution := ⟨step, poised.bestStep semidefinite admissible.ridge stepped, solution⟩
      gradient := describe.gradient }⟩

theorem Reaches.turning
    (reached : Reaches problem.toProblem settings observer before opening course state)
    (marked : course.flat = true) :
    ∃ last between, Turning problem settings observer before opening last between ∧
      last.iterations = course.iterations ∧
      problem.Descended settings between.workspace.solution state.workspace := by
  have tells := reached.tells admissible looks
  cases reached with
  | opened free announced nonzero opens =>
      obtain ⟨start, starts⟩ := opening_of_openCourse opens
      rw [starts] at marked
      cases marked
  | @iterated last _ between _ earlier iterating budget ran =>
      have poised := earlier.poised admissible looks semidefinite iterating
      obtain ⟨flat, count, step, stepped, solution⟩ :=
        (earlier.moves admissible iterating).turned_of_marked (Course.underway_of_open iterating)
          ran marked
      rw [poised.stands.place.coherent.gradient_eq] at solution
      refine ⟨last, between, ?_, count.symm, { solution := ?_, gradient := ?_ }⟩
      · exact
          { reached := earlier, iterating, budget, flat := (directionIsFlat_iff _ _ _).mpr flat }
      · exact ⟨step, poised.bestStep semidefinite admissible.ridge stepped, solution⟩
      · rw [tells.gradient, MatrixProblem.gradientAt_eq]

/-- A solve that reports missing curvature ended by a step along the gradient. -/
theorem solve_turning {report : Report ℝ} {final : MatrixState J 𝕜 rows columns}
    (solves : solve problem.toProblem settings observer before = (.ok report, final))
    (status : report.stats.status = .zeroCurvature) :
    ∃ opening course state, Turning problem settings observer before opening course state ∧
      report.stats.iterations = course.iterations ∧
      problem.Descended settings state.workspace.solution final.workspace := by
  have ending := solve_ends problem.toProblem settings observer before
  rw [solves] at ending
  cases ending with
  | @zero _ entered _ _ announced zero answered =>
      rw [solveZero_apply] at answered
      cases answered
      cases entered.workspace.stats_answered.2.1.symm.trans status
  | finished reached ended closed =>
      obtain ⟨printed, figures, returned, rfl⟩ := of_closeCourse_eq closed
      cases returned
      obtain ⟨last, between, turning, count, descended⟩ :=
        reached.turning admissible looks semidefinite (Course.flat_of_zeroCurvature status)
      exact ⟨_, last, between, turning, congrArg Nat.cast count.symm, { descended with }⟩

end Solve

variable (problem settings)

/-- With a positive semidefinite preconditioner, whatever the ridge, the radius, the tolerances, the
budget and the observer, and at whatever iteration it happens: a solve that finds no curvature along
the direction returns, says so, and leaves the best point that a step along the gradient can reach
inside the ball, together with the gradient at that point. It says so in no other case. -/
theorem solve_descends_best (admissible : settings.Admissible)
    (semidefinite : problem.WeightSemidefinite) (observer : MatrixRun J 𝕜 rows columns Bool)
    (looks : Run.Looks observer) (before : MatrixState J 𝕜 rows columns) :
    (∀ opening course state, Turning problem settings observer before opening course state →
        ∃ report final,
          solve problem.toProblem settings observer before = (.ok report, final) ∧
            report.stats.status = .zeroCurvature ∧ report.stats.iterations = course.iterations ∧
            problem.Descended settings state.workspace.solution final.workspace) ∧
      ∀ report final, solve problem.toProblem settings observer before = (.ok report, final) →
        report.stats.status = .zeroCurvature →
          ∃ opening course state, Turning problem settings observer before opening course state ∧
            report.stats.iterations = course.iterations ∧
            problem.Descended settings state.workspace.solution final.workspace := by
  constructor
  · intro opening course state turning
    exact turning.ends admissible looks semidefinite
  · intro report final solves status
    exact solve_turning admissible looks semidefinite solves status

/-! ### One equation in one unknown -/

noncomputable def Settings.ridged (ridge : ℝ) : Settings ℝ :=
  { Settings.coarse.scaled 8 with ridge }

theorem Settings.admissible_ridged {ridge : ℝ} (nonneg : 0 ≤ ridge) :
    (Settings.ridged ridge).Admissible :=
  { Settings.admissible_coarse.scaled (by norm_num : (0 : ℝ) < 8) with ridge := nonneg }

private theorem MatrixProblem.norm_normalMap_unit {ridge : ℝ} (nonneg : 0 ≤ ridge)
    (vector : EuclideanSpace ℝ (Fin 1)) :
    ‖unit.normalMap ridge vector‖ = (1 + ridge) * ‖vector‖ := by
  have image : unit.normalMap ridge vector = (1 + ridge) • vector := by
    rw [normalMap_apply, forwardMap_unit, weightMap_unit, adjointMap_unit, add_smul, one_smul]
    rfl
  rw [image, norm_smul, Real.norm_eq_abs, abs_of_pos (by linarith)]

/-- The equation is taken to be flat at once, whatever the ridge. -/
theorem exists_turning_unit {ridge : ℝ} (nonneg : 0 ≤ ridge)
    (observer : MatrixRun J ℝ 1 1 Bool) {before : MatrixState J ℝ 1 1}
    (free : before.workspace.busy = false) :
    ∃ opening state,
      Turning (MatrixProblem.unit.scaled 8) (.ridged ridge) observer before opening opening.course
          state ∧
        opening.course.iterations = 0 ∧ state.workspace.solution = 0 := by
  obtain ⟨opening, state, reached, starts⟩ := exists_opened (MatrixProblem.unit.scaled 8)
    (.ridged ridge) observer Nat.one_pos nonneg
    (MatrixProblem.rightHandSide_scaled_ne_zero (by norm_num)
      MatrixProblem.rightHandSide_unit_ne_zero) free
  have threshold : opening.threshold = 2 :=
    starts.threshold.trans MatrixProblem.threshold_unit_scaled
  have carries := starts.stands.place.carries
  rw [starts.iterations] at carries
  have direction : ‖state.workspace.direction‖ = 8 := by
    rw [carries.direction]
    exact MatrixProblem.norm_normalVector_unit_scaled
  have image : ‖state.workspace.directionImage‖ = 8 := by
    rw [carries.directionImage, ← carries.direction]
    exact (congrArg norm (MatrixProblem.forwardMap_unit _)).trans direction
  have normalImage : ‖state.workspace.normalImage‖ = (1 + ridge) * 8 := by
    rw [carries.normalImage, ← carries.direction, ← direction]
    exact MatrixProblem.norm_normalMap_unit nonneg _
  refine ⟨opening, state, { reached, iterating := ?_, budget := ?_, flat := ?_ }, starts.iterations,
    carries.solution⟩
  · apply starts.isOver_eq_false
    have short : (MatrixProblem.unit.scaled 8).threshold (.ridged ridge) = 2 :=
      MatrixProblem.threshold_unit_scaled
    rw [short, MatrixProblem.norm_normalVector_unit_scaled]
    norm_num
  · rw [starts.iterations]
    exact two_pos
  · rw [directionIsFlat_iff]
    refine .inr ⟨?_, ?_⟩
    · change (0 : ℝ) < 8 * 4
      norm_num
    · rw [threshold, image, normalImage, direction]
      linarith

theorem solve_descends_best_unit :
    ∃ report final,
      solve (MatrixProblem.unit.scaled 8).toProblem (.ridged 1) neverExit
            (.ofWorkspace (J := Unit) MatrixProblem.unit.ownWorkspace) = (.ok report, final) ∧
        report.stats.status = .zeroCurvature ∧
        (MatrixProblem.unit.scaled 8).Descended (.ridged 1) 0 final.workspace := by
  have semidefinite : (MatrixProblem.unit.scaled 8).WeightSemidefinite :=
    MatrixProblem.weightSemidefinite_unit
  have free : (RunState.ofWorkspace (J := Unit)
      MatrixProblem.unit.ownWorkspace).workspace.busy = false := rfl
  obtain ⟨opening, state, turning, _, start⟩ := exists_turning_unit zero_le_one neverExit free
  obtain ⟨report, final, solves, status, _, descended⟩ :=
    (solve_descends_best (MatrixProblem.unit.scaled 8) (.ridged 1)
      (Settings.admissible_ridged zero_le_one) semidefinite neverExit looks_neverExit
      (.ofWorkspace (J := Unit) MatrixProblem.unit.ownWorkspace)).1 opening opening.course state
      turning
  rw [start] at descended
  exact ⟨report, final, solves, status, descended⟩

end ConjugateResidual
