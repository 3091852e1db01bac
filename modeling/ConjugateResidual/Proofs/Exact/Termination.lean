import Mathlib
import ConjugateResidual.Proofs.Exact.FullSteps

/-!
In exact arithmetic, with a positive semidefinite preconditioner, no tolerances and no trust region,
a solve ends with an exact solution of the normal equations after at most as many iterations as the
operator has rows or columns.
-/

namespace ConjugateResidual

open Arithmetic Method

variable {𝕜 J : Type} [RCLike 𝕜] {rows columns : ℕ}
variable {problem : MatrixProblem 𝕜 rows columns} {settings : Settings ℝ}

structure Settings.Strict (settings : Settings ℝ) : Prop where
  ridge : 0 ≤ settings.ridge
  absolute : settings.absolute = 0
  relative : settings.relative = 0
  radius : settings.radius = 0

namespace Settings.Strict

theorem admissible (strict : settings.Strict) : settings.Admissible :=
  { ridge := strict.ridge, absolute := strict.absolute.ge, relative := strict.relative.ge
    radius := strict.radius.ge }

theorem threshold (strict : settings.Strict) : problem.threshold settings = 0 := by
  unfold MatrixProblem.threshold
  rw [strict.absolute, strict.relative, zero_mul, add_zero]

end Settings.Strict

variable {before state : MatrixState J 𝕜 rows columns} {opening : Opening ℝ} {course : Course ℝ}

theorem Reaches.residual_ne_zero (strict : settings.Strict)
    (reached : Reaches problem.toProblem settings neverExit before opening course state)
    (iterating : course.isOver opening.threshold = false) :
    (problem.iterateAt settings.ridge course.iterations).residual ≠ 0 := by
  have positive := reached.threshold_lt strict.admissible looks_neverExit iterating
  rw [strict.threshold] at positive
  exact norm_pos_iff.mp positive

/-- Where the test is passed after full steps, the solution is exact. -/
theorem Reaches.solves (strict : settings.Strict) (sized : 0 < columns)
    (reached : Reaches problem.toProblem settings neverExit before opening course state)
    (underway : course.Underway) (optimal : course.isOptimal opening.threshold = true) :
    problem.normalMap settings.ridge state.workspace.solution = problem.normalVector := by
  have stands := reached.stands strict.admissible looks_neverExit sized underway
  obtain ⟨_, starts⟩ := reached.starts sized strict.ridge
  have residual : (problem.iterateAt settings.ridge course.iterations).residual = 0 := by
    rw [Progress.isOptimal, le_real, stands.optimality_eq, starts.threshold,
      strict.threshold] at optimal
    exact norm_le_zero_iff.mp optimal
  have defect := residual_eq_sub (problem.normalMap settings.ridge) problem.normalVector
    course.iterations
  rw [stands.place.carries.solution]
  exact (sub_eq_zero.mp (defect.symm.trans residual)).symm

variable (settings) in
theorem Course.judged_solved {threshold : ℝ} (underway : course.Underway)
    (running : course.exited = false) (optimal : course.isOptimal threshold = true) :
    course.isSolved threshold = true ∧ course.status settings threshold = .solved ∧
      course.warnings settings threshold = [] := by
  have solved : course.isSolved threshold = true := by
    unfold Course.isSolved
    rw [optimal, Bool.or_true]
  refine ⟨solved, ?_, ?_⟩
  · simp [Course.status, running, underway.1, underway.2, solved]
  · simp [Course.warnings, solved]

variable (semidefinite : problem.WeightSemidefinite) (strict : settings.Strict)
include semidefinite strict

private theorem goesOn_of_residual_ne_zero {steps : ℕ}
    (nonzero : ∀ earlier ≤ steps, (problem.iterateAt settings.ridge earlier).residual ≠ 0) :
    problem.GoesOn settings steps := by
  have positive := semidefinite.isPositive_normalMap strict.ridge
  have consistent := semidefinite.consistent strict.ridge
  have unbounded : ¬ 0 < settings.radius := by
    rw [strict.radius]
    exact lt_irrefl 0
  -- The conditions of a trust region are void.
  refine
    { short := ?_, image := ?_, curved := ?_
      inside := fun bounded => absurd bounded unbounded
      tilted := fun bounded => absurd bounded unbounded }
  · rw [strict.threshold]
    exact norm_pos_iff.mpr (nonzero steps le_rfl)
  · exact image_direction_ne_zero positive consistent nonzero
  · exact (curvature_residual_pos positive consistent (nonzero steps le_rfl)).ne'

private theorem iterations_le_of_residual_ne_zero {steps : ℕ}
    (nonzero : ∀ earlier < steps, (problem.iterateAt settings.ridge earlier).residual ≠ 0) :
    steps ≤ min rows columns :=
  (steps_le_finrank (semidefinite.isPositive_normalMap strict.ridge)
      (semidefinite.consistent strict.ridge) MatrixProblem.normalVector_mem_rowSpace
      (MatrixProblem.normalMap_mem_rowSpace settings.ridge) nonzero).trans
    MatrixProblem.finrank_rowSpace_le

variable (sized : 0 < columns)
include sized

theorem Reaches.completes
    (reached : Reaches problem.toProblem settings neverExit before opening course state)
    (underway : course.Underway) (running : course.exited = false)
    (nonzero : ∀ earlier < course.iterations,
      (problem.iterateAt settings.ridge earlier).residual ≠ 0)
    (iterating : course.isOver opening.threshold = false) :
    (∀ earlier < course.iterations + 1,
        (problem.iterateAt settings.ridge earlier).residual ≠ 0) ∧
      ∃ progress after,
        iterate problem.toProblem settings neverExit opening.threshold course state =
          (.ok (course.continued progress), after) := by
  have through : ∀ earlier < course.iterations + 1,
      (problem.iterateAt settings.ridge earlier).residual ≠ 0 := by
    intro earlier within
    rcases Nat.lt_succ_iff_lt_or_eq.mp within with older | same
    · exact nonzero earlier older
    · rw [same]
      exact reached.residual_ne_zero strict iterating
  exact ⟨through, (reached.full_neverExit strict.admissible sized underway running
    (goesOn_of_residual_ne_zero semidefinite strict
      fun earlier within => through earlier (Nat.lt_succ_iff.mpr within))).2⟩

theorem Reaches.uninterrupted
    (reached : Reaches problem.toProblem settings neverExit before opening course state) :
    course.Underway ∧ course.exited = false ∧
      ∀ earlier < course.iterations,
        (problem.iterateAt settings.ridge earlier).residual ≠ 0 := by
  induction reached with
  | opened free announced nonzero opens =>
      have starts := starts_of_opens sized strict.ridge announced opens
      refine ⟨starts.underway, starts.running, ?_⟩
      intro earlier impossible
      rw [starts.iterations] at impossible
      exact absurd impossible (Nat.not_lt_zero earlier)
  | iterated reached iterating budget ran ih =>
      obtain ⟨underway, running, nonzero⟩ := ih
      obtain ⟨through, progress, _, completes⟩ :=
        reached.completes semidefinite strict sized underway running nonzero iterating
      rw [completes] at ran
      cases ran
      exact ⟨underway, rfl, through⟩

theorem solve_strict (free : before.workspace.busy = false)
    (budget : min rows columns < settings.budget) :
    ∃ report final,
      solve problem.toProblem settings neverExit before = (.ok report, final) ∧
        report.stats.solved = true ∧
        report.stats.status =
          (if problem.rightHandSide = 0 then .zeroRightHandSide else .solved) ∧
        (∃ steps : ℕ, report.stats.iterations = steps ∧ steps ≤ min rows columns) ∧
        report.budget = settings.budget ∧ report.warnings = [] ∧
        problem.normalMap settings.ridge final.workspace.solution = problem.normalVector := by
  have ending := solve_ends problem.toProblem settings neverExit before
  generalize solve problem.toProblem settings neverExit before = result at ending
  cases ending with
  | refused busy =>
      rw [free] at busy
      cases busy
  | zero announced zero answered =>
      obtain ⟨rfl, printed, rfl⟩ := of_announce_eq announced
      have blank : problem.rightHandSide = 0 := norm_eq_zero.mp ((isZero_real _).mp zero)
      rw [solveZero_apply] at answered
      cases answered
      obtain ⟨solved, status, iterations⟩ := Workspace.stats_answered
        ((problem.toProblem (J := J)).prepared settings before.held.workspace)
      refine ⟨_, _, rfl, solved, ?_, ⟨0, iterations, Nat.zero_le _⟩, rfl, rfl, ?_⟩
      · rw [if_pos blank]
        exact status
      · change problem.normalMap settings.ridge 0 = problem.normalVector
        unfold MatrixProblem.normalVector
        rw [map_zero, blank, map_zero, map_zero]
  | unopened announced nonzero failed =>
      obtain ⟨_, _, opened, _, _⟩ := openCourse_exact sized strict.ridge announced
      rw [opened] at failed
      cases failed
  | interrupted reached iterating budget failed =>
      obtain ⟨underway, running, nonzero⟩ := reached.uninterrupted semidefinite strict sized
      obtain ⟨_, progress, _, completes⟩ :=
        reached.completes semidefinite strict sized underway running nonzero iterating
      rw [completes] at failed
      cases failed
  | @finished opening course state _ _ reached ended closed =>
      obtain ⟨underway, running, nonzero⟩ := reached.uninterrupted semidefinite strict sized
      have few := iterations_le_of_residual_ne_zero semidefinite strict nonzero
      have optimal : course.isOptimal opening.threshold = true := by
        rcases ended with ended | spent
        · exact Course.isOptimal_of_isOver ended underway running
        · omega
      obtain ⟨solved, status, warnings⟩ :=
        Course.judged_solved settings underway running optimal
      have solution := reached.solves strict sized underway optimal
      obtain ⟨printed, figures, rfl, rfl⟩ := of_closeCourse_eq closed
      refine ⟨_, _, rfl, solved, ?_, ⟨course.iterations, rfl, few⟩, rfl, warnings, solution⟩
      rw [if_neg reached.rightHandSide_ne_zero]
      exact status

omit semidefinite strict sized

variable (problem)

/-- With the default budget a solve on a workspace of its own always succeeds. It never runs out of
the budget, never meets a direction without curvature, and gives an exact solution of the normal
equations after no more iterations than the operator has rows or columns. -/
theorem solveFresh_solves_exactly (sized : 0 < columns)
    (semidefinite : problem.WeightSemidefinite) (options : Options ℝ)
    (ridge : 0 ≤ options.ridge) (absolute : options.absolute? = some 0)
    (relative : options.relative? = some 0) (radius : options.radius = 0)
    (budget : options.budget = 0) (trail : Trail J ℝ) :
    ∃ workspace report after,
      solveFresh (pure (options, problem.toProblem)) neverExit trail =
          (.ok (workspace, report), after) ∧
        report.stats.solved = true ∧
        report.stats.status =
          (if problem.rightHandSide = 0 then .zeroRightHandSide else .solved) ∧
        (∃ steps : ℕ, report.stats.iterations = steps ∧ steps ≤ min rows columns) ∧
        report.budget = rows + columns ∧ report.warnings = [] ∧
        problem.normalMap options.ridge workspace.solution = problem.normalVector := by
  let settings := options.resolve rows columns problem.tolerance
  have strict : settings.Strict :=
    { ridge
      absolute := by
        change options.absolute?.getD _ = 0
        rw [absolute, Option.getD_some]
      relative := by
        change options.relative?.getD _ = 0
        rw [relative, Option.getD_some]
      radius }
  have total : settings.budget = rows + columns := if_pos budget
  have free : ({ trail with
      journal := trail.journal ++ [], workspace := problem.ownWorkspace } :
        MatrixState J 𝕜 rows columns).workspace.busy = false := rfl
  obtain ⟨report, final, solves, solved, status, few, spent, warnings, solution⟩ :=
    solve_strict semidefinite strict sized free (by omega)
  exact ⟨final.workspace, report, final.toTrail, solveFresh_of_ok neverExit rfl solves, solved,
    status, few, spent.trans total, warnings, solution⟩

noncomputable def Options.exact : Options ℝ :=
  { ridge := 0, absolute? := some 0, relative? := some 0, radius := 0, budget := 0, interval := 0
    keepsHistory := false, mode := .multiply }

theorem solveFresh_solves_unit_exactly :
    ∃ workspace report after,
      solveFresh (pure (Options.exact, MatrixProblem.unit.toProblem)) neverExit
            { printed := [], journal := ([] : List Unit) } =
          (.ok (workspace, report), after) ∧
        report.stats.solved = true ∧ workspace.solution = MatrixProblem.unit.rightHandSide := by
  obtain ⟨workspace, report, after, solves, solved, _, _, _, _, solution⟩ :=
    solveFresh_solves_exactly MatrixProblem.unit Nat.one_pos MatrixProblem.weightSemidefinite_unit
      Options.exact le_rfl rfl rfl rfl rfl { printed := [], journal := ([] : List Unit) }
  change MatrixProblem.unit.normalMap 0 workspace.solution = _ at solution
  rw [MatrixProblem.normalMap_unit, MatrixProblem.normalVector_unit] at solution
  exact ⟨workspace, report, after, solves, solved, solution⟩

end ConjugateResidual
