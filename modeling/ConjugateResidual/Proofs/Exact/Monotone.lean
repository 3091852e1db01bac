import Mathlib
import ConjugateResidual.Proofs.Exact.Landing

/-!
What a solve makes smaller in exact arithmetic, with a positive semidefinite preconditioner. The
recorded norms of the gradient do not increase, nor does the objective at any step: a full step and
a clipped one stop before the objective rises again along the direction, and a step along the
gradient stops at the lowest point or before it.
-/

namespace ConjugateResidual

open Arithmetic Method

variable {𝕜 J : Type} [RCLike 𝕜] {rows columns : ℕ}
variable (problem : MatrixProblem 𝕜 rows columns) {settings : Settings ℝ}

namespace MatrixProblem

/-- The weighted square of the residual, and the ridge term. -/
noncomputable def objective (ridge : ℝ) (point : EuclideanSpace 𝕜 (Fin columns)) : ℝ :=
  curvature problem.weightMap (problem.rightHandSide - problem.forwardMap point) +
    ridge * ‖point‖ ^ 2

/-- No history rises. Without a preconditioner this includes the norms of the residual. -/
structure Falling (stats : Snapshot ℝ) : Prop where
  optimalities : stats.optimalities.Pairwise (· ≥ ·)
  residuals : problem.weight? = none → stats.residuals.Pairwise (· ≥ ·)

variable {problem}

private theorem residualNorm_of_unweighted (absent : problem.weight? = none) (ridge : ℝ)
    (point : EuclideanSpace 𝕜 (Fin columns)) :
    problem.residualNorm ridge point = √(problem.objective ridge point) := by
  unfold residualNorm objective curvature
  rw [problem.weightMap_of_none absent, inner_self_eq_norm_sq]

omit [RCLike 𝕜] in
theorem falling_of_short {stats : Snapshot ℝ} (residuals : stats.residuals.length ≤ 1)
    (optimalities : stats.optimalities.length ≤ 1) : problem.Falling stats := by
  have short : ∀ norms : List ℝ, norms.length ≤ 1 → norms.Pairwise (· ≥ ·) := by
    intro norms few
    match norms with
    | [] => exact List.Pairwise.nil
    | [norm] => exact List.pairwise_singleton _ norm
  exact { optimalities := short _ optimalities, residuals := fun _ => short _ residuals }

variable (semidefinite : problem.WeightSemidefinite)
include semidefinite

/-- The objective is the energy of the normal equations, up to a constant. -/
theorem objective_eq_energy (ridge : ℝ) (point : EuclideanSpace 𝕜 (Fin columns)) :
    problem.objective ridge point =
      energy (problem.normalMap ridge) problem.normalVector point +
        curvature problem.weightMap problem.rightHandSide := by
  have mixed : RCLike.re (inner 𝕜 problem.rightHandSide
        (problem.weightMap (problem.forwardMap point))) =
      RCLike.re (inner 𝕜 (problem.forwardMap point)
        (problem.weightMap problem.rightHandSide)) := by
    rw [← semidefinite.isPositive.isSymmetric, inner_re_symm]
  unfold objective energy
  rw [curvature_normalMap, normalVector, inner_adjointMap]
  unfold curvature
  rw [map_sub, inner_sub_left, inner_sub_right, inner_sub_right, map_sub, map_sub, map_sub, mixed]
  ring

variable {ridge : ℝ} (nonneg : 0 ≤ ridge)
include nonneg

theorem objective_antitone :
    Antitone fun steps => problem.objective ridge (problem.iterateAt ridge steps).solution := by
  intro earlier later before
  simp only [objective_eq_energy semidefinite]
  have falls := energy_antitone (semidefinite.isPositive_normalMap nonneg)
    (semidefinite.consistent nonneg) before
  exact add_le_add_left falls _

omit nonneg

/-- The objective does not increase from an iterate to where a solve lands from it. -/
theorem Lands.objective_le (nonneg : 0 ≤ ridge) {steps : ℕ} {point : EuclideanSpace 𝕜 (Fin columns)}
    (lands : problem.Lands ridge steps point) :
    problem.objective ridge point ≤
      problem.objective ridge (problem.iterateAt ridge steps).solution := by
  rw [objective_eq_energy semidefinite, objective_eq_energy semidefinite]
  exact add_le_add_left
    (Iterate.LeadsTo.energy_le (semidefinite.isPositive_normalMap nonneg)
      (semidefinite.consistent nonneg) lands) _

private theorem Lands.objective_le_zero (nonneg : 0 ≤ ridge) {steps : ℕ}
    {point : EuclideanSpace 𝕜 (Fin columns)} (lands : problem.Lands ridge steps point) :
    problem.objective ridge point ≤ problem.objective ridge 0 := by
  have start : (problem.iterateAt ridge 0).solution = 0 := rfl
  have falls := objective_antitone semidefinite nonneg (Nat.zero_le steps)
  simp only [start] at falls
  exact (lands.objective_le semidefinite nonneg).trans falls

theorem falling_recorderAt (nonneg : 0 ≤ settings.ridge) (steps : ℕ) :
    problem.Falling (problem.recorderAt settings steps).toSnapshot := by
  have history : ∀ norm : Iterate (EuclideanSpace 𝕜 (Fin columns)) → ℝ,
      (Antitone fun step => norm (problem.iterateAt settings.ridge step)) →
        (if settings.keepsHistory then
          (List.range (steps + 1)).map fun step => norm (problem.iterateAt settings.ridge step)
        else []).Pairwise (· ≥ ·) := by
    intro norm antitone
    cases settings.keepsHistory with
    | false => exact List.Pairwise.nil
    | true =>
        simp only [if_true, List.pairwise_map]
        exact List.pairwise_lt_range.imp fun less => antitone less.le
  constructor
  · exact history (fun current => ‖current.residual‖)
      (norm_residual_antitone (semidefinite.isPositive_normalMap nonneg)
        (semidefinite.consistent nonneg))
  · intro absent
    apply history fun current => problem.residualNorm settings.ridge current.solution
    intro earlier later before
    simp only [residualNorm_of_unweighted absent]
    exact Real.sqrt_le_sqrt (objective_antitone semidefinite nonneg before)

end MatrixProblem

variable {problem}
variable {observer : MatrixRun J 𝕜 rows columns Bool} {before state : MatrixState J 𝕜 rows columns}
variable {opening : Opening ℝ} {course : Course ℝ}

/-! ### One iteration -/

section Iteration

variable (looks : Run.Looks observer) {threshold : ℝ}
  {result : Except (Fault ℝ) (Course ℝ) × MatrixState J 𝕜 rows columns}
  (move : Move problem settings observer threshold course state result)
  (stands : course.Stands problem settings state.workspace)
include looks move stands

/-- Only a full step records anything, also when the observer then fails. -/
theorem Move.recorder :
    ∃ steps, result.2.workspace.recorder = problem.recorderAt settings steps := by
  have unchanged := stands.place.recorder
  cases move with
  | unturned flat failed => exact ⟨_, unchanged⟩
  | turned flat stepped move =>
      refine ⟨_, Eq.trans ?_ unchanged⟩
      rw [move]
      rfl
  | unstepped curved failed => exact ⟨_, unchanged⟩
  | clipped curved stepped move =>
      refine ⟨_, Eq.trans ?_ unchanged⟩
      rw [move]
      rfl
  | stuck curved zero trail solution recorder => exact ⟨_, recorder.trans unchanged⟩
  | @full curved stepped nonzero next advance =>
      have place := stands.full (Workspace.normalImage_ne_zero curved) nonzero advance
      rw [Course.workspace_completed settings looks]
      exact ⟨_, place.recorder⟩

end Iteration

/-! ### A whole solve -/

omit [RCLike 𝕜] in
/-- The histories before the first iteration hold at most one norm each. -/
theorem MatrixProblem.falling_opened (keepsHistory : Bool) (norm : ℝ) {recorder : Recorder ℝ}
    (opened :
      recorder = (Recorder.cleared keepsHistory).recordResidual norm ∨
        ∃ optimality, recorder =
          ((Recorder.cleared keepsHistory).recordResidual norm).recordOptimality optimality) :
    problem.Falling recorder.toSnapshot := by
  rcases opened with rfl | ⟨optimality, rfl⟩
  · cases keepsHistory with
    | false => exact falling_of_short zero_le_one zero_le_one
    | true => exact falling_of_short le_rfl zero_le_one
  · cases keepsHistory with
    | false => exact falling_of_short zero_le_one zero_le_one
    | true => exact falling_of_short le_rfl le_rfl

private theorem MatrixProblem.falling_answered (workspace : MatrixWorkspace 𝕜 rows columns) :
    problem.Falling
      ((problem.toProblem (J := J)).prepared settings workspace).answered.recorder.toSnapshot := by
  unfold Workspace.answered Workspace.settled Problem.prepared Recorder.recordOptimality
    Recorder.recordResidual Recorder.cleared
  cases settings.keepsHistory with
  | false => exact falling_of_short zero_le_one zero_le_one
  | true => exact falling_of_short le_rfl le_rfl

theorem openCourse_falling_of_empty (empty : columns = 0) {norm : ℝ}
    {entered : MatrixState J 𝕜 rows columns}
    (announced : announce problem.toProblem settings before = (.ok norm, entered)) :
    problem.Falling
      (openCourse problem.toProblem settings norm entered).2.workspace.recorder.toSnapshot := by
  subst empty
  apply MatrixProblem.falling_opened settings.keepsHistory ‖problem.rightHandSide‖
  have start : entered.workspace.recorder =
      (Recorder.cleared settings.keepsHistory).recordResidual ‖problem.rightHandSide‖ := by
    obtain ⟨rfl, printed, rfl⟩ := of_announce_eq announced
    rfl
  have recorder := recorder_launch_of_empty settings problem entered norm
  rw [start] at recorder
  cases launches : launch problem.toProblem settings norm entered with
  | mk outcome after =>
      rw [launches] at recorder
      cases outcome with
      | error fault =>
          rw [openCourse_of_fault settings launches]
          exact recorder
      | ok start =>
          obtain ⟨lines, opens⟩ := openCourse_of_launch settings launches
          rw [opens]
          exact recorder

section Solve

variable (admissible : settings.Admissible) (looks : Run.Looks observer)
  (semidefinite : problem.WeightSemidefinite)
include admissible looks semidefinite

theorem Reaches.falling
    (reached : Reaches problem.toProblem settings observer before opening course state) :
    problem.Falling state.workspace.recorder.toSnapshot := by
  cases reached with
  | @opened norm entered _ free announced nonzero opens =>
      rcases Nat.eq_zero_or_pos columns with empty | sized
      · have falls := openCourse_falling_of_empty empty announced
        rw [opens] at falls
        exact falls
      · have starts := starts_of_opens sized admissible.ridge announced opens
        rw [starts.stands.place.recorder]
        exact MatrixProblem.falling_recorderAt semidefinite admissible.ridge _
  | iterated reached iterating budget ran =>
      have sized := reached.columns_pos admissible.absolute iterating
      have stands := reached.stands admissible looks sized (Course.underway_of_open iterating)
      have move := reached.moves admissible iterating
      rw [ran] at move
      obtain ⟨steps, recorder⟩ := move.recorder looks stands
      rw [recorder]
      exact MatrixProblem.falling_recorderAt semidefinite admissible.ridge steps

theorem Reaches.objective_iterate_le
    (reached : Reaches problem.toProblem settings observer before opening course state)
    (iterating : course.isOver opening.threshold = false) :
    problem.objective settings.ridge
        (iterate problem.toProblem settings observer opening.threshold course
          state).2.workspace.solution ≤
      problem.objective settings.ridge state.workspace.solution := by
  have ready := reached.ready admissible looks semidefinite.weightNonneg iterating
  rw [ready.stands.place.carries.solution]
  exact (reached.lands_iterate admissible looks semidefinite iterating).objective_le semidefinite
    admissible.ridge

variable {result : Except (Fault ℝ) (Report ℝ) × MatrixState J 𝕜 rows columns}
  (ending : Ending problem.toProblem settings observer before result)
  (free : before.workspace.busy = false)
include ending free

theorem Ending.falling : problem.Falling result.2.workspace.recorder.toSnapshot := by
  cases ending with
  | refused busy =>
      rw [free] at busy
      cases busy
  | zero announced zero answered =>
      obtain ⟨rfl, printed, rfl⟩ := of_announce_eq announced
      rw [solveZero_apply] at answered
      cases answered
      exact problem.falling_answered _
  | @unopened norm entered after fault announced nonzero failed =>
      rcases Nat.eq_zero_or_pos columns with empty | sized
      · have falls := openCourse_falling_of_empty empty announced
        rw [failed] at falls
        exact falls
      · obtain ⟨_, _, opened, _, _⟩ := openCourse_exact sized admissible.ridge announced
        rw [opened] at failed
        cases failed
  | interrupted reached iterating budget failed =>
      have sized := reached.columns_pos admissible.absolute iterating
      have stands := reached.stands admissible looks sized (Course.underway_of_open iterating)
      have move := reached.moves admissible iterating
      rw [failed] at move
      obtain ⟨steps, recorder⟩ := move.recorder looks stands
      rw [RunState.released, recorder]
      exact MatrixProblem.falling_recorderAt semidefinite admissible.ridge steps
  | finished reached ended closed =>
      obtain ⟨printed, figures, rfl, rfl⟩ := of_closeCourse_eq closed
      exact { reached.falling admissible looks semidefinite with }

theorem Ending.objective_le :
    problem.objective settings.ridge result.2.workspace.solution ≤
      problem.objective settings.ridge 0 := by
  obtain ⟨steps, lands⟩ := ending.lands admissible looks semidefinite free
  exact lands.objective_le_zero semidefinite admissible.ridge

end Solve

variable (problem settings)

/-- With a positive semidefinite preconditioner, whatever the ridge, the radius, the tolerances, the
budget and the observer, and however the solve ends: no recorded history rises, no iteration raises
the objective, be its step full, clipped or along the gradient, and the last solution is no worse
than zero. -/
theorem solve_descends (admissible : settings.Admissible)
    (semidefinite : problem.WeightSemidefinite) (observer : MatrixRun J 𝕜 rows columns Bool)
    (looks : Run.Looks observer) (before : MatrixState J 𝕜 rows columns)
    (free : before.workspace.busy = false) :
    let result := solve problem.toProblem settings observer before
    problem.Falling result.2.workspace.stats ∧
      (∀ report, result.1 = .ok report → problem.Falling report.stats) ∧
      (∀ opening course state,
        Reaches problem.toProblem settings observer before opening course state →
          course.isOver opening.threshold = false →
          problem.objective settings.ridge
              (iterate problem.toProblem settings observer opening.threshold course
                state).2.workspace.solution ≤
            problem.objective settings.ridge state.workspace.solution) ∧
      problem.objective settings.ridge result.2.workspace.solution ≤
        problem.objective settings.ridge 0 := by
  intro result
  have ending := solve_ends problem.toProblem settings observer before
  have falls := ending.falling admissible looks semidefinite free
  refine ⟨falls, ?_, ?_, ending.objective_le admissible looks semidefinite free⟩
  · intro report returned
    rw [ending.stats_eq returned]
    exact falls
  · intro opening course state reached iterating
    exact reached.objective_iterate_le admissible looks semidefinite iterating

/-- A clipped step that follows a full one does not raise the objective, and no recorded history
rises. -/
theorem solve_descends_pair :
    ∃ report final,
      solve MatrixProblem.pair.toProblem (.exact 2 2) (watch fun _ => .ok false)
          (.ofWorkspace MatrixProblem.pair.ownWorkspace) = (.ok report, final) ∧
        report.stats.status = .onBoundary ∧ MatrixProblem.pair.Falling report.stats ∧
        MatrixProblem.pair.objective 0 final.workspace.solution ≤
          MatrixProblem.pair.objective 0 !₂[4 / 5, 2 / 5] ∧
        MatrixProblem.pair.objective 0 final.workspace.solution ≤
          MatrixProblem.pair.objective 0 0 := by
  obtain ⟨report, final, opening, course, state, solves, status, -, reached, iterating, first, -, -,
    last⟩ := MatrixProblem.exists_crossing_pair
  obtain ⟨-, falls, lower, least⟩ := solve_descends MatrixProblem.pair (.exact 2 2)
    (Settings.admissible_exact zero_le_two 2) MatrixProblem.weightSemidefinite_pair
    (watch fun _ => .ok false) (looks_watch _) (.ofWorkspace MatrixProblem.pair.ownWorkspace) rfl
  rw [solves] at falls least
  refine ⟨report, final, solves, status, falls report rfl, ?_, least⟩
  rw [last, ← first]
  exact lower opening course state reached iterating

end ConjugateResidual
