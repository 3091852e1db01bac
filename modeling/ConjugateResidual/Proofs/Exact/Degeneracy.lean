import Mathlib
import ConjugateResidual.Proofs.Exact.Outcomes

/-!
How a solve can fail. The only fault left in exact arithmetic is a division by the curvature along
the gradient: it is met where the direction still has an image but the gradient has no curvature,
and a step of length zero was taken. The divisors before it are tested, and the steps to the
boundary are never refused. With a positive semidefinite preconditioner, or a ridge, there always
is curvature.
-/

namespace ConjugateResidual

open Arithmetic Method

variable {𝕜 J : Type} [RCLike 𝕜] {rows columns : ℕ}
variable {problem : MatrixProblem 𝕜 rows columns} {settings : Settings ℝ}
variable {observer : MatrixRun J 𝕜 rows columns Bool} {before state : MatrixState J 𝕜 rows columns}
variable {opening : Opening ℝ} {course : Course ℝ}

def Run.Answers {R X Y : Type} (observer : Run J R X Y Bool) : Prop :=
  ∀ state, ∃ exited, (observer state).1 = .ok exited

theorem answers_neverExit {R X Y : Type} : Run.Answers (neverExit : Run J R X Y Bool) :=
  fun _ => ⟨false, rfl⟩

/-- The direction has an image, but the gradient no curvature to continue with. -/
structure Workspace.Stuck (problem : MatrixProblem 𝕜 rows columns) (settings : Settings ℝ)
    (threshold : ℝ) (workspace : MatrixWorkspace 𝕜 rows columns) : Prop where
  curved : ¬ workspace.Flat settings threshold
  level : curvature (problem.normalMap settings.ridge) workspace.gradient = 0
  unclipped :
    directionStep settings 0 (‖workspace.normalImage‖ ^ 2) workspace.solution workspace.direction =
      .ok (0, false)

/-- An iteration from an iterate of the method fails where it is stuck, and nowhere else. -/
theorem Move.fails_iff (answers : Run.Answers observer) {threshold : ℝ}
    (stands : course.Stands problem settings state.workspace)
    (descends : state.workspace.gradient ≠ 0)
    {result : Except (Fault ℝ) (Course ℝ) × MatrixState J 𝕜 rows columns}
    (move : Move problem settings observer threshold course state result) (fault : Fault ℝ) :
    result.1 = .error fault ↔
      fault = .zeroDivisor ∧ state.workspace.Stuck problem settings threshold := by
  have measured := stands.curvature_gradient
  cases move with
  | unturned flat failed =>
      obtain ⟨step, stepped⟩ := gradientStep_ok settings descends
        (congrArg Progress.optimality stands.progress)
      rw [stepped] at failed
      cases failed
  | turned flat stepped move =>
      constructor
      · intro found
        cases found
      · rintro ⟨-, stuck⟩
        exact absurd flat stuck.curved
  | unstepped curved failed =>
      rcases directionStep_ok settings (Workspace.square_ne_zero curved)
        (stands.place.direction_ne_zero curved) with ⟨step, stepped⟩ | stepped
      all_goals
        rw [stepped] at failed
        cases failed
  | clipped curved stepped move =>
      constructor
      · intro found
        cases found
      · rintro ⟨-, stuck⟩
        rw [measured, stuck.level, stuck.unclipped] at stepped
        cases stepped
  | stuck curved zero trail solution recorder stepped =>
      constructor
      · intro found
        cases found
        rw [zero, zero_div] at stepped
        exact ⟨rfl, { curved, level := measured.symm.trans zero, unclipped := stepped }⟩
      · rintro ⟨rfl, -⟩
        rfl
  | @full curved stepped nonzero next advance =>
      constructor
      · intro found
        obtain ⟨printed, completes⟩ :=
          course.completed_apply settings observer (problem.measure settings next)
            { state with workspace := next }
        obtain ⟨exited, answered⟩ := answers
          { state with
            printed
            workspace := next.completed (course.iterations + 1) (problem.measure settings next) }
        rw [completes] at found
        simp only [answered] at found
        cases found
      · rintro ⟨-, stuck⟩
        exact absurd (measured.trans stuck.level) nonzero

def MatrixProblem.Curved (problem : MatrixProblem 𝕜 rows columns) (ridge : ℝ) : Prop :=
  problem.WeightSemidefinite ∨ problem.WeightNonneg ∧ 0 < ridge

section Iteration

variable (admissible : settings.Admissible) (looks : Run.Looks observer)
  (reached : Reaches problem.toProblem settings observer before opening course state)
  (iterating : course.isOver opening.threshold = false)
include admissible looks reached iterating

theorem Reaches.fails_iff (answers : Run.Answers observer) (fault : Fault ℝ) :
    (iterate problem.toProblem settings observer opening.threshold course state).1 =
        .error fault ↔
      fault = .zeroDivisor ∧ state.workspace.Stuck problem settings opening.threshold :=
  (reached.moves admissible iterating).fails_iff answers
    (reached.stands admissible looks (reached.columns_pos admissible.absolute iterating)
      (Course.underway_of_open iterating))
    (reached.gradient_ne_zero admissible looks iterating) fault

theorem Reaches.curvature_ne_zero (curved : problem.Curved settings.ridge) :
    curvature (problem.normalMap settings.ridge) state.workspace.gradient ≠ 0 := by
  rcases curved with semidefinite | ⟨nonneg, ridge⟩
  · have poised := reached.poised admissible looks semidefinite iterating
    rw [← poised.stands.curvature_gradient]
    exact poised.curved.ne'
  · have descends := reached.gradient_ne_zero admissible looks iterating
    rw [MatrixProblem.curvature_normalMap]
    exact (add_pos_of_nonneg_of_pos (nonneg _)
      (mul_pos ridge (pow_pos (norm_pos_iff.mpr descends) 2))).ne'

end Iteration

variable (problem settings observer before) in
/-- One of the iterations that are due cannot go on. -/
def GetsStuck : Prop :=
  ∃ opening course state,
    Reaches problem.toProblem settings observer before opening course state ∧
      course.isOver opening.threshold = false ∧ course.iterations < settings.budget ∧
      state.workspace.Stuck problem settings opening.threshold

section Solve

variable (problem) (admissible : settings.Admissible) (looks : Run.Looks observer)
include admissible looks

private theorem not_getsStuck (curved : problem.Curved settings.ridge) :
    ¬ GetsStuck problem settings observer before := by
  rintro ⟨opening, course, state, reached, iterating, -, stuck⟩
  exact reached.curvature_ne_zero admissible looks iterating curved stuck.level

theorem solve_error_iff (sized : 0 < columns) (answers : Run.Answers observer)
    (free : before.workspace.busy = false) (fault : Fault ℝ) :
    (solve problem.toProblem settings observer before).1 = .error fault ↔
      fault = .zeroDivisor ∧ GetsStuck problem settings observer before := by
  constructor
  · intro failed
    have ending := solve_ends problem.toProblem settings observer before
    generalize solve problem.toProblem settings observer before = result at ending failed
    cases ending with
    | refused busy =>
        rw [free] at busy
        cases busy
    | zero announced zero answered =>
        rw [solveZero_apply] at answered
        cases answered
        cases failed
    | unopened announced nonzero fails =>
        obtain ⟨_, _, opened, _, _⟩ := openCourse_exact sized admissible.ridge announced
        rw [opened] at fails
        cases fails
    | interrupted reached iterating budget fails =>
        cases failed
        obtain ⟨kind, stuck⟩ :=
          (reached.fails_iff admissible looks iterating answers _).mp (congrArg Prod.fst fails)
        exact ⟨kind, _, _, _, reached, iterating, budget, stuck⟩
    | finished reached ended closed =>
        obtain ⟨printed, figures, rfl, rfl⟩ := of_closeCourse_eq closed
        cases failed
  · rintro ⟨rfl, opening, course, state, reached, iterating, budget, stuck⟩
    have fails :=
      (reached.fails_iff admissible looks iterating answers .zeroDivisor).mpr ⟨rfl, stuck⟩
    rw [reached.fails iterating budget (Prod.ext fails rfl)]

end Solve

variable (problem) in
/-- With whatever preconditioner and any observer that answers, a solve fails exactly if one of its
iterations gets stuck, and then by a division by zero. With a positive semidefinite preconditioner,
or with a ridge and one that turns no vector around, it always returns. -/
theorem solve_fails_iff (admissible : settings.Admissible) (sized : 0 < columns)
    (looks : Run.Looks observer) (answers : Run.Answers observer)
    (free : before.workspace.busy = false) :
    (∀ fault,
      (solve problem.toProblem settings observer before).1 = .error fault ↔
        fault = .zeroDivisor ∧ GetsStuck problem settings observer before) ∧
    (problem.Curved settings.ridge →
      ∃ report, (solve problem.toProblem settings observer before).1 = .ok report) := by
  have failing := solve_error_iff problem admissible looks sized answers free
  refine ⟨failing, ?_⟩
  intro curved
  cases outcome : (solve problem.toProblem settings observer before).1 with
  | ok report => exact ⟨report, rfl⟩
  | error fault =>
      exact absurd ((failing fault).mp outcome).2 (not_getsStuck problem admissible looks curved)

theorem solve_fails_iff_unit :
    ∃ report,
      (solve MatrixProblem.unit.toProblem (.exact 0 1) (neverExit : MatrixRun Unit ℝ 1 1 Bool)
        (.ofWorkspace MatrixProblem.unit.ownWorkspace)).1 = .ok report :=
  (solve_fails_iff MatrixProblem.unit (Settings.admissible_exact le_rfl 1) Nat.one_pos
    looks_neverExit answers_neverExit rfl).2 (.inl MatrixProblem.weightSemidefinite_unit)

/-! ### A preconditioner without a sign -/

namespace MatrixProblem

/-- Two equations in two unknowns, weighted by the exchange of the two residuals: symmetric, but of
neither sign. -/
noncomputable def exchanged : MatrixProblem ℝ 2 2 :=
  { operator := 1, weight? := some (.multiply, !![0, 1; 1, 0])
    rightHandSide := EuclideanSpace.single 0 1, field := .real .double, tolerance := 0 }

theorem weightMap_exchanged (vector : EuclideanSpace ℝ (Fin 2)) :
    exchanged.weightMap vector = !₂[vector 1, vector 0] := by
  unfold weightMap exchanged
  ext index
  fin_cases index
  · simp [Matrix.toLpLin_apply, dotProduct]
  · simp [Matrix.toLpLin_apply, dotProduct]

theorem adjointMap_exchanged (vector : EuclideanSpace ℝ (Fin 2)) :
    exchanged.adjointMap vector = vector := by
  unfold adjointMap exchanged
  simp

private theorem normalMap_exchanged (vector : EuclideanSpace ℝ (Fin 2)) :
    exchanged.normalMap 0 vector = !₂[vector 1, vector 0] := by
  have forward : exchanged.forwardMap vector = vector := by
    unfold forwardMap exchanged
    simp
  rw [normalMap_apply, forward, weightMap_exchanged, adjointMap_exchanged, RCLike.ofReal_zero,
    zero_smul, add_zero]

theorem normalVector_exchanged : exchanged.normalVector = !₂[0, 1] := by
  unfold normalVector
  rw [adjointMap_exchanged, weightMap_exchanged]
  simp [exchanged]

theorem normalMap_normalVector_exchanged :
    exchanged.normalMap 0 exchanged.normalVector = !₂[1, 0] := by
  rw [normalMap_exchanged, normalVector_exchanged]
  rfl

private theorem curvature_exchanged :
    curvature (exchanged.normalMap 0) exchanged.normalVector = 0 := by
  unfold curvature
  rw [normalMap_normalVector_exchanged, normalVector_exchanged]
  simp [PiLp.inner_apply]

end MatrixProblem

/-- Without a sign the fault is met at once: the gradient has an image, but no curvature. -/
theorem solve_exchanged_fails :
    (solve MatrixProblem.exchanged.toProblem (.exact 0 1) (neverExit : MatrixRun Unit ℝ 2 2 Bool)
      (.ofWorkspace MatrixProblem.exchanged.ownWorkspace)).1 = .error .zeroDivisor := by
  let settings := Settings.exact 0 1
  have admissible : settings.Admissible := Settings.admissible_exact le_rfl 1
  have far : (0 : ℝ) < ‖MatrixProblem.exchanged.normalVector‖ := by
    rw [norm_pos_iff, MatrixProblem.normalVector_exchanged]
    intro zero
    simpa using congrArg (fun vector => vector 1) zero
  have free : (RunState.ofWorkspace (J := Unit)
      MatrixProblem.exchanged.ownWorkspace).workspace.busy = false := rfl
  obtain ⟨opening, state, reached, starts⟩ :=
    exists_opened MatrixProblem.exchanged settings neverExit Nat.two_pos le_rfl
      (MatrixProblem.exchanged.rightHandSide_ne_zero (norm_pos_iff.mp far)) free
  have iterating : opening.course.isOver opening.threshold = false := by
    apply starts.isOver_eq_false
    rw [MatrixProblem.threshold_exact]
    exact far
  have unbounded : ¬ 0 < settings.radius := lt_irrefl 0
  have carries := starts.stands.place.carries
  rw [starts.iterations] at carries
  have curved : ¬ state.workspace.Flat settings opening.threshold := by
    rintro (zero | ⟨bounded, -⟩)
    · have image : MatrixProblem.exchanged.normalMap 0 MatrixProblem.exchanged.normalVector = 0 :=
        carries.normalImage.symm.trans zero
      rw [MatrixProblem.normalMap_normalVector_exchanged] at image
      simpa using congrArg (fun vector => vector 0) image
    · exact unbounded bounded
  apply (solve_error_iff _ admissible looks_neverExit Nat.two_pos answers_neverExit free _).mpr
  refine ⟨rfl, opening, opening.course, state, reached, iterating, ?_, ?_⟩
  · rw [starts.iterations]
    exact Nat.one_pos
  · refine { curved, level := ?_, unclipped := ?_ }
    · rw [carries.gradient]
      exact MatrixProblem.curvature_exchanged
    · rw [directionStep_of_unbounded (Workspace.square_ne_zero curved) unbounded, zero_div]

end ConjugateResidual
