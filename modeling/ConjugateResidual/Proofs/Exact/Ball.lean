import Mathlib
import ConjugateResidual.Proofs.Exact.FullSteps

/-!
The trust region in exact arithmetic. While the steps are full ones the solution stays strictly
inside the ball; the last step may take it to the sphere, but not beyond. A step is clipped exactly
when the full one would leave the ball.
-/

namespace ConjugateResidual

open Arithmetic Method

variable {𝕜 J : Type} [RCLike 𝕜] {rows columns : ℕ}
variable {problem : MatrixProblem 𝕜 rows columns} {settings : Settings ℝ}

variable {observer : MatrixRun J 𝕜 rows columns Bool} {before state : MatrixState J 𝕜 rows columns}
variable {opening : Opening ℝ} {course : Course ℝ}

structure Course.Ready (problem : MatrixProblem 𝕜 rows columns) (settings : Settings ℝ)
    (course : Course ℝ) (workspace : MatrixWorkspace 𝕜 rows columns) : Prop where
  stands : course.Stands problem settings workspace
  inside : 0 < settings.radius → ‖workspace.solution‖ < settings.radius
  descends : workspace.gradient ≠ 0

/-- Where the full step along the direction leads. -/
noncomputable def Workspace.fullStep (curved : ℝ) (workspace : MatrixWorkspace 𝕜 rows columns) :
    EuclideanSpace 𝕜 (Fin columns) :=
  workspace.solution +
    ((curved / ‖workspace.normalImage‖ ^ 2 : ℝ) : 𝕜) • workspace.direction

theorem Course.Stands.step_eq {workspace : MatrixWorkspace 𝕜 rows columns}
    (stands : course.Stands problem settings workspace) :
    course.curvature / ‖workspace.normalImage‖ ^ 2 =
      (problem.iterateAt settings.ridge course.iterations).step
        (problem.normalMap settings.ridge) := by
  rw [stands.curvature_eq, stands.place.carries.normalImage]
  rfl

/-- The full step leads to the next iterate. -/
theorem Course.Stands.fullStep_eq {workspace : MatrixWorkspace 𝕜 rows columns}
    (stands : course.Stands problem settings workspace) :
    workspace.fullStep course.curvature =
      (problem.iterateAt settings.ridge (course.iterations + 1)).solution := by
  unfold Workspace.fullStep
  rw [stands.step_eq, stands.place.carries.solution, stands.place.carries.direction]
  rfl

section Iteration

variable (stands : course.Stands problem settings state.workspace)
  (inside : ‖state.workspace.solution‖ < settings.radius)
include stands inside

theorem Course.Stands.full_inside (nonneg : problem.WeightNonneg) (ridge : 0 ≤ settings.ridge)
    {threshold : ℝ} (curved : ¬ state.workspace.Flat settings threshold)
    (stepped :
      directionStep settings course.curvature (‖state.workspace.normalImage‖ ^ 2)
        state.workspace.solution state.workspace.direction =
          .ok (course.curvature / ‖state.workspace.normalImage‖ ^ 2, false)) :
    ‖state.workspace.fullStep course.curvature‖ < settings.radius := by
  apply directionStep_full (Workspace.square_ne_zero curved) inside
    (stands.place.direction_ne_zero curved) _ stepped
  apply div_nonneg _ (sq_nonneg _)
  rw [stands.curvature_gradient]
  exact MatrixProblem.curvature_nonneg nonneg ridge _

private theorem Move.within (looks : Run.Looks observer) (nonneg : problem.WeightNonneg)
    (ridge : 0 ≤ settings.ridge) (descends : state.workspace.gradient ≠ 0) {threshold : ℝ}
    {result : Except (Fault ℝ) (Course ℝ) × MatrixState J 𝕜 rows columns}
    (move : Move problem settings observer threshold course state result)
    {next : Course ℝ} {after : MatrixState J 𝕜 rows columns} (same : result = (.ok next, after)) :
    ‖after.workspace.solution‖ ≤ settings.radius ∧
      (next.Underway → ‖after.workspace.solution‖ < settings.radius) := by
  cases move with
  | unturned flat failed => cases same
  | turned flat stepped move =>
      cases same
      refine ⟨?_, fun underway => by cases underway.1⟩
      rw [move]
      exact gradientStep_within inside descends
        (congrArg Progress.optimality stands.progress) stepped
  | unstepped curved failed => cases same
  | clipped curved stepped move =>
      cases same
      refine ⟨?_, fun underway => by cases underway.2⟩
      rw [move]
      exact (directionStep_clipped (Workspace.square_ne_zero curved) inside
        (stands.place.direction_ne_zero curved) stepped).2.2.1.le
  | stuck curved zero trail solution recorder => cases same
  | @full curved stepped nonzero advanced advance =>
      have shorter := stands.full_inside inside nonneg ridge curved stepped
      have workspace := Course.workspace_completed settings looks course
        (problem.measure settings advanced) { state with workspace := advanced }
      rw [same] at workspace
      rw [workspace, advance]
      exact ⟨shorter.le, fun _ => shorter⟩

end Iteration

namespace Reaches

variable (admissible : settings.Admissible) (looks : Run.Looks observer)
  (bounded : 0 < settings.radius) (nonneg : problem.WeightNonneg)
include admissible looks bounded nonneg

theorem within
    (reached : Reaches problem.toProblem settings observer before opening course state) :
    ‖state.workspace.solution‖ ≤ settings.radius ∧
      (course.Underway → ‖state.workspace.solution‖ < settings.radius) := by
  -- Without columns a solve may not even open, but there is only one solution.
  rcases Nat.eq_zero_or_pos columns with empty | sized
  · subst empty
    have zero : ‖state.workspace.solution‖ = 0 := norm_eq_zero.mpr (Subsingleton.elim _ _)
    rw [zero]
    exact ⟨bounded.le, fun _ => bounded⟩
  induction reached with
  | opened free announced nonzero opens =>
      have starts := starts_of_opens sized admissible.ridge announced opens
      have place := starts.stands.place
      rw [starts.iterations] at place
      have zero : ‖_‖ = (0 : ℝ) := norm_eq_zero.mpr place.carries.solution
      rw [zero]
      exact ⟨bounded.le, fun _ => bounded⟩
  | @iterated course next state after reached iterating budget ran ih =>
      have underway := Course.underway_of_open iterating
      have stands := reached.stands admissible looks sized underway
      exact Move.within stands (ih.2 underway) looks nonneg admissible.ridge
        (reached.gradient_ne_zero admissible looks iterating)
        (reached.moves admissible iterating) ran

omit bounded in
theorem ready
    (reached : Reaches problem.toProblem settings observer before opening course state)
    (iterating : course.isOver opening.threshold = false) :
    course.Ready problem settings state.workspace := by
  have underway := Course.underway_of_open iterating
  have sized := reached.columns_pos admissible.absolute iterating
  exact
    { stands := reached.stands admissible looks sized underway
      inside := fun bounded => (reached.within admissible looks bounded nonneg).2 underway
      descends := reached.gradient_ne_zero admissible looks iterating }

omit bounded in
theorem moves_in_full
    (reached : Reaches problem.toProblem settings observer before opening course state)
    (iterating : course.isOver opening.threshold = false)
    (curved : ¬ state.workspace.Flat settings opening.threshold)
    (short : ‖state.workspace.fullStep course.curvature‖ < settings.radius) :
    (iterate problem.toProblem settings observer opening.threshold course
          state).2.workspace.solution = state.workspace.fullStep course.curvature ∧
      ∀ next, (iterate problem.toProblem settings observer opening.threshold course state).1 =
        .ok next → next.clipped = false ∧ next.flat = false := by
  have underway := Course.underway_of_open iterating
  have ready := reached.ready admissible looks nonneg iterating
  have stepped := directionStep_of_inside (Workspace.square_ne_zero curved)
    (ready.stands.place.direction_ne_zero curved) fun bounded => ⟨ready.inside bounded, short⟩
  rcases (reached.moves admissible iterating).unclipped curved stepped with
    ⟨zero, after, failed, _, solution, _⟩ | ⟨_, full⟩
  · rw [failed]
    refine ⟨?_, fun next found => by cases found⟩
    unfold Workspace.fullStep
    rw [solution, zero, zero_div, RCLike.ofReal_zero, zero_smul, add_zero]
  · rw [full]
    constructor
    · rw [Course.workspace_completed settings looks]
      rfl
    · intro next found
      obtain ⟨exited, counted⟩ := Course.of_completed_eq_ok (Prod.ext found rfl)
      rw [counted]
      exact ⟨underway.2, underway.1⟩

end Reaches

structure Crosses (settings : Settings ℝ) (curved : ℝ)
    (workspace : MatrixWorkspace 𝕜 rows columns) (point : EuclideanSpace 𝕜 (Fin columns)) :
    Prop where
  onSphere : ‖point‖ = settings.radius
  onSegment : ∃ share : ℝ, 0 ≤ share ∧ share ≤ 1 ∧
    point = workspace.solution +
      (share : 𝕜) • (workspace.fullStep curved - workspace.solution)
  beyond : settings.radius ≤ ‖workspace.fullStep curved‖

/-- A course is clipped only by a step that would leave the ball, and ends where that step crosses
the sphere. -/
theorem Reaches.crosses (admissible : settings.Admissible) (looks : Run.Looks observer)
    (bounded : 0 < settings.radius) (nonneg : problem.WeightNonneg)
    (reached : Reaches problem.toProblem settings observer before opening course state)
    (clipped : course.clipped = true) :
    ∃ last between,
      Reaches problem.toProblem settings observer before opening last between ∧
        last.isOver opening.threshold = false ∧ last.iterations = course.iterations ∧
        between.journal = state.journal ∧
        Crosses settings last.curvature between.workspace state.workspace.solution := by
  cases reached with
  | opened free announced nonzero opens =>
      obtain ⟨start, starts⟩ := opening_of_openCourse opens
      rw [starts] at clipped
      cases clipped
  | @iterated last _ between _ earlier iterating budget ran =>
      have underway := Course.underway_of_open iterating
      have ready := earlier.ready admissible looks nonneg iterating
      refine ⟨last, between, earlier, iterating, ?_⟩
      have move := earlier.moves admissible iterating
      rw [ran] at move
      generalize same : (Except.ok course, state) = result at move
      cases move with
      | unturned flat failed => cases same
      | turned flat stepped move =>
          cases same
          rw [underway.2] at clipped
          cases clipped
      | unstepped curved failed => cases same
      | @clipped step _ curved stepped move =>
          cases same
          obtain ⟨positive, short, onSphere, beyond⟩ := directionStep_clipped
            (Workspace.square_ne_zero curved) (ready.inside bounded)
            (ready.stands.place.direction_ne_zero curved) stepped
          -- The clipped length is a share of the full one.
          have whole : 0 < last.curvature / ‖between.workspace.normalImage‖ ^ 2 :=
            positive.trans_le short
          refine ⟨rfl, rfl, ?_⟩
          rw [move]
          refine { onSphere, onSegment := ?_, beyond }
          refine ⟨step / (last.curvature / ‖between.workspace.normalImage‖ ^ 2),
            div_nonneg positive.le whole.le, (div_le_one whole).mpr short, ?_⟩
          rw [Workspace.fullStep, add_sub_cancel_left, smul_smul, ← RCLike.ofReal_mul,
            div_mul_cancel₀ _ whole.ne']
          rfl
      | stuck curved zero trail solution recorder => cases same
      | full curved stepped nonzero advance =>
          obtain ⟨exited, counted⟩ := Course.of_completed_eq_ok same.symm
          rw [counted, underway.2] at clipped
          cases clipped

structure MatrixProblem.Leaves (problem : MatrixProblem 𝕜 rows columns) (settings : Settings ℝ)
    (steps : ℕ) : Prop extends problem.Due settings steps where
  beyond : settings.radius ≤ ‖(problem.iterateAt settings.ridge (steps + 1)).solution‖

/-- Where the method would leave the ball, a solve ends on the sphere. -/
theorem Reaches.ends_on_sphere (admissible : settings.Admissible) (looks : Run.Looks observer)
    (bounded : 0 < settings.radius) (nonneg : problem.WeightNonneg) (sized : 0 < columns)
    (reached : Reaches problem.toProblem settings observer before opening course state)
    (underway : course.Underway) (running : course.exited = false)
    (leaves : problem.Leaves settings course.iterations)
    (budget : course.iterations < settings.budget) :
    course.isOver opening.threshold = false ∧
      ∃ report final, solve problem.toProblem settings observer before = (.ok report, final) ∧
        report.stats.status = .onBoundary ∧ report.stats.iterations = course.iterations ∧
        final.journal = state.journal ∧
        final.workspace.solution =
          (iterate problem.toProblem settings observer opening.threshold course
            state).2.workspace.solution := by
  obtain ⟨iterating, curved⟩ :=
    reached.due admissible looks sized underway running leaves.toDue
  refine ⟨iterating, ?_⟩
  have ready := reached.ready admissible looks nonneg iterating
  rcases directionStep_ok settings (Workspace.square_ne_zero curved)
      (ready.stands.place.direction_ne_zero curved) with ⟨step, clips⟩ | full
  · have ran := (reached.moves admissible iterating).of_clipped curved clips
    have last := Reaches.iterated reached iterating budget ran
    obtain ⟨printed, figures, solves⟩ := last.ends (.inl (by simp [Course.isOver]))
    refine ⟨_, _, solves, ?_, rfl, rfl, ?_⟩
    · change Course.status settings opening.threshold _ = .onBoundary
      simp [Course.status, running]
    · rw [ran]
      rfl
  · have short := ready.stands.full_inside (ready.inside bounded) nonneg admissible.ridge curved
      full
    rw [ready.stands.fullStep_eq] at short
    exact absurd short (not_lt.mpr leaves.beyond)

theorem Shown.inside (admissible : settings.Admissible) (looks : Run.Looks observer)
    (bounded : 0 < settings.radius) (nonneg : problem.WeightNonneg) {steps : ℕ}
    {shown : MatrixWorkspace 𝕜 rows columns}
    (shows : Shown problem settings observer before steps shown) :
    ‖shown.solution‖ < settings.radius := by
  cases shows with
  | completed reached iterating curved stepped nonzero advance =>
      have ready := reached.ready admissible looks nonneg iterating
      rw [advance]
      exact ready.stands.full_inside (ready.inside bounded) nonneg admissible.ridge curved stepped

private theorem Course.clipped_of_onBoundary {threshold : ℝ}
    (status : course.status settings threshold = .onBoundary) : course.clipped = true := by
  unfold Course.status at status
  split_ifs at status with exited clipped
  exact clipped

section Ends

variable {result : Except (Fault ℝ) (Report ℝ) × MatrixState J 𝕜 rows columns}
variable (ending : Ending problem.toProblem settings observer before result)
  (admissible : settings.Admissible) (looks : Run.Looks observer)
  (bounded : 0 < settings.radius) (nonneg : problem.WeightNonneg) {report : Report ℝ}
  (returned : result.1 = .ok report)
include ending admissible looks bounded nonneg returned

theorem Ending.within : ‖result.2.workspace.solution‖ ≤ settings.radius := by
  cases ending with
  | refused busy => cases returned
  | zero announced zero answered =>
      obtain ⟨rfl, printed, rfl⟩ := of_announce_eq announced
      rw [solveZero_apply] at answered
      cases answered
      change ‖(0 : EuclideanSpace 𝕜 (Fin columns))‖ ≤ settings.radius
      rw [norm_zero]
      exact bounded.le
  | unopened announced nonzero failed => cases returned
  | interrupted reached iterating budget failed => cases returned
  | finished reached ended closed =>
      obtain ⟨printed, figures, rfl, rfl⟩ := of_closeCourse_eq closed
      exact (reached.within admissible looks bounded nonneg).1

/-- A solve that reports to be on the boundary got there by a clipped step. -/
theorem Ending.crosses (onBoundary : report.stats.status = .onBoundary) :
    ∃ opening last between,
      Reaches problem.toProblem settings observer before opening last between ∧
        last.isOver opening.threshold = false ∧
        report.stats.iterations = last.iterations ∧
        between.journal = result.2.journal ∧
        Crosses settings last.curvature between.workspace result.2.workspace.solution := by
  cases ending with
  | refused busy => cases returned
  | @zero _ entered _ _ announced zero answered =>
      rw [solveZero_apply] at answered
      cases answered
      cases returned
      cases entered.workspace.stats_answered.2.1.symm.trans onBoundary
  | unopened announced nonzero failed => cases returned
  | interrupted reached iterating budget failed => cases returned
  | finished reached ended closed =>
      obtain ⟨printed, figures, rfl, rfl⟩ := of_closeCourse_eq closed
      cases returned
      obtain ⟨last, between, earlier, iterating, count, journal, crosses⟩ :=
        reached.crosses admissible looks bounded nonneg (Course.clipped_of_onBoundary onBoundary)
      exact ⟨_, last, between, earlier, iterating, congrArg Nat.cast count.symm, journal, crosses⟩

end Ends

variable (problem settings)

/-- Whatever the preconditioner, the tolerances, the budget and the observer: all solutions that are
shown lie inside the ball, the solution that is returned lies in it, a solve that reports to be on
the boundary ends where the last full step would have crossed the sphere, and a step that would end
inside is not clipped. -/
theorem solve_respects_ball (admissible : settings.Admissible) (bounded : 0 < settings.radius)
    (nonneg : problem.WeightNonneg)
    (answer : List (MatrixWorkspace 𝕜 rows columns) → Except (Fault ℝ) Bool)
    (workspace : MatrixWorkspace 𝕜 rows columns) :
    let before : MatrixState (MatrixWorkspace 𝕜 rows columns) 𝕜 rows columns :=
      .ofWorkspace workspace
    let result := solve problem.toProblem settings (watch answer) before
    (∀ shown ∈ result.2.journal, ‖shown.solution‖ < settings.radius) ∧
      (∀ report, result.1 = .ok report →
        ‖result.2.workspace.solution‖ ≤ settings.radius ∧
          (report.stats.status = .onBoundary →
            ∃ opening last between,
              Reaches problem.toProblem settings (watch answer) before opening last between ∧
                last.isOver opening.threshold = false ∧
                report.stats.iterations = last.iterations ∧
                between.journal = result.2.journal ∧
                Crosses settings last.curvature between.workspace
                  result.2.workspace.solution)) ∧
      ∀ opening course state,
        Reaches problem.toProblem settings (watch answer) before opening course state →
          course.isOver opening.threshold = false →
          (directionIsFlat settings opening.threshold (‖state.workspace.normalImage‖ ^ 2)
            state).1 = .ok false →
          ‖state.workspace.fullStep course.curvature‖ < settings.radius →
          (iterate problem.toProblem settings (watch answer) opening.threshold course
                state).2.workspace.solution = state.workspace.fullStep course.curvature ∧
            ∀ next, (iterate problem.toProblem settings (watch answer) opening.threshold course
              state).1 = .ok next → next.clipped = false ∧ next.flat = false := by
  intro before result
  have looks := looks_watch answer
  refine ⟨?_, ?_, ?_⟩
  · intro shown member
    obtain ⟨index, found⟩ := List.mem_iff_getElem?.mp member
    exact (seen_solve admissible workspace index shown found).inside admissible looks bounded
      nonneg
  · intro report returned
    have ending := solve_ends problem.toProblem settings (watch answer) before
    exact ⟨ending.within admissible looks bounded nonneg returned,
      ending.crosses admissible looks bounded nonneg returned⟩
  · intro opening course state reached iterating passed short
    obtain ⟨flat, tested, flat_iff⟩ := directionIsFlat_exact settings state opening.threshold
    rw [tested] at passed
    cases passed
    have curved : ¬ state.workspace.Flat settings opening.threshold :=
      fun found => Bool.false_ne_true (flat_iff.mpr found)
    exact reached.moves_in_full admissible looks nonneg iterating curved short

/-! ### Two equations in two unknowns -/

namespace MatrixProblem

private theorem leaves_pair : pair.Leaves (.exact 2 2) 1 := by
  refine { due_pair_one rfl (threshold_exact pair 2 2) with beyond := ?_ }
  change (2 : ℝ) ≤ ‖(pair.iterateAt 0 2).solution‖
  rw [solution_iterateAt_pair_two]
  apply le_of_sq_le_sq _ (norm_nonneg _)
  rw [norm_sq_pair]
  norm_num

/-- One full step, and a second one that is clipped. -/
theorem exists_crossing_pair :
    ∃ report final opening course state,
      solve pair.toProblem (.exact 2 2) (watch fun _ => .ok false)
          (.ofWorkspace pair.ownWorkspace) = (.ok report, final) ∧
        report.stats.status = .onBoundary ∧ report.stats.iterations = 1 ∧
        Reaches pair.toProblem (.exact 2 2) (watch fun _ => .ok false)
          (.ofWorkspace pair.ownWorkspace) opening course state ∧
        course.isOver opening.threshold = false ∧
        state.workspace.solution = !₂[4 / 5, 2 / 5] ∧ final.journal = state.journal ∧
        final.journal.length = 1 ∧
        final.workspace.solution =
          (iterate pair.toProblem (.exact 2 2) (watch fun _ => .ok false) opening.threshold course
            state).2.workspace.solution := by
  have admissible := Settings.admissible_exact zero_le_two 2
  have nonneg := weightSemidefinite_pair.weightNonneg
  have quiet : (RunState.ofWorkspace (J := MatrixWorkspace ℝ 2 2) pair.ownWorkspace).journal = [] :=
    rfl
  have goesOn : ∀ earlier < 1, pair.GoesOn (.exact 2 2) earlier := by
    intro earlier first
    rw [Nat.lt_one_iff.mp first]
    exact goesOn_pair_zero rfl (threshold_exact pair 2 2) fun _ => one_lt_two
  obtain ⟨opening, course, state, reached, count, underway, running⟩ :=
    exists_reached_of_goesOn admissible Nat.two_pos goesOn rfl rightHandSide_pair_ne_zero
      one_le_two (fun _ _ _ => rfl) quiet
  have leaves : pair.Leaves (.exact 2 2) course.iterations := by
    rw [count]
    exact leaves_pair
  have budget : course.iterations < (Settings.exact 2 2).budget := by
    rw [count]
    exact one_lt_two
  obtain ⟨iterating, report, final, solves, status, counted, journal, solution⟩ :=
    reached.ends_on_sphere admissible (looks_watch _) two_pos nonneg Nat.two_pos underway running
      leaves budget
  have stands := reached.stands admissible (looks_watch _) Nat.two_pos underway
  refine ⟨report, final, opening, course, state, solves, status, ?_, reached, iterating, ?_,
    journal, ?_, solution⟩
  · rw [counted, count]
    rfl
  · rw [stands.place.carries.solution, count]
    exact congrArg Iterate.solution iterateAt_pair_one
  · rw [journal, (reached.seen admissible rfl).2, count]

end MatrixProblem

/-- The solution that is shown after the first step lies inside the ball, and the second step ends
on the sphere, where the method would have gone on. -/
theorem solve_respects_ball_pair :
    ∃ report final,
      solve MatrixProblem.pair.toProblem (.exact 2 2) (watch fun _ => .ok false)
          (.ofWorkspace MatrixProblem.pair.ownWorkspace) = (.ok report, final) ∧
        (∃ shown, final.journal = [shown] ∧ ‖shown.solution‖ < 2) ∧
        ‖final.workspace.solution‖ = 2 ∧
        ∃ (curved : ℝ) (between : MatrixWorkspace ℝ 2 2),
          Crosses (.exact 2 2) curved between final.workspace.solution := by
  obtain ⟨report, final, -, -, -, solves, status, -, -, -, -, -, length, -⟩ :=
    MatrixProblem.exists_crossing_pair
  obtain ⟨inside, ends, -⟩ := solve_respects_ball MatrixProblem.pair (.exact 2 2)
    (Settings.admissible_exact zero_le_two 2) two_pos
    MatrixProblem.weightSemidefinite_pair.weightNonneg (fun _ => .ok false)
    MatrixProblem.pair.ownWorkspace
  rw [solves] at inside ends
  obtain ⟨_, _, _, -, -, -, -, crosses⟩ := (ends report rfl).2 status
  obtain ⟨shown, alone⟩ := List.length_eq_one_iff.mp length
  refine ⟨report, final, solves, ⟨shown, alone, inside shown ?_⟩, crosses.onSphere, _, _,
    crosses⟩
  rw [alone]
  exact List.mem_singleton_self shown

end ConjugateResidual
