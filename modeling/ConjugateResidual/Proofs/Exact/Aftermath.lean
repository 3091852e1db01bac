import Mathlib
import ConjugateResidual.Proofs.Exact.Outcomes
import ConjugateResidual.Proofs.Exact.Certificate

/-!
What a solve leaves behind in exact arithmetic. The last step to the sphere or along the gradient
moves the solution and the gradient, but not the residual: however a solve ends, the gradient
belongs to the solution that it returns, while the residual and its norm belong to the last
completed iterate. A zero right-hand side is answered without a gradient being formed at all.
-/

namespace ConjugateResidual

open Arithmetic Method

variable {𝕜 J : Type} [RCLike 𝕜] {rows columns : ℕ}
variable {problem : MatrixProblem 𝕜 rows columns} {settings : Settings ℝ}
variable {observer : MatrixRun J 𝕜 rows columns Bool} {before state : MatrixState J 𝕜 rows columns}
variable {opening : Opening ℝ} {course : Course ℝ}

structure Course.Tells (problem : MatrixProblem 𝕜 rows columns) (settings : Settings ℝ)
    (course : Course ℝ) (workspace : MatrixWorkspace 𝕜 rows columns) : Prop where
  gradient : workspace.gradient =
    problem.normalVector - problem.normalMap settings.ridge workspace.solution
  optimality : course.optimality = ‖workspace.gradient‖
  residual : workspace.residual = problem.rightHandSide -
    problem.forwardMap (problem.iterateAt settings.ridge course.iterations).solution
  norm : course.residual = problem.residualNorm settings.ridge
    (problem.iterateAt settings.ridge course.iterations).solution
  exits : course.exited = true → course.Underway
  place : course.Underway →
    workspace.solution = (problem.iterateAt settings.ridge course.iterations).solution

theorem Course.Stands.tells {workspace : MatrixWorkspace 𝕜 rows columns}
    (stands : course.Stands problem settings workspace)
    (exits : course.exited = true → course.Underway) :
    course.Tells problem settings workspace := by
  have carries := stands.place.carries
  refine
    { gradient := ?_, optimality := congrArg Progress.optimality stands.progress
      residual := carries.residual, norm := congrArg Progress.residual stands.progress_eq
      exits, place := fun _ => carries.solution }
  rw [carries.gradient, carries.solution]
  exact residual_eq_sub _ _ _

/-- A step takes the gradient along if the image it subtracts is that of the vector it adds. -/
theorem Workspace.gradient_moved (workspace : MatrixWorkspace 𝕜 rows columns)
    (gradient : workspace.gradient =
      problem.normalVector - problem.normalMap settings.ridge workspace.solution)
    (step : ℝ) {vector normalImage : EuclideanSpace 𝕜 (Fin columns)}
    (image : normalImage = problem.normalMap settings.ridge vector) :
    (workspace.moved step vector normalImage).gradient =
      problem.normalVector -
        problem.normalMap settings.ridge (workspace.moved step vector normalImage).solution := by
  unfold Workspace.moved
  dsimp only
  rw [gradient, image, map_add, map_smul, sub_sub]

private theorem Move.tells (looks : Run.Looks observer) {threshold : ℝ}
    (stands : course.Stands problem settings state.workspace)
    (iterating : course.isOver threshold = false)
    {result : Except (Fault ℝ) (Course ℝ) × MatrixState J 𝕜 rows columns}
    (move : Move problem settings observer threshold course state result)
    {next : Course ℝ} {after : MatrixState J 𝕜 rows columns} (same : result = (.ok next, after)) :
    next.Tells problem settings after.workspace := by
  have underway := Course.underway_of_open iterating
  have running := Course.running_of_open iterating
  have tells := stands.tells fun _ => underway
  have coherent := stands.place.coherent
  cases move with
  | unturned flat failed => cases same
  | @turned step moved flat stepped move =>
      cases same
      have image : (problem.turned settings state.workspace).normalImage =
          problem.normalMap settings.ridge state.workspace.gradient := by
        rw [MatrixProblem.normalMap_apply, ← coherent.gradientImage]
        rfl
      refine
        { gradient := ?_, optimality := rfl, residual := ?_, norm := tells.norm, exits := ?_
          place := ?_ }
      · rw [move]
        exact (problem.turned settings state.workspace).gradient_moved tells.gradient step image
      · rw [move]
        exact tells.residual
      · intro exited
        cases running.symm.trans exited
      · intro underway
        cases underway.1
  | unstepped curved failed => cases same
  | @clipped step moved curved stepped move =>
      cases same
      refine
        { gradient := ?_, optimality := rfl, residual := ?_, norm := tells.norm, exits := ?_
          place := ?_ }
      · rw [move]
        exact state.workspace.gradient_moved tells.gradient step coherent.normalImage
      · rw [move]
        exact tells.residual
      · intro exited
        cases running.symm.trans exited
      · intro underway
        cases underway.2
  | stuck curved zero trail solution recorder stepped => cases same
  | full curved stepped nonzero advance =>
      have counted := Course.of_completed_eq_ok same
      have continues : next.Underway := by
        obtain ⟨exited, counted⟩ := counted
        rw [counted]
        exact underway
      exact (stands.next looks (.full curved stepped nonzero advance) same continues).tells
        fun _ => continues

section Empty

variable {problem : MatrixProblem 𝕜 rows 0} {observer : MatrixRun J 𝕜 rows 0 Bool}
variable {before state entered : MatrixState J 𝕜 rows 0}

private theorem of_openCourse_of_empty {norm : ℝ}
    (opens : openCourse problem.toProblem settings norm entered = (.ok opening, state)) :
    opening = ({ curvature := opening.course.curvature, optimality := 0, residual := norm } :
        Progress ℝ).opening settings ∧
      state.workspace.residual = entered.workspace.residual := by
  obtain ⟨-, optimality⟩ := launch_of_empty settings problem entered norm
  obtain ⟨residual, measured⟩ := residual_launch_of_empty settings problem entered norm
  cases launches : launch problem.toProblem settings norm entered with
  | mk outcome after =>
      rw [launches] at optimality residual measured
      cases outcome with
      | error fault =>
          rw [openCourse_of_fault settings launches] at opens
          cases opens
      | ok start =>
          obtain ⟨printed, opened⟩ := openCourse_of_launch settings launches
          rw [opened] at opens
          cases opens
          rw [← optimality start rfl, ← measured start rfl]
          exact ⟨rfl, residual⟩

/-- A solve without columns is over when it opens. -/
theorem Reaches.tells_of_empty (admissible : settings.Admissible)
    (reached : Reaches problem.toProblem settings observer before opening course state) :
    course.Tells problem settings state.workspace := by
  cases reached with
  | opened free announced nonzero opens =>
      obtain ⟨rfl, printed, rfl⟩ := of_announce_eq announced
      obtain ⟨starts, residual⟩ := of_openCourse_of_empty opens
      have nowhere (point : EuclideanSpace 𝕜 (Fin 0)) : point = 0 := Subsingleton.elim _ _
      rw [starts]
      refine
        { gradient := Subsingleton.elim _ _, optimality := ?_, residual := ?_, norm := ?_
          exits := fun _ => ⟨rfl, rfl⟩, place := fun _ => Subsingleton.elim _ _ }
      · rw [nowhere state.workspace.gradient, norm_zero]
        rfl
      · rw [residual, nowhere (Iterate.solution _), map_zero, sub_zero]
        rfl
      · rw [nowhere (Iterate.solution _), MatrixProblem.residualNorm_zero]
        rfl
  | iterated reached iterating budget ran =>
      exact absurd (reached.columns_pos admissible.absolute iterating) (lt_irrefl 0)

end Empty

theorem Reaches.tells (admissible : settings.Admissible) (looks : Run.Looks observer)
    (reached : Reaches problem.toProblem settings observer before opening course state) :
    course.Tells problem settings state.workspace := by
  rcases Nat.eq_zero_or_pos columns with empty | sized
  · subst empty
    exact reached.tells_of_empty admissible
  cases reached with
  | opened free announced nonzero opens =>
      have starts := starts_of_opens sized admissible.ridge announced opens
      exact starts.stands.tells fun _ => starts.underway
  | iterated reached iterating budget ran =>
      exact (reached.moves admissible iterating).tells looks
        (reached.stands admissible looks sized (Course.underway_of_open iterating)) iterating ran

/-! ### On return -/

structure Figures.Describe (problem : MatrixProblem 𝕜 rows columns) (ridge : ℝ)
    (point : EuclideanSpace 𝕜 (Fin columns)) (figures : Figures ℝ)
    (workspace : MatrixWorkspace 𝕜 rows columns) : Prop where
  gradient : workspace.gradient =
    problem.adjointMap
        (problem.weightMap (problem.rightHandSide - problem.forwardMap workspace.solution)) -
      (ridge : 𝕜) • workspace.solution
  optimality : figures.optimality = ‖workspace.gradient‖
  residual : workspace.residual = problem.rightHandSide - problem.forwardMap point
  norm : figures.residual = problem.residualNorm ridge point

private theorem Course.Tells.describe {workspace : MatrixWorkspace 𝕜 rows columns}
    (tells : course.Tells problem settings workspace) :
    (course.figures opening).Describe problem settings.ridge
      (problem.iterateAt settings.ridge course.iterations).solution workspace :=
  { gradient := tells.gradient.trans (MatrixProblem.normalVector_sub_normalMap _ _)
    optimality := tells.optimality, residual := tells.residual, norm := tells.norm }

section Return

variable {report : Report ℝ} {final : MatrixState J 𝕜 rows columns}
  (solves : solve problem.toProblem settings observer before = (.ok report, final))
include solves

theorem solve_leaves_zero (zero : problem.rightHandSide = 0) :
    final.workspace.solution = 0 ∧ final.workspace.residual = 0 ∧
      final.workspace.gradient = before.workspace.gradient ∧ report.figures? = none := by
  cases free : before.workspace.busy with
  | true =>
      rw [solve_of_busy free] at solves
      cases solves
  | false =>
      obtain ⟨printed, answers⟩ :=
        solve_of_rightHandSide_eq_zero settings observer zero free
      rw [answers] at solves
      cases solves
      exact ⟨rfl, zero, rfl, rfl⟩

theorem solve_leaves (admissible : settings.Admissible) (looks : Run.Looks observer)
    (nonzero : problem.rightHandSide ≠ 0) :
    ∃ figures, ∃ steps : ℕ, report.figures? = some figures ∧ report.stats.iterations = steps ∧
      let last := (problem.iterateAt settings.ridge steps).solution
      figures.Describe problem settings.ridge last final.workspace ∧
        (report.stats.status ≠ .onBoundary → report.stats.status ≠ .zeroCurvature →
          final.workspace.solution = last) := by
  have ending := solve_ends problem.toProblem settings observer before
  rw [solves] at ending
  cases ending with
  | zero announced zero answered =>
      obtain ⟨rfl, printed, rfl⟩ := of_announce_eq announced
      exact absurd (norm_eq_zero.mp ((isZero_real _).mp zero)) nonzero
  | @finished opening course state _ _ reached ended closed =>
      have figures := figures_of_closeCourse_eq closed
      obtain ⟨printed, _, returned, rfl⟩ := of_closeCourse_eq closed
      cases returned
      have tells := reached.tells admissible looks
      refine ⟨course.figures opening, course.iterations, figures, rfl, ?_, ?_⟩
      · exact { tells.describe with }
      · intro inside curved
        exact tells.place (Course.underway_of_status tells.exits inside curved)

end Return

variable (problem) in
/-- Whatever the workspace went through before, a solve that returns on it leaves the gradient at the
solution, and its norm in the report. The residual that it leaves, and its norm in the report, are
those at the last completed iterate; this is the solution unless the last step went to the sphere or
along the gradient. For a zero right-hand side the gradient is left as it was found. -/
theorem solveInPlace_leaves {prepared : Reply J ℝ (Options ℝ ×
      Problem J ℝ (EuclideanSpace 𝕜 (Fin columns)) (EuclideanSpace 𝕜 (Fin rows)))}
    {options : Options ℝ} (ready : prepared.outcome = .ok (options, problem.toProblem))
    (admissible : (options.resolve rows columns problem.tolerance).Admissible)
    (looks : Run.Looks observer) {report : Report ℝ} {final : MatrixState J 𝕜 rows columns}
    (returned : solveInPlace prepared observer state = (.ok report, final)) :
    (problem.rightHandSide = 0 →
      final.workspace.solution = 0 ∧ final.workspace.residual = 0 ∧
        final.workspace.gradient = state.workspace.gradient ∧ report.figures? = none) ∧
    (problem.rightHandSide ≠ 0 →
      ∃ figures, ∃ steps : ℕ, report.figures? = some figures ∧ report.stats.iterations = steps ∧
        let last := (problem.iterateAt options.ridge steps).solution
        figures.Describe problem options.ridge last final.workspace ∧
          (report.stats.status ≠ .onBoundary → report.stats.status ≠ .zeroCurvature →
            final.workspace.solution = last)) := by
  have solves : solve problem.toProblem (options.resolve rows columns problem.tolerance) observer
      { state with journal := state.journal ++ prepared.journal } = (.ok report, final) :=
    of_solveInPlace_eq_ok ready returned
  have zero := solve_leaves_zero solves
  exact ⟨zero, solve_leaves solves admissible looks⟩

theorem solveInPlace_leaves_unit :
    ∃ report final figures,
      solveInPlace (pure (Options.exact, MatrixProblem.unit.toProblem)) neverExit
            (.ofWorkspace (J := Unit) MatrixProblem.unit.ownWorkspace) = (.ok report, final) ∧
        report.figures? = some figures ∧
        figures.Describe MatrixProblem.unit 0 final.workspace.solution final.workspace := by
  let trail : Trail Unit ℝ := { printed := [], journal := [] }
  let settings := Options.exact.resolve 1 1 0
  have strict : settings.Strict :=
    { ridge := le_rfl, absolute := rfl, relative := rfl, radius := rfl }
  have free : ({ trail with
      journal := trail.journal ++ [], workspace := MatrixProblem.unit.ownWorkspace } :
        MatrixState Unit ℝ 1 1).workspace.busy = false := rfl
  obtain ⟨report, final, solves, _, status, _⟩ :=
    solve_strict MatrixProblem.weightSemidefinite_unit strict Nat.one_pos free one_lt_two
  rw [if_neg MatrixProblem.rightHandSide_unit_ne_zero] at status
  have returned : solveInPlace (pure (Options.exact, MatrixProblem.unit.toProblem)) neverExit
      { trail with workspace := (MatrixProblem.unit.toProblem (J := Unit)).freshWorkspace } =
        (.ok report, final) := by
    rw [solveInPlace_freshWorkspace rfl]
    exact solves
  obtain ⟨figures, steps, found, -, describe, same⟩ :=
    (solveInPlace_leaves MatrixProblem.unit rfl strict.admissible looks_neverExit returned).2
      MatrixProblem.rightHandSide_unit_ne_zero
  have last := same (by rw [status]; decide) (by rw [status]; decide)
  rw [← last] at describe
  exact ⟨report, final, figures, returned, found, describe⟩

section Opened

variable {radius : ℝ} {opening : Opening ℝ} {workspace : MatrixWorkspace ℝ 1 1}

namespace Opening.Starts

variable (starts : opening.Starts MatrixProblem.unit (.exact radius 1) workspace)
include starts

theorem carries_unit :
    workspace.Carries MatrixProblem.unit 0 (MatrixProblem.unit.iterateAt 0 0) := by
  have carries := starts.stands.place.carries
  rw [starts.iterations] at carries
  exact carries

theorem direction_unit : workspace.direction = MatrixProblem.unit.rightHandSide :=
  starts.carries_unit.direction.trans MatrixProblem.normalVector_unit

theorem norm_normalImage_unit : ‖workspace.normalImage‖ = 1 := by
  rw [starts.carries_unit.normalImage, ← starts.carries_unit.direction, starts.direction_unit]
  exact (congrArg norm (MatrixProblem.normalMap_unit _)).trans MatrixProblem.norm_rightHandSide_unit

/-- A full first step would solve the equation. -/
theorem fullStep_unit : workspace.fullStep opening.course.curvature =
    MatrixProblem.unit.rightHandSide := by
  have curvature : opening.course.curvature = 1 := by
    rw [starts.stands.curvature_gradient, starts.carries_unit.gradient]
    exact (congrArg _ MatrixProblem.normalVector_unit).trans MatrixProblem.curvature_unit
  have solution : workspace.solution = 0 := starts.carries_unit.solution
  unfold Workspace.fullStep
  rw [curvature, starts.norm_normalImage_unit, solution, starts.direction_unit, one_pow, div_one,
    RCLike.ofReal_one, one_smul, zero_add]

private theorem open_unit : opening.course.isOver opening.threshold = false := by
  apply starts.isOver_eq_false
  rw [MatrixProblem.threshold_exact, MatrixProblem.normalVector_unit,
    MatrixProblem.norm_rightHandSide_unit]
  exact one_pos

private theorem curved_unit : ¬ workspace.Flat (.exact radius 1) opening.threshold := by
  rintro (zero | ⟨-, short⟩)
  · have image := starts.norm_normalImage_unit
    rw [zero, norm_zero] at image
    exact zero_ne_one image
  · rw [starts.threshold, MatrixProblem.threshold_exact, zero_mul, zero_mul,
      starts.carries_unit.directionImage, ← starts.carries_unit.direction, starts.direction_unit,
      MatrixProblem.forwardMap_unit, MatrixProblem.norm_rightHandSide_unit] at short
    norm_num at short

end Opening.Starts

end Opened

/-- The step to the sphere leaves the residual behind. -/
theorem residual_of_unit_on_sphere :
    ∃ report final,
      solve MatrixProblem.unit.toProblem (.exact (1 / 2) 1) neverExit
            (.ofWorkspace (J := Unit) MatrixProblem.unit.ownWorkspace) = (.ok report, final) ∧
        final.workspace.residual ≠
          MatrixProblem.unit.rightHandSide -
            MatrixProblem.unit.forwardMap final.workspace.solution := by
  let settings := Settings.exact (1 / 2) 1
  have admissible : settings.Admissible := Settings.admissible_exact one_half_pos.le 1
  have free : (RunState.ofWorkspace (J := Unit)
      MatrixProblem.unit.ownWorkspace).workspace.busy = false := rfl
  obtain ⟨opening, state, reached, starts⟩ :=
    exists_opened MatrixProblem.unit settings neverExit Nat.one_pos le_rfl
      MatrixProblem.rightHandSide_unit_ne_zero free
  have iterating := starts.open_unit
  have curved := starts.curved_unit
  have solution : state.workspace.solution = 0 := starts.carries_unit.solution
  have residual : state.workspace.residual = MatrixProblem.unit.rightHandSide -
      MatrixProblem.unit.forwardMap state.workspace.solution := by
    rw [starts.carries_unit.residual, starts.carries_unit.solution]
  have inside : ‖state.workspace.solution‖ < settings.radius := by
    rw [solution, norm_zero]
    exact one_half_pos
  rcases reached.steps admissible MatrixProblem.weightSemidefinite_unit iterating curved with
    ⟨step, clipped, ran⟩ | ⟨stepped, -⟩
  · have onSphere := (directionStep_clipped (Workspace.square_ne_zero curved) inside
      (starts.stands.place.direction_ne_zero curved) clipped).2.2.1
    have budget : opening.course.iterations < settings.budget := by
      rw [starts.iterations]
      exact one_pos
    have last := Reaches.iterated reached iterating budget ran
    obtain ⟨printed, figures, solves⟩ := last.ends (.inl (by simp [Course.isOver]))
    refine ⟨_, _, solves, ?_⟩
    intro kept
    change state.workspace.residual = MatrixProblem.unit.rightHandSide -
      MatrixProblem.unit.forwardMap
        (state.workspace.solution + (step : ℝ) • state.workspace.direction) at kept
    rw [residual] at kept
    have still : state.workspace.solution =
        state.workspace.solution + (step : ℝ) • state.workspace.direction := by
      simpa only [MatrixProblem.forwardMap_unit] using sub_right_injective kept
    have radius : ‖state.workspace.solution‖ = settings.radius := by
      rw [still]
      exact onSphere
    exact inside.ne radius
  · have short := starts.stands.full_inside inside
      MatrixProblem.weightSemidefinite_unit.weightNonneg le_rfl curved stepped
    rw [starts.fullStep_unit, MatrixProblem.norm_rightHandSide_unit] at short
    change (1 : ℝ) < 1 / 2 at short
    norm_num at short

end ConjugateResidual
