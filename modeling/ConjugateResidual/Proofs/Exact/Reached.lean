import Mathlib
import ConjugateResidual.Proofs.Exact.Simulation

/-!
The states that a solve of a matrix problem reaches, and the workspaces that it shows. As long as
every step was a full one along the direction, a reached state stands at the iterate of its number;
a workspace is shown only after a full step from such a state.
-/

namespace ConjugateResidual

open Arithmetic Method

variable {𝕜 J : Type} [RCLike 𝕜] {rows columns : ℕ}

structure Settings.Admissible (settings : Settings ℝ) : Prop where
  ridge : 0 ≤ settings.ridge
  absolute : 0 ≤ settings.absolute
  relative : 0 ≤ settings.relative
  radius : 0 ≤ settings.radius

theorem Course.isOver_of_optimality_le {threshold : ℝ} {course : Course ℝ}
    (optimal : course.optimality ≤ threshold) : course.isOver threshold = true := by
  have within : course.isOptimal threshold = true := (le_real _ _).mpr optimal
  simp only [Course.isOver, within, Bool.true_or]

theorem Course.isOptimal_of_isOver {threshold : ℝ} {course : Course ℝ}
    (ended : course.isOver threshold = true) (underway : course.Underway)
    (running : course.exited = false) : course.isOptimal threshold = true := by
  simpa only [Course.isOver, underway.1, underway.2, running, Bool.or_false] using ended

variable (problem : MatrixProblem 𝕜 rows columns) (settings : Settings ℝ)

noncomputable def MatrixProblem.threshold : ℝ :=
  settings.absolute + settings.relative * ‖problem.normalVector‖

structure Opening.Starts (workspace : MatrixWorkspace 𝕜 rows columns) (opening : Opening ℝ) :
    Prop where
  threshold : opening.threshold = problem.threshold settings
  iterations : opening.course.iterations = 0
  underway : opening.course.Underway
  running : opening.course.exited = false
  stands : opening.course.Stands problem settings workspace

theorem MatrixProblem.threshold_nonneg {settings : Settings ℝ} (admissible : settings.Admissible) :
    0 ≤ problem.threshold settings :=
  add_nonneg admissible.absolute (mul_nonneg admissible.relative (norm_nonneg _))

variable {problem settings}

theorem openCourse_exact (sized : 0 < columns) (nonneg : 0 ≤ settings.ridge)
    {before entered : MatrixState J 𝕜 rows columns} {norm : ℝ}
    (announced : announce problem.toProblem settings before = (.ok norm, entered)) :
    ∃ opening state, openCourse problem.toProblem settings norm entered = (.ok opening, state) ∧
      opening.Starts problem settings state.workspace ∧ state.journal = before.journal := by
  obtain ⟨rfl, printed, rfl⟩ := of_announce_eq announced
  let prepared := (problem.toProblem (J := J)).prepared settings before.workspace
  have place : (problem.launched settings prepared).At problem settings 0 := .launched rfl rfl rfl
  have launches := launch_exact problem settings
    { before with printed, workspace := prepared } sized nonneg ‖problem.rightHandSide‖
  obtain ⟨lines, opens⟩ := openCourse_of_launch settings launches
  refine ⟨_, _, opens, ?_, rfl⟩
  refine
    { threshold := rfl, iterations := rfl, underway := ⟨rfl, rfl⟩, running := rfl
      stands := { place, progress := ?_ } }
  change { problem.measure settings _ with residual := ‖problem.rightHandSide‖ } =
    problem.measure settings _
  rw [place.carries.measure, ← problem.residualNorm_zero settings.ridge]
  rfl

theorem starts_of_opens (sized : 0 < columns) (nonneg : 0 ≤ settings.ridge)
    {before entered state : MatrixState J 𝕜 rows columns} {norm : ℝ} {opening : Opening ℝ}
    (announced : announce problem.toProblem settings before = (.ok norm, entered))
    (opens : openCourse problem.toProblem settings norm entered = (.ok opening, state)) :
    opening.Starts problem settings state.workspace := by
  obtain ⟨_, _, opened, starts, _⟩ := openCourse_exact sized nonneg announced
  rw [opened] at opens
  cases opens
  exact starts

variable (settings) in
theorem solve_of_rightHandSide_eq_zero (observer : MatrixRun J 𝕜 rows columns Bool)
    (zero : problem.rightHandSide = 0) {before : MatrixState J 𝕜 rows columns}
    (free : before.workspace.busy = false) :
    ∃ printed, solve problem.toProblem settings observer before =
      let answered :=
        (problem.toProblem (J := J)).prepared settings before.held.workspace |>.answered
      (.ok (problem.toProblem (J := J) |>.reported settings none [] answered.stats),
        { before with printed, workspace := { answered with busy := false } }) := by
  obtain ⟨printed, announced⟩ := announce_apply problem.toProblem settings before.held
  have norm : isZero (VectorArithmetic.norm problem.rightHandSide : ℝ) = true := by
    rw [isZero_real]
    exact norm_eq_zero.mpr zero
  refine ⟨printed, ?_⟩
  rw [solve_of_zero free announced norm]
  rfl

/-- A solve with a nonzero right-hand side opens, iterates, and is judged. -/
theorem solve_of_rightHandSide_ne_zero (observer : MatrixRun J 𝕜 rows columns Bool)
    (sized : 0 < columns) (nonneg : 0 ≤ settings.ridge) (nonzero : problem.rightHandSide ≠ 0)
    {before : MatrixState J 𝕜 rows columns} (free : before.workspace.busy = false) :
    ∃ opening state,
      opening.Starts problem settings state.workspace ∧ state.journal = before.journal ∧
        solve problem.toProblem settings observer before =
          let result :=
            (iterations problem.toProblem settings observer opening.threshold settings.budget
              opening.course >>= closeCourse problem.toProblem settings opening) state
          (result.1, result.2.released) := by
  obtain ⟨printed, announced⟩ := announce_apply problem.toProblem settings before.held
  obtain ⟨opening, state, opens, starts, journal⟩ := openCourse_exact sized nonneg announced
  have norm : isZero (VectorArithmetic.norm problem.rightHandSide : ℝ) = false := by
    rw [Bool.eq_false_iff, ne_eq, isZero_real]
    exact norm_ne_zero_iff.mpr nonzero
  exact ⟨opening, state, starts, journal, solve_of_opened free announced norm opens⟩

/-- Without columns a solve is refused, or over before the first iteration. -/
theorem openCourse_of_empty (empty : columns = 0) (absolute : 0 ≤ settings.absolute) {norm : ℝ}
    {entered : MatrixState J 𝕜 rows columns} :
    (openCourse problem.toProblem settings norm entered).2.journal = entered.journal ∧
      ∀ opening, (openCourse problem.toProblem settings norm entered).1 = .ok opening →
        opening.course.isOver opening.threshold = true := by
  subst empty
  obtain ⟨journal, optimality⟩ := launch_of_empty settings problem entered norm
  cases launches : launch problem.toProblem settings norm entered with
  | mk outcome after =>
      rw [launches] at journal optimality
      cases outcome with
      | error fault =>
          rw [openCourse_of_fault settings launches]
          exact ⟨journal, fun opening found => by cases found⟩
      | ok start =>
          obtain ⟨printed, opens⟩ := openCourse_of_launch settings launches
          rw [opens]
          refine ⟨journal, ?_⟩
          intro opening found
          cases found
          apply Course.isOver_of_optimality_le
          change start.optimality ≤ settings.absolute + settings.relative * start.optimality
          rw [optimality start rfl, mul_zero, add_zero]
          exact absolute

variable {observer : MatrixRun J 𝕜 rows columns Bool} {before state : MatrixState J 𝕜 rows columns}
variable {opening : Opening ℝ} {course : Course ℝ}

namespace Reaches

theorem rightHandSide_ne_zero
    (reached : Reaches problem.toProblem settings observer before opening course state) :
    problem.rightHandSide ≠ 0 := by
  induction reached with
  | opened free announced nonzero opens =>
      obtain ⟨rfl, printed, rfl⟩ := of_announce_eq announced
      intro zero
      rw [Bool.eq_false_iff, ne_eq, isZero_real] at nonzero
      exact nonzero (norm_eq_zero.mpr zero)
  | iterated reached iterating budget ran ih => exact ih

theorem rows_pos
    (reached : Reaches problem.toProblem settings observer before opening course state) :
    0 < rows :=
  problem.rows_pos reached.rightHandSide_ne_zero

theorem columns_pos (absolute : 0 ≤ settings.absolute)
    (reached : Reaches problem.toProblem settings observer before opening course state)
    (iterating : course.isOver opening.threshold = false) : 0 < columns := by
  apply Nat.pos_of_ne_zero
  intro empty
  have ended : course.isOver opening.threshold = true := by
    induction reached with
    | opened free announced nonzero opens =>
        exact (openCourse_of_empty empty absolute).2 opening (congrArg Prod.fst opens)
    | iterated reached still budget ran ih =>
        rw [ih still] at still
        cases still
  rw [ended] at iterating
  cases iterating

variable (admissible : settings.Admissible)
include admissible

theorem moves (reached : Reaches problem.toProblem settings observer before opening course state)
    (iterating : course.isOver opening.threshold = false) :
    Move problem settings observer opening.threshold course state
      (iterate problem.toProblem settings observer opening.threshold course state) :=
  iterate_moves problem observer opening.threshold course state reached.rows_pos
    (reached.columns_pos admissible.absolute iterating) admissible.ridge

end Reaches

theorem Course.Stands.full {workspace next : MatrixWorkspace 𝕜 rows columns}
    (stands : course.Stands problem settings workspace) (image : workspace.normalImage ≠ 0)
    (curved : course.curvature ≠ 0)
    (advance : next = problem.advanced settings course.curvature workspace) :
    (next.completed (course.iterations + 1) (problem.measure settings next)).At problem settings
      (course.iterations + 1) := by
  have curvature := stands.curvature_gradient
  rw [curvature] at curved advance
  exact stands.place.advanced image curved advance

theorem Course.Stands.next {threshold : ℝ} (looks : Run.Looks observer)
    (stands : course.Stands problem settings state.workspace)
    {result : Except (Fault ℝ) (Course ℝ) × MatrixState J 𝕜 rows columns}
    (move : Move problem settings observer threshold course state result)
    {next : Course ℝ} {after : MatrixState J 𝕜 rows columns} (same : result = (.ok next, after))
    (underway : next.Underway) : next.Stands problem settings after.workspace := by
  -- All steps but the full one mark the course.
  cases move with
  | unturned flat failed => cases same
  | turned flat stepped move =>
      cases same
      cases underway.1
  | unstepped curved failed => cases same
  | clipped curved stepped move =>
      cases same
      cases underway.2
  | stuck curved zero trail solution recorder => cases same
  | @full curved stepped nonzero advanced advance =>
      have place := stands.full (Workspace.normalImage_ne_zero curved) nonzero advance
      obtain ⟨exited, counted⟩ := Course.of_completed_eq_ok same
      have workspace := Course.workspace_completed settings looks course
        (problem.measure settings advanced) { state with workspace := advanced }
      rw [same] at workspace
      rw [counted, workspace]
      exact { place, progress := rfl }

theorem Reaches.starts (sized : 0 < columns) (nonneg : 0 ≤ settings.ridge)
    (reached : Reaches problem.toProblem settings observer before opening course state) :
    ∃ workspace, opening.Starts problem settings workspace := by
  induction reached with
  | opened free announced nonzero opens =>
      exact ⟨_, starts_of_opens sized nonneg announced opens⟩
  | iterated reached iterating budget ran ih => exact ih

/-- A reached state whose steps were all full stands at the iterate of its number. -/
theorem Reaches.stands (admissible : settings.Admissible) (looks : Run.Looks observer)
    (sized : 0 < columns)
    (reached : Reaches problem.toProblem settings observer before opening course state)
    (underway : course.Underway) : course.Stands problem settings state.workspace := by
  induction reached with
  | opened free announced nonzero opens =>
      exact (starts_of_opens sized admissible.ridge announced opens).stands
  | iterated reached iterating budget ran ih =>
      have stands := ih (Course.underway_of_open iterating)
      exact stands.next looks (reached.moves admissible iterating) ran underway

theorem Reaches.threshold_lt (admissible : settings.Admissible) (looks : Run.Looks observer)
    (reached : Reaches problem.toProblem settings observer before opening course state)
    (iterating : course.isOver opening.threshold = false) :
    problem.threshold settings <
      ‖(problem.iterateAt settings.ridge course.iterations).residual‖ := by
  have sized := reached.columns_pos admissible.absolute iterating
  have stands := reached.stands admissible looks sized (Course.underway_of_open iterating)
  obtain ⟨_, starts⟩ := reached.starts sized admissible.ridge
  by_contra short
  have ended : course.isOver opening.threshold = true := by
    apply Course.isOver_of_optimality_le
    rw [stands.optimality_eq, starts.threshold]
    exact not_lt.mp short
  rw [ended] at iterating
  cases iterating

theorem Reaches.gradient_ne_zero (admissible : settings.Admissible) (looks : Run.Looks observer)
    (reached : Reaches problem.toProblem settings observer before opening course state)
    (iterating : course.isOver opening.threshold = false) : state.workspace.gradient ≠ 0 := by
  have sized := reached.columns_pos admissible.absolute iterating
  have stands := reached.stands admissible looks sized (Course.underway_of_open iterating)
  rw [stands.place.carries.gradient, ← norm_pos_iff]
  exact (problem.threshold_nonneg admissible).trans_lt
    (reached.threshold_lt admissible looks iterating)

/-! ### What is shown -/

inductive Shown (problem : MatrixProblem 𝕜 rows columns) (settings : Settings ℝ)
    (observer : MatrixRun J 𝕜 rows columns Bool) (before : MatrixState J 𝕜 rows columns) :
    ℕ → MatrixWorkspace 𝕜 rows columns → Prop where
  | completed {opening : Opening ℝ} {course : Course ℝ} {state : MatrixState J 𝕜 rows columns}
      {next : MatrixWorkspace 𝕜 rows columns}
      (reached : Reaches problem.toProblem settings observer before opening course state)
      (iterating : course.isOver opening.threshold = false)
      (curved : ¬ state.workspace.Flat settings opening.threshold)
      (stepped :
        directionStep settings course.curvature (‖state.workspace.normalImage‖ ^ 2)
          state.workspace.solution state.workspace.direction =
            .ok (course.curvature / ‖state.workspace.normalImage‖ ^ 2, false))
      (nonzero : course.curvature ≠ 0)
      (advance : next = problem.advanced settings course.curvature state.workspace) :
      Shown problem settings observer before (course.iterations + 1)
        (next.completed (course.iterations + 1) (problem.measure settings next))

theorem Shown.place (admissible : settings.Admissible) (looks : Run.Looks observer) {steps : ℕ}
    {shown : MatrixWorkspace 𝕜 rows columns}
    (shows : Shown problem settings observer before steps shown) :
    shown.At problem settings steps := by
  cases shows with
  | completed reached iterating curved stepped nonzero advance =>
      have sized := reached.columns_pos admissible.absolute iterating
      have stands := reached.stands admissible looks sized (Course.underway_of_open iterating)
      exact stands.full (Workspace.normalImage_ne_zero curved) nonzero advance

theorem openCourse_journal (admissible : settings.Admissible)
    {entered : MatrixState J 𝕜 rows columns} {norm : ℝ}
    (announced : announce problem.toProblem settings before = (.ok norm, entered)) :
    (openCourse problem.toProblem settings norm entered).2.journal = before.journal := by
  rcases Nat.eq_zero_or_pos columns with empty | sized
  · obtain ⟨rfl, printed, rfl⟩ := of_announce_eq announced
    exact (openCourse_of_empty empty admissible.absolute).1
  · obtain ⟨_, _, opens, _, journal⟩ := openCourse_exact sized admissible.ridge announced
    rw [opens]
    exact journal

section Watched

variable {answer : List (MatrixWorkspace 𝕜 rows columns) → Except (Fault ℝ) Bool}
variable {before state : MatrixState (MatrixWorkspace 𝕜 rows columns) 𝕜 rows columns}

/-- An iteration shows where it led, or nothing. -/
theorem Move.journal {threshold : ℝ} {result : Except (Fault ℝ) (Course ℝ) ×
      MatrixState (MatrixWorkspace 𝕜 rows columns) 𝕜 rows columns}
    (move : Move problem settings (watch answer) threshold course state result) :
    result.2.journal = state.journal ∨
      result.2.journal = state.journal ++ [result.2.workspace] := by
  cases move with
  | unturned flat failed => exact .inl rfl
  | turned flat stepped move => exact .inl rfl
  | unstepped curved failed => exact .inl rfl
  | clipped curved stepped move => exact .inl rfl
  | stuck curved zero trail solution recorder => exact .inl (congrArg Trail.journal trail)
  | @full curved stepped nonzero next advance =>
      obtain ⟨printed, completes⟩ :=
        course.completed_apply settings (watch answer) (problem.measure settings next)
          { state with workspace := next }
      rw [completes]
      exact .inr rfl

theorem Move.grows {threshold : ℝ} {result : Except (Fault ℝ) (Course ℝ) ×
      MatrixState (MatrixWorkspace 𝕜 rows columns) 𝕜 rows columns}
    (move : Move problem settings (watch answer) threshold course state result) :
    state.journal.length ≤ result.2.journal.length := by
  rcases move.journal with unchanged | appended
  · rw [unchanged]
  · rw [appended, List.length_append]
    exact Nat.le_add_right _ _

theorem Move.seen
    (reached : Reaches problem.toProblem settings (watch answer) before opening course state)
    (iterating : course.isOver opening.threshold = false)
    (seen : Seen (Shown problem settings (watch answer) before) state.journal)
    (count : state.journal.length = course.iterations)
    {result : Except (Fault ℝ) (Course ℝ) ×
      MatrixState (MatrixWorkspace 𝕜 rows columns) 𝕜 rows columns}
    (move : Move problem settings (watch answer) opening.threshold course state result) :
    Seen (Shown problem settings (watch answer) before) result.2.journal ∧
      ∀ next, result.1 = .ok next → result.2.journal.length = next.iterations := by
  cases move with
  | unturned flat failed => exact ⟨seen, fun next found => by cases found⟩
  | turned flat stepped move =>
      refine ⟨seen, ?_⟩
      intro next found
      cases found
      exact count
  | unstepped curved failed => exact ⟨seen, fun next found => by cases found⟩
  | clipped curved stepped move =>
      refine ⟨seen, ?_⟩
      intro next found
      cases found
      exact count
  | stuck curved zero trail solution recorder =>
      rw [congrArg Trail.journal trail]
      exact ⟨seen, fun next found => by cases found⟩
  | @full curved stepped nonzero next advance =>
      have shows := Shown.completed reached iterating curved stepped nonzero advance
      obtain ⟨printed, completes⟩ :=
        course.completed_apply settings (watch answer) (problem.measure settings next)
          { state with workspace := next }
      rw [completes]
      refine ⟨seen.snoc (by rw [count]; exact shows), ?_⟩
      intro after found
      have length : ∀ last : MatrixWorkspace 𝕜 rows columns,
          (state.journal ++ [last]).length = course.iterations + 1 := by
        intro last
        rw [List.length_append, count, List.length_singleton]
      dsimp only [watch] at found
      cases asked : answer
          (state.journal ++
            [next.completed (course.iterations + 1) (problem.measure settings next)]) with
      | error fault =>
          rw [asked] at found
          cases found
      | ok exited =>
          rw [asked] at found
          cases found
          exact length _

theorem Reaches.seen (admissible : settings.Admissible) (quiet : before.journal = [])
    (reached : Reaches problem.toProblem settings (watch answer) before opening course state) :
    Seen (Shown problem settings (watch answer) before) state.journal ∧
      state.journal.length = course.iterations := by
  induction reached with
  | opened free announced nonzero opens =>
      have journal := openCourse_journal admissible announced
      rw [opens] at journal
      obtain ⟨start, starts⟩ := opening_of_openCourse opens
      have blank : before.held.journal = [] := quiet
      rw [journal, blank, starts]
      exact ⟨seen_nil, rfl⟩
  | iterated reached iterating budget ran ih =>
      have move := reached.moves admissible iterating
      rw [ran] at move
      obtain ⟨seen, count⟩ := move.seen reached iterating ih.1 ih.2
      exact ⟨seen, count _ rfl⟩

theorem seen_solve (admissible : settings.Admissible) (workspace : MatrixWorkspace 𝕜 rows columns) :
    Seen (Shown problem settings (watch answer) (.ofWorkspace workspace))
      (solve problem.toProblem settings (watch answer) (.ofWorkspace workspace)).2.journal := by
  have ending := solve_ends problem.toProblem settings (watch answer) (.ofWorkspace workspace)
  generalize solve problem.toProblem settings (watch answer) (.ofWorkspace workspace) = result
    at ending
  cases ending with
  | refused busy => exact seen_nil
  | zero announced zero answered =>
      obtain ⟨rfl, printed, rfl⟩ := of_announce_eq announced
      rw [solveZero_apply] at answered
      cases answered
      exact seen_nil
  | unopened announced nonzero failed =>
      have journal := openCourse_journal admissible announced
      rw [failed] at journal
      rw [RunState.released, journal]
      exact seen_nil
  | interrupted reached iterating budget failed =>
      obtain ⟨seen, count⟩ := reached.seen admissible rfl
      have move := reached.moves admissible iterating
      rw [failed] at move
      exact (move.seen reached iterating seen count).1
  | finished reached ended closed =>
      obtain ⟨printed, figures, rfl, rfl⟩ := of_closeCourse_eq closed
      exact (reached.seen admissible rfl).1

end Watched

end ConjugateResidual
