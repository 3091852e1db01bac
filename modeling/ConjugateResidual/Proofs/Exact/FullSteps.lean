import Mathlib
import ConjugateResidual.Proofs.Exact.Reached

/-!
Which iterations take the full step along the direction: those at an iterate that is not yet
optimal, has curvature, and stays inside the trust region. From this the number of workspaces that a
solve shows is known beforehand.
-/

namespace ConjugateResidual

open Arithmetic Method

variable {𝕜 J : Type} [RCLike 𝕜] {rows columns : ℕ}
variable (problem : MatrixProblem 𝕜 rows columns) (settings : Settings ℝ)

structure MatrixProblem.Due (steps : ℕ) : Prop where
  short : problem.threshold settings < ‖(problem.iterateAt settings.ridge steps).residual‖
  image : problem.normalMap settings.ridge (problem.iterateAt settings.ridge steps).direction ≠ 0
  tilted : 0 < settings.radius →
    problem.threshold settings *
          ‖problem.normalMap settings.ridge (problem.iterateAt settings.ridge steps).direction‖ *
        ‖(problem.iterateAt settings.ridge steps).direction‖ <
      ‖problem.forwardMap (problem.iterateAt settings.ridge steps).direction‖ ^ 2

structure MatrixProblem.GoesOn (steps : ℕ) : Prop extends problem.Due settings steps where
  curved : curvature (problem.normalMap settings.ridge)
    (problem.iterateAt settings.ridge steps).residual ≠ 0
  inside : 0 < settings.radius →
    ‖(problem.iterateAt settings.ridge steps).solution‖ < settings.radius ∧
      ‖(problem.iterateAt settings.ridge (steps + 1)).solution‖ < settings.radius

variable {problem settings}

variable {observer : MatrixRun J 𝕜 rows columns Bool} {before state : MatrixState J 𝕜 rows columns}
variable {opening : Opening ℝ} {course : Course ℝ}

theorem Course.Stands.iterate_full (sizedRows : 0 < rows) (sized : 0 < columns)
    (nonneg : 0 ≤ settings.ridge) (stands : course.Stands problem settings state.workspace)
    {threshold : ℝ} (nonflat : ¬ state.workspace.Flat settings threshold)
    (curved : curvature (problem.normalMap settings.ridge)
      (problem.iterateAt settings.ridge course.iterations).residual ≠ 0)
    (inside : 0 < settings.radius →
      ‖(problem.iterateAt settings.ridge course.iterations).solution‖ < settings.radius ∧
        ‖(problem.iterateAt settings.ridge (course.iterations + 1)).solution‖ <
          settings.radius) :
    let next := problem.advanced settings course.curvature state.workspace
    iterate problem.toProblem settings observer threshold course state =
      course.completed settings observer (problem.measure settings next)
        { state with workspace := next } := by
  have carries := stands.place.carries
  have stays : 0 < settings.radius →
      ‖state.workspace.solution‖ < settings.radius ∧
        ‖state.workspace.solution +
            ((course.curvature / ‖state.workspace.normalImage‖ ^ 2 : ℝ) : 𝕜) •
              state.workspace.direction‖ < settings.radius := by
    intro bounded
    rw [carries.solution, carries.direction, carries.normalImage, stands.curvature_eq]
    exact inside bounded
  have stepped := directionStep_of_inside (Workspace.square_ne_zero nonflat)
    (stands.place.direction_ne_zero nonflat) stays
  have move := iterate_moves problem observer threshold course state sizedRows sized nonneg
  rcases move.unclipped nonflat stepped with ⟨zero, _⟩ | ⟨_, full⟩
  · rw [stands.curvature_eq] at zero
    exact absurd zero curved
  · exact full

/-- From an iterate that is not optimal and has curvature an iteration goes along the direction. -/
theorem Reaches.due (admissible : settings.Admissible) (looks : Run.Looks observer)
    (sized : 0 < columns)
    (reached : Reaches problem.toProblem settings observer before opening course state)
    (underway : course.Underway) (running : course.exited = false)
    (due : problem.Due settings course.iterations) :
    course.isOver opening.threshold = false ∧
      ¬ state.workspace.Flat settings opening.threshold := by
  have stands := reached.stands admissible looks sized underway
  have carries := stands.place.carries
  obtain ⟨_, starts⟩ := reached.starts sized admissible.ridge
  constructor
  · have far : le course.optimality opening.threshold = false := by
      rw [Bool.eq_false_iff, ne_eq, le_real, stands.optimality_eq, starts.threshold]
      exact not_le.mpr due.short
    simp only [Course.isOver, Progress.isOptimal, far, underway.1, underway.2, running,
      Bool.or_false]
  · rintro (zero | ⟨bounded, flat⟩)
    · rw [carries.normalImage] at zero
      exact due.image zero
    · rw [carries.directionImage, carries.normalImage, carries.direction,
        starts.threshold] at flat
      exact absurd (due.tilted bounded) (not_lt.mpr flat)

theorem Reaches.full (admissible : settings.Admissible) (looks : Run.Looks observer)
    (sized : 0 < columns)
    (reached : Reaches problem.toProblem settings observer before opening course state)
    (underway : course.Underway) (running : course.exited = false)
    (goesOn : problem.GoesOn settings course.iterations) :
    course.isOver opening.threshold = false ∧
      let next := problem.advanced settings course.curvature state.workspace
      iterate problem.toProblem settings observer opening.threshold course state =
        course.completed settings observer (problem.measure settings next)
          { state with workspace := next } := by
  have stands := reached.stands admissible looks sized underway
  obtain ⟨iterating, nonflat⟩ :=
    reached.due admissible looks sized underway running goesOn.toDue
  exact ⟨iterating, stands.iterate_full reached.rows_pos sized admissible.ridge nonflat
    goesOn.curved goesOn.inside⟩

theorem Reaches.full_neverExit (admissible : settings.Admissible) (sized : 0 < columns)
    (reached : Reaches problem.toProblem settings neverExit before opening course state)
    (underway : course.Underway) (running : course.exited = false)
    (goesOn : problem.GoesOn settings course.iterations) :
    course.isOver opening.threshold = false ∧
      ∃ progress after,
        iterate problem.toProblem settings neverExit opening.threshold course state =
          (.ok (course.continued progress), after) := by
  obtain ⟨iterating, full⟩ :=
    reached.full admissible looks_neverExit sized underway running goesOn
  obtain ⟨after, completes⟩ := course.completed_neverExit settings
    (problem.measure settings (problem.advanced settings course.curvature state.workspace))
    { state with workspace := problem.advanced settings course.curvature state.workspace }
  exact ⟨iterating, _, after, full.trans completes⟩

/-! ### How many workspaces are shown -/

variable (problem settings) in
theorem exists_opened (observer : MatrixRun J 𝕜 rows columns Bool) (sized : 0 < columns)
    (nonneg : 0 ≤ settings.ridge) (nonzero : problem.rightHandSide ≠ 0)
    (free : before.workspace.busy = false) :
    ∃ opening state,
      Reaches problem.toProblem settings observer before opening opening.course state ∧
        opening.Starts problem settings state.workspace := by
  obtain ⟨printed, announced⟩ := announce_apply problem.toProblem settings before.held
  obtain ⟨opening, state, opens, starts, _⟩ := openCourse_exact sized nonneg announced
  refine ⟨opening, state, .opened free announced ?_ opens, starts⟩
  rw [Bool.eq_false_iff, ne_eq, isZero_real]
  exact norm_ne_zero_iff.mpr nonzero

section Watched

variable {answer : List (MatrixWorkspace 𝕜 rows columns) → Except (Fault ℝ) Bool}
variable {before state : MatrixState (MatrixWorkspace 𝕜 rows columns) 𝕜 rows columns}

theorem Reaches.full_watch (admissible : settings.Admissible) (sized : 0 < columns)
    (reached : Reaches problem.toProblem settings (watch answer) before opening course state)
    (underway : course.Underway) (running : course.exited = false)
    (goesOn : problem.GoesOn settings course.iterations) :
    course.isOver opening.threshold = false ∧
      ∃ shown printed progress,
        iterate problem.toProblem settings (watch answer) opening.threshold course state =
          ((answer (state.journal ++ [shown])).map fun exited =>
              { course with toProgress := progress, iterations := course.iterations + 1, exited },
            { printed, journal := state.journal ++ [shown], workspace := shown }) := by
  obtain ⟨iterating, full⟩ :=
    reached.full admissible (looks_watch answer) sized underway running goesOn
  refine ⟨iterating, ?_⟩
  obtain ⟨printed, completes⟩ := course.completed_apply settings (watch answer)
    (problem.measure settings (problem.advanced settings course.curvature state.workspace))
    { state with workspace := problem.advanced settings course.curvature state.workspace }
  exact ⟨_, printed, _, full.trans completes⟩

variable {steps : ℕ} (admissible : settings.Admissible) (sized : 0 < columns)
  (patient : ∀ seen, seen ≠ [] → seen.length < steps → answer seen = .ok false)
  (goesOn : ∀ earlier < steps, problem.GoesOn settings earlier)
  (quiet : before.journal = [])
include admissible sized patient goesOn quiet

omit sized goesOn in
private theorem Reaches.answers
    (reached : Reaches problem.toProblem settings (watch answer) before opening course state)
    (early : course.iterations + 1 < steps) (shown : MatrixWorkspace 𝕜 rows columns) :
    answer (state.journal ++ [shown]) = .ok false := by
  have count := (reached.seen admissible quiet).2
  apply patient
  · exact List.append_ne_nil_of_right_ne_nil _ (List.cons_ne_nil _ _)
  · rw [List.length_append, count, List.length_singleton]
    exact early

theorem Reaches.running_of_goesOn
    (reached : Reaches problem.toProblem settings (watch answer) before opening course state)
    (early : course.iterations < steps) : course.Underway ∧ course.exited = false := by
  induction reached with
  | opened free announced nonzero opens =>
      have starts := starts_of_opens sized admissible.ridge announced opens
      exact ⟨starts.underway, starts.running⟩
  | @iterated course next state after reached iterating budget ran ih =>
      have earlier : course.iterations < steps := by
        rcases iterate_counts ran with ⟨_, counted⟩ | counted
        · omega
        · omega
      obtain ⟨underway, running⟩ := ih earlier
      obtain ⟨_, shown, printed, progress, full⟩ :=
        reached.full_watch admissible sized underway running (goesOn _ earlier)
      rw [full] at ran
      have answered := congrArg Prod.fst ran
      dsimp only at answered
      cases asked : answer (state.journal ++ [shown]) with
      | error fault =>
          rw [asked] at answered
          cases answered
      | ok exited =>
          rw [asked] at answered
          cases answered
          have silent := reached.answers admissible patient quiet early shown
          rw [asked] at silent
          cases silent
          exact ⟨underway, rfl⟩

theorem length_journal_of_goesOn (free : before.workspace.busy = false)
    (nonzero : problem.rightHandSide ≠ 0) (budget : steps ≤ settings.budget) :
    steps ≤ (solve problem.toProblem settings (watch answer) before).2.journal.length := by
  have ending := solve_ends problem.toProblem settings (watch answer) before
  generalize solve problem.toProblem settings (watch answer) before = result at ending
  cases ending with
  | refused busy =>
      rw [free] at busy
      cases busy
  | zero announced zero answered =>
      obtain ⟨rfl, printed, rfl⟩ := of_announce_eq announced
      exact absurd (norm_eq_zero.mp ((isZero_real _).mp zero)) nonzero
  | unopened announced nonzero failed =>
      obtain ⟨_, _, opened, _, _⟩ := openCourse_exact sized admissible.ridge announced
      rw [opened] at failed
      cases failed
  | @interrupted opening course state after fault reached iterating budget failed =>
      have count := (reached.seen admissible quiet).2
      by_cases early : course.iterations < steps
      · obtain ⟨underway, running⟩ :=
          reached.running_of_goesOn admissible sized patient goesOn quiet early
        obtain ⟨_, shown, printed, progress, full⟩ :=
          reached.full_watch admissible sized underway running (goesOn _ early)
        have length : (state.journal ++ [shown]).length = course.iterations + 1 := by
          rw [List.length_append, count, List.length_singleton]
        rw [full] at failed
        have answered := congrArg Prod.fst failed
        have kept := congrArg Prod.snd failed
        dsimp only at answered kept
        rw [RunState.released, ← kept, length]
        by_contra short
        rw [reached.answers admissible patient quiet (not_le.mp short) shown] at answered
        cases answered
      · have move := reached.moves admissible iterating
        rw [failed] at move
        have grows := move.grows
        change steps ≤ after.journal.length
        dsimp only at grows
        omega
  | @finished opening course state _ _ reached ended closed =>
      have count := (reached.seen admissible quiet).2
      obtain ⟨printed, figures, rfl, rfl⟩ := of_closeCourse_eq closed
      change steps ≤ state.journal.length
      by_contra short
      have early : course.iterations < steps := by omega
      obtain ⟨underway, running⟩ :=
        reached.running_of_goesOn admissible sized patient goesOn quiet early
      have iterating := (reached.full admissible (looks_watch answer) sized underway running
        (goesOn _ early)).1
      rcases ended with ended | spent
      · rw [iterating] at ended
        cases ended
      · omega

omit patient quiet in
/-- As long as the method goes on and nobody stops it, so does a solve. -/
theorem exists_reached_of_goesOn (free : before.workspace.busy = false)
    (nonzero : problem.rightHandSide ≠ 0) (budget : steps ≤ settings.budget)
    (waits : ∀ seen, seen ≠ [] → seen.length ≤ steps → answer seen = .ok false)
    (quiet : before.journal = []) :
    ∃ opening course state,
      Reaches problem.toProblem settings (watch answer) before opening course state ∧
        course.iterations = steps ∧ course.Underway ∧ course.exited = false := by
  induction steps with
  | zero =>
      obtain ⟨opening, state, reached, starts⟩ :=
        exists_opened problem settings (watch answer) sized admissible.ridge nonzero free
      exact ⟨opening, _, state, reached, starts.iterations, starts.underway, starts.running⟩
  | succ steps ih =>
      obtain ⟨opening, course, state, reached, count, underway, running⟩ :=
        ih (fun earlier early => goesOn earlier (by omega)) (by omega)
          fun seen nonempty short => waits seen nonempty (by omega)
      obtain ⟨iterating, shown, printed, progress, full⟩ :=
        reached.full_watch admissible sized underway running (count ▸ goesOn steps (by omega))
      have seen := (reached.seen admissible quiet).2
      rw [waits _ (List.append_ne_nil_of_right_ne_nil _ (List.cons_ne_nil _ _))
        (by rw [List.length_append, List.length_singleton]; omega)] at full
      exact ⟨opening, _, _, .iterated reached iterating (by omega) full,
        congrArg (· + 1) count, underway, rfl⟩

end Watched

/-! ### One equation in one unknown -/

/-- Settings that ask for the exact solution inside a ball, or anywhere if the radius is zero. -/
noncomputable def Settings.exact (radius : ℝ) (budget : ℕ) : Settings ℝ :=
  { ridge := 0, absolute := 0, relative := 0, radius, budget, interval := 0, keepsHistory := true }

theorem Settings.admissible_exact {radius : ℝ} (nonneg : 0 ≤ radius) (budget : ℕ) :
    (Settings.exact radius budget).Admissible :=
  { ridge := le_rfl, absolute := le_rfl, relative := le_rfl, radius := nonneg }

namespace MatrixProblem

theorem threshold_exact (problem : MatrixProblem 𝕜 rows columns) (radius : ℝ) (budget : ℕ) :
    problem.threshold (.exact radius budget) = 0 := by
  unfold threshold Settings.exact
  rw [zero_mul, add_zero]

theorem curvature_unit : curvature (unit.normalMap 0) unit.rightHandSide = 1 := by
  unfold curvature
  rw [normalMap_unit, inner_self_eq_norm_sq, norm_rightHandSide_unit, one_pow]

theorem solution_iterateAt_unit : (unit.iterateAt 0 1).solution = unit.rightHandSide := by
  have step : (unit.iterateAt 0 0).step (unit.normalMap 0) = 1 := by
    change curvature (unit.normalMap 0) unit.normalVector /
      ‖unit.normalMap 0 unit.normalVector‖ ^ 2 = 1
    rw [normalVector_unit, curvature_unit, normalMap_unit, norm_rightHandSide_unit, one_pow,
      div_one]
  change (0 : EuclideanSpace ℝ (Fin 1)) +
    (((unit.iterateAt 0 0).step (unit.normalMap 0) : ℝ) : ℝ) • unit.normalVector = _
  rw [step, normalVector_unit]
  simp

theorem residual_iterateAt_unit : (unit.iterateAt 0 1).residual = 0 := by
  have defect := residual_eq_sub (unit.normalMap 0) unit.normalVector 1
  change (unit.iterateAt 0 1).residual =
    unit.normalVector - unit.normalMap 0 (unit.iterateAt 0 1).solution at defect
  rw [defect, solution_iterateAt_unit, normalMap_unit, normalVector_unit, sub_self]

theorem rightHandSide_unit_ne_zero : unit.rightHandSide ≠ 0 := by
  rw [← norm_ne_zero_iff, norm_rightHandSide_unit]
  exact one_ne_zero

theorem goesOn_unit {settings : Settings ℝ} (ridge : settings.ridge = 0)
    (short : unit.threshold settings < 1)
    (roomy : 0 < settings.radius → 1 < settings.radius) : unit.GoesOn settings 0 := by
  have residual : ‖(unit.iterateAt settings.ridge 0).residual‖ = 1 := by
    change ‖unit.normalVector‖ = 1
    rw [normalVector_unit, norm_rightHandSide_unit]
  have image : ‖unit.normalMap settings.ridge (unit.iterateAt settings.ridge 0).direction‖ = 1 := by
    rw [ridge, normalMap_unit]
    exact residual
  refine { short := ?_, image := ?_, tilted := ?_, curved := ?_, inside := ?_ }
  · rw [residual]
    exact short
  · rw [← norm_ne_zero_iff, image]
    exact one_ne_zero
  · intro bounded
    have direction : ‖(unit.iterateAt settings.ridge 0).direction‖ = 1 := residual
    rw [image, forwardMap_unit, direction, mul_one, mul_one, one_pow]
    exact short
  · rw [ridge]
    change curvature (unit.normalMap 0) unit.normalVector ≠ 0
    rw [normalVector_unit, curvature_unit]
    exact one_ne_zero
  · intro bounded
    rw [ridge, solution_iterateAt_unit, norm_rightHandSide_unit]
    change ‖(0 : EuclideanSpace ℝ (Fin 1))‖ < settings.radius ∧ 1 < settings.radius
    rw [norm_zero]
    exact ⟨bounded, roomy bounded⟩

theorem shows_unit (radius : ℝ) (nonneg : 0 ≤ radius) (roomy : 0 < radius → 1 < radius)
    (answer : List (MatrixWorkspace ℝ 1 1) → Except (Fault ℝ) Bool) :
    ∃ shown, (solve unit.toProblem (.exact radius 1) (watch answer)
      (.ofWorkspace unit.ownWorkspace)).2.journal[0]? = some shown := by
  have patient : ∀ seen : List (MatrixWorkspace ℝ 1 1), seen ≠ [] → seen.length < 1 →
      answer seen = .ok false := by
    intro seen nonempty short
    exact absurd (List.length_eq_zero_iff.mp (Nat.lt_one_iff.mp short)) nonempty
  have goesOn : ∀ earlier < 1, unit.GoesOn (.exact radius 1) earlier := by
    intro earlier first
    rw [Nat.lt_one_iff.mp first]
    refine goesOn_unit rfl ?_ roomy
    rw [threshold_exact]
    exact one_pos
  have free : (RunState.ofWorkspace (J := MatrixWorkspace ℝ 1 1)
      unit.ownWorkspace).workspace.busy = false := rfl
  have length := length_journal_of_goesOn (Settings.admissible_exact nonneg 1) Nat.one_pos
    patient goesOn rfl free rightHandSide_unit_ne_zero le_rfl
  exact ⟨_, List.getElem?_eq_getElem length⟩

/-! ### Two equations in two unknowns -/

theorem iterateAt_pair_one :
    pair.iterateAt 0 1 =
      { solution := !₂[4 / 5, 2 / 5], residual := !₂[6 / 5, -3 / 5]
        direction := !₂[48 / 25, -6 / 25] } := by
  have step : (Iterate.first !₂[2, 1]).step (pair.normalMap 0) = 2 / 5 := by
    change curvature (pair.normalMap 0) !₂[2, 1] / ‖pair.normalMap 0 !₂[2, 1]‖ ^ 2 = 2 / 5
    rw [curvature_pair, normalMap_pair, norm_sq_pair]
    norm_num
  have residual : (Iterate.first !₂[2, 1]).nextResidual (pair.normalMap 0) = !₂[6 / 5, -3 / 5] := by
    unfold Iterate.nextResidual
    rw [step]
    change !₂[2, 1] - (2 / 5 : ℝ) • pair.normalMap 0 !₂[2, 1] = _
    rw [normalMap_pair]
    ext index
    fin_cases index <;> norm_num
  have ratio : (Iterate.first !₂[2, 1]).ratio (pair.normalMap 0) = 9 / 25 := by
    unfold Iterate.ratio
    rw [residual]
    change _ / curvature (pair.normalMap 0) !₂[2, 1] = _
    rw [curvature_pair, curvature_pair]
    norm_num
  unfold iterateAt
  rw [normalVector_pair]
  change (Iterate.first !₂[2, 1]).next (pair.normalMap 0) = _
  unfold Iterate.next Iterate.nextSolution
  rw [residual, ratio, step]
  congr 1
  · ext index
    fin_cases index <;> norm_num [Iterate.first]
  · ext index
    fin_cases index <;> norm_num [Iterate.first]

theorem solution_iterateAt_pair_two : (pair.iterateAt 0 2).solution = !₂[2, 1 / 4] := by
  change (pair.iterateAt 0 1).nextSolution (pair.normalMap 0) = _
  unfold Iterate.nextSolution Iterate.step
  rw [iterateAt_pair_one]
  dsimp only
  rw [curvature_pair, normalMap_pair, norm_sq_pair]
  ext index
  fin_cases index <;> norm_num

private theorem iterateAt_pair_zero : pair.iterateAt 0 0 = .first !₂[2, 1] :=
  congrArg Iterate.first normalVector_pair

section Pair

variable {settings : Settings ℝ} (ridge : settings.ridge = 0)
  (strict : pair.threshold settings = 0)
include ridge strict

theorem due_pair_of_first {steps : ℕ} {first first' second second' : ℝ} (nonzero : first ≠ 0)
    (nonzero' : first' ≠ 0)
    (residual : (pair.iterateAt 0 steps).residual = !₂[first, second])
    (direction : (pair.iterateAt 0 steps).direction = !₂[first', second']) :
    pair.Due settings steps := by
  refine { short := ?_, image := ?_, tilted := fun _ => ?_ }
  · rw [strict, ridge, residual]
    exact norm_pos_iff.mpr (ne_zero_of_first nonzero _)
  · rw [ridge, direction, normalMap_pair]
    exact ne_zero_of_first nonzero' _
  · rw [strict, ridge, direction, forwardMap_pair, zero_mul, zero_mul]
    exact pow_pos (norm_pos_iff.mpr (ne_zero_of_first nonzero' _)) 2

theorem goesOn_pair_zero (roomy : 0 < settings.radius → 1 < settings.radius) :
    pair.GoesOn settings 0 := by
  have due : pair.Due settings 0 :=
    due_pair_of_first ridge strict two_ne_zero two_ne_zero
      (congrArg Iterate.residual iterateAt_pair_zero)
      (congrArg Iterate.direction iterateAt_pair_zero)
  refine { due with curved := ?_, inside := fun bounded => ?_ }
  · rw [ridge, iterateAt_pair_zero]
    change curvature (pair.normalMap 0) !₂[2, 1] ≠ 0
    rw [curvature_pair]
    norm_num
  · have large := roomy bounded
    rw [ridge, iterateAt_pair_zero, iterateAt_pair_one]
    change ‖(0 : EuclideanSpace ℝ (Fin 2))‖ < settings.radius ∧ _
    rw [norm_zero]
    exact ⟨bounded, norm_lt_pair bounded.le (by nlinarith)⟩

theorem due_pair_one : pair.Due settings 1 :=
  due_pair_of_first ridge strict (by norm_num) (by norm_num)
    (congrArg Iterate.residual iterateAt_pair_one) (congrArg Iterate.direction iterateAt_pair_one)

private theorem goesOn_pair_one (unbounded : settings.radius = 0) : pair.GoesOn settings 1 := by
  refine { due_pair_one ridge strict with curved := ?_, inside := fun bounded => ?_ }
  · rw [ridge, iterateAt_pair_one]
    dsimp only
    rw [curvature_pair]
    norm_num
  · rw [unbounded] at bounded
    exact absurd bounded (lt_irrefl 0)

end Pair

/-- Without a trust region both steps are full ones. -/
theorem shows_pair :
    ∃ shown, (solve pair.toProblem (.exact 0 2) (watch fun _ => .ok false)
      (.ofWorkspace pair.ownWorkspace)).2.journal[1]? = some shown := by
  have goesOn : ∀ earlier < 2, pair.GoesOn (.exact 0 2) earlier := by
    intro earlier within
    have strict := threshold_exact pair 0 2
    rcases Nat.le_one_iff_eq_zero_or_eq_one.mp (Nat.lt_succ_iff.mp within) with rfl | rfl
    · exact goesOn_pair_zero rfl strict fun bounded => absurd bounded (lt_irrefl 0)
    · exact goesOn_pair_one rfl strict rfl
  have quiet : (RunState.ofWorkspace (J := MatrixWorkspace ℝ 2 2) pair.ownWorkspace).journal = [] :=
    rfl
  have free : (RunState.ofWorkspace (J := MatrixWorkspace ℝ 2 2)
      pair.ownWorkspace).workspace.busy = false := rfl
  have length := length_journal_of_goesOn (Settings.admissible_exact le_rfl 2) Nat.two_pos
    (fun _ _ _ => rfl) goesOn quiet free rightHandSide_pair_ne_zero le_rfl
  exact ⟨_, List.getElem?_eq_getElem length⟩

end MatrixProblem

end ConjugateResidual
