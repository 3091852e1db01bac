import Mathlib
import ConjugateResidual.Proofs.Exact.Outcomes
import ConjugateResidual.Proofs.Exact.Scaling
import ConjugateResidual.Proofs.Exact.Termination

/-!
A solve and the solve of the same problem in other units. The two keep abreast, iteration by
iteration, as long as the test for missing curvature gives both the same answer. That test alone
depends on the units, because its threshold is the one for the norm of the gradient: where it
answers differently the two solves part for good.
-/

namespace ConjugateResidual

open Arithmetic Method

variable {𝕜 J : Type} [RCLike 𝕜] {rows columns : ℕ}
variable {problem : MatrixProblem 𝕜 rows columns} {settings : Settings ℝ} {scale : ℝ}
variable {before before' state state' : MatrixState J 𝕜 rows columns}
variable {opening opening' : Opening ℝ} {course course' : Course ℝ}

structure Scales (scale : ℝ) (course course' : Course ℝ)
    (state state' : MatrixState J 𝕜 rows columns) : Prop where
  iterations : course'.iterations = course.iterations
  flat : course'.flat = course.flat
  clipped : course'.clipped = course.clipped
  exited : course'.exited = course.exited
  optimality : course'.optimality = scale * course.optimality
  workspace : state.workspace.Magnifies scale state'.workspace

namespace Scales

variable (scales : Scales scale course course' state state') (positive : 0 < scale)
  (threshold : ℝ)
include scales positive

theorem isOptimal :
    course'.isOptimal (scale * threshold) = course.isOptimal threshold := by
  rw [Bool.eq_iff_iff, Progress.isOptimal, Progress.isOptimal, le_real, le_real,
    scales.optimality, mul_le_mul_iff_right₀ positive]

private theorem isOver : course'.isOver (scale * threshold) = course.isOver threshold := by
  unfold Course.isOver
  rw [scales.isOptimal positive, scales.flat, scales.clipped, scales.exited]

theorem isSolved : course'.isSolved (scale * threshold) = course.isSolved threshold := by
  unfold Course.isSolved
  rw [scales.isOptimal positive, scales.flat, scales.clipped]

private theorem status :
    course'.status (settings.scaled scale) (scale * threshold) =
      course.status settings threshold := by
  unfold Course.status Course.isTired
  rw [scales.isSolved positive, scales.flat, scales.clipped, scales.exited, scales.iterations]
  rfl

private theorem settled :
    (course'.settle (settings.scaled scale) (scale * threshold) state'.workspace).stats =
      (course.settle settings threshold state.workspace).stats.scaled scale := by
  have stats := scales.workspace.stats
  have residuals : state'.workspace.recorder.residuals =
      state.workspace.recorder.residuals.map (scale * ·) := congrArg Snapshot.residuals stats
  have optimalities : state'.workspace.recorder.optimalities =
      state.workspace.recorder.optimalities.map (scale * ·) :=
    congrArg Snapshot.optimalities stats
  change Snapshot.mk (course'.iterations : ℤ) (course'.isSolved _) false (course'.status _ _)
    state'.workspace.recorder.residuals state'.workspace.recorder.optimalities = _
  rw [scales.isSolved positive, scales.status positive, scales.iterations, residuals,
    optimalities]
  rfl

end Scales

theorem Scales.of_stands (positive : 0 < scale)
    (stands : course.Stands problem settings state.workspace)
    (stands' : course'.Stands (problem.scaled scale) (settings.scaled scale) state'.workspace)
    (iterations : course'.iterations = course.iterations) (underway : course.Underway)
    (underway' : course'.Underway) (exited : course'.exited = course.exited) :
    Scales scale course course' state state' := by
  have place' := stands'.place
  rw [iterations] at place'
  refine
    { iterations, exited
      flat := underway'.1.trans underway.1.symm
      clipped := underway'.2.trans underway.2.symm
      optimality := ?_
      workspace := .of_places positive stands.place place' }
  rw [stands'.optimality_eq, stands.optimality_eq, iterations]
  change ‖((problem.scaled scale).iterateAt settings.ridge _).residual‖ = _
  rw [MatrixProblem.iterateAt_scaled positive]
  exact norm_ofReal_smul positive _

theorem Settings.Admissible.scaled (admissible : settings.Admissible) (positive : 0 < scale) :
    (settings.scaled scale).Admissible :=
  { admissible with radius := mul_nonneg positive.le admissible.radius }

/-- A problem whose solves are to be compared with those in units `scale` times smaller. An absolute
tolerance would have to be scaled as well. -/
structure Rescales (problem : MatrixProblem 𝕜 rows columns) (settings : Settings ℝ) (scale : ℝ) :
    Prop where
  admissible : settings.Admissible
  absolute : settings.absolute = 0
  sized : 0 < columns
  semidefinite : problem.WeightSemidefinite
  positive : 0 < scale

theorem Rescales.admissible_scaled (rescales : Rescales problem settings scale) :
    (settings.scaled scale).Admissible :=
  rescales.admissible.scaled rescales.positive

theorem Rescales.semidefinite_scaled (rescales : Rescales problem settings scale) :
    (problem.scaled scale).WeightSemidefinite :=
  rescales.semidefinite

/-! ### Two solves side by side -/

structure Abreast (problem : MatrixProblem 𝕜 rows columns) (settings : Settings ℝ) (scale : ℝ)
    (before before' : MatrixState J 𝕜 rows columns) (opening opening' : Opening ℝ)
    (course course' : Course ℝ) (state state' : MatrixState J 𝕜 rows columns) : Prop where
  reached : Reaches problem.toProblem settings neverExit before opening course state
  reached' :
    Reaches (problem.scaled scale).toProblem (settings.scaled scale) neverExit before' opening'
      course' state'
  scales : Scales scale course course' state state'

private theorem Abreast.of_starts (positive : 0 < scale)
    (reached : Reaches problem.toProblem settings neverExit before opening opening.course state)
    (starts : opening.Starts problem settings state.workspace)
    (reached' :
      Reaches (problem.scaled scale).toProblem (settings.scaled scale) neverExit before' opening'
        opening'.course state')
    (starts' : opening'.Starts (problem.scaled scale) (settings.scaled scale) state'.workspace) :
    Abreast problem settings scale before before' opening opening' opening.course opening'.course
      state state' :=
  { reached, reached'
    scales := .of_stands positive starts.stands starts'.stands
      (starts'.iterations.trans starts.iterations.symm) starts.underway starts'.underway
      (starts'.running.trans starts.running.symm) }

structure Abreast.Next (problem : MatrixProblem 𝕜 rows columns) (settings : Settings ℝ)
    (scale : ℝ) (opening opening' : Opening ℝ) (course course' : Course ℝ)
    (state state' : MatrixState J 𝕜 rows columns) (next next' : Course ℝ)
    (after after' : MatrixState J 𝕜 rows columns) : Prop where
  ran : iterate problem.toProblem settings neverExit opening.threshold course state =
    (.ok next, after)
  ran' :
    iterate (problem.scaled scale).toProblem (settings.scaled scale) neverExit opening'.threshold
      course' state' = (.ok next', after')
  scales : Scales scale next next' after after'

section Runs

variable (rescales : Rescales problem settings scale)

namespace Abreast

variable (abreast : Abreast problem settings scale before before' opening opening' course course'
  state state')
include rescales abreast

theorem threshold : opening'.threshold = scale * opening.threshold := by
  obtain ⟨_, starts⟩ := abreast.reached.starts rescales.sized rescales.admissible.ridge
  obtain ⟨_, starts'⟩ := abreast.reached'.starts rescales.sized rescales.admissible_scaled.ridge
  rw [starts.threshold, starts'.threshold,
    MatrixProblem.threshold_scaled rescales.positive rescales.absolute]

theorem isOver : course'.isOver opening'.threshold = course.isOver opening.threshold := by
  rw [abreast.threshold rescales, abreast.scales.isOver rescales.positive]

theorem flat_iff :
    state'.workspace.Flat (settings.scaled scale) opening'.threshold ↔
      state.workspace.Flat settings (scale * opening.threshold) := by
  rw [abreast.threshold rescales]
  exact abreast.scales.workspace.flat_iff rescales.positive _

variable (iterating : course.isOver opening.threshold = false)
include iterating

theorem poised :
    course.Poised problem settings state.workspace ∧
      course'.Poised (problem.scaled scale) (settings.scaled scale) state'.workspace := by
  have open' := (abreast.isOver rescales).trans iterating
  exact ⟨abreast.reached.poised rescales.admissible looks_neverExit rescales.semidefinite iterating,
    abreast.reached'.poised rescales.admissible_scaled looks_neverExit
      rescales.semidefinite_scaled open'⟩

theorem curvature_eq : course'.curvature = scale ^ 2 * course.curvature := by
  obtain ⟨poised, poised'⟩ := abreast.poised rescales iterating
  rw [poised.stands.curvature_gradient, poised'.stands.curvature_gradient]
  change curvature (problem.normalMap settings.ridge) state'.workspace.gradient = _
  rw [abreast.scales.workspace.gradient, curvature_smul, RCLike.norm_ofReal, sq_abs]

private theorem gradientStep_eq :
    gradientStep (settings.scaled scale) course'.toProgress state'.workspace.solution
        state'.workspace.gradient =
      gradientStep settings course.toProgress state.workspace.solution
        state.workspace.gradient := by
  have scales := abreast.scales
  obtain ⟨poised, _⟩ := abreast.poised rescales iterating
  rw [scales.workspace.solution, scales.workspace.gradient]
  exact gradientStep_smul rescales.positive poised.inside poised.descends
    (congrArg Progress.optimality poised.stands.progress) scales.optimality
    (abreast.curvature_eq rescales iterating)

private theorem directionStep_eq (curved : ¬ state.workspace.Flat settings opening.threshold) :
    directionStep (settings.scaled scale) course'.curvature (‖state'.workspace.normalImage‖ ^ 2)
        state'.workspace.solution state'.workspace.direction =
      directionStep settings course.curvature (‖state.workspace.normalImage‖ ^ 2)
        state.workspace.solution state.workspace.direction := by
  have scales := abreast.scales
  obtain ⟨poised, _⟩ := abreast.poised rescales iterating
  rw [abreast.curvature_eq rescales iterating, scales.workspace.normalImage,
    scales.workspace.solution, scales.workspace.direction, norm_ofReal_smul rescales.positive,
    mul_pow]
  exact directionStep_smul rescales.positive poised.inside
    (poised.stands.place.direction_ne_zero curved) (Workspace.square_ne_zero curved)

private theorem turns (flat : state.workspace.Flat settings opening.threshold)
    (flat' : state'.workspace.Flat (settings.scaled scale) opening'.threshold) :
    ∃ next next' after after', Abreast.Next problem settings scale opening opening' course course'
      state state' next next' after after' := by
  have scales := abreast.scales
  have open' := (abreast.isOver rescales).trans iterating
  obtain ⟨step, stepped, turns⟩ :=
    abreast.reached.turns rescales.admissible looks_neverExit rescales.semidefinite iterating flat
  obtain ⟨step', stepped', turns'⟩ :=
    abreast.reached'.turns rescales.admissible_scaled looks_neverExit
      rescales.semidefinite_scaled open' flat'
  rw [abreast.gradientStep_eq rescales iterating, stepped] at stepped'
  cases stepped'
  have turned := scales.workspace.turned problem settings
  have moved := turned.moved turned.gradient turned.normalImage step
  refine ⟨_, _, _, _, { ran := turns, ran' := turns', scales := ?_ }⟩
  refine { scales with flat := rfl, optimality := ?_, workspace := moved }
  exact (congrArg norm moved.gradient).trans (norm_ofReal_smul rescales.positive _)

private theorem steps (budget : course.iterations < settings.budget)
    (curved : ¬ state.workspace.Flat settings opening.threshold)
    (curved' : ¬ state'.workspace.Flat (settings.scaled scale) opening'.threshold) :
    ∃ next next' after after', Abreast.Next problem settings scale opening opening' course course'
      state state' next next' after after' := by
  have scales := abreast.scales
  have lengths := abreast.directionStep_eq rescales iterating curved
  have open' := (abreast.isOver rescales).trans iterating
  have budget' : course'.iterations < settings.budget := scales.iterations.trans_lt budget
  have moves' := abreast.reached'.steps rescales.admissible_scaled rescales.semidefinite_scaled
    open' curved'
  rcases abreast.reached.steps rescales.admissible rescales.semidefinite iterating curved with
    ⟨step, clipped, clips⟩ | ⟨full, progress, after, completes⟩
  · rcases moves' with ⟨step', clipped', clips'⟩ | ⟨full', _⟩
    · rw [lengths, clipped] at clipped'
      cases clipped'
      have moved := scales.workspace.moved scales.workspace.direction
        scales.workspace.normalImage step
      refine ⟨_, _, _, _, { ran := clips, ran' := clips', scales := ?_ }⟩
      refine { scales with clipped := rfl, optimality := ?_, workspace := moved }
      exact (congrArg norm moved.gradient).trans (norm_ofReal_smul rescales.positive _)
    · rw [lengths, clipped] at full'
      cases full'
  · rcases moves' with ⟨step', clipped', _⟩ | ⟨_, progress', after', completes'⟩
    · rw [lengths, full] at clipped'
      cases clipped'
    · -- After a full step each solve stands at the next iterate of its own method.
      have underway := Course.underway_of_open iterating
      have underway' := Course.underway_of_open open'
      have reached := Reaches.iterated abreast.reached iterating budget completes
      have reached' := Reaches.iterated abreast.reached' open' budget' completes'
      have stands := reached.stands rescales.admissible looks_neverExit rescales.sized underway
      have stands' := reached'.stands rescales.admissible_scaled looks_neverExit rescales.sized
        underway'
      refine ⟨_, _, _, _, { ran := completes, ran' := completes', scales := ?_ }⟩
      exact .of_stands rescales.positive stands stands' (congrArg (· + 1) scales.iterations)
        underway underway' rfl

private theorem next (budget : course.iterations < settings.budget)
    (same : state.workspace.Flat settings (scale * opening.threshold) ↔
      state.workspace.Flat settings opening.threshold) :
    ∃ next next' after after', Abreast.Next problem settings scale opening opening' course course'
      state state' next next' after after' := by
  have flat_iff := (abreast.flat_iff rescales).trans same
  by_cases flat : state.workspace.Flat settings opening.threshold
  · exact abreast.turns rescales iterating flat (flat_iff.mpr flat)
  · exact abreast.steps rescales iterating budget flat fun found => flat (flat_iff.mp found)

/-- Where the test for missing curvature answers differently, one solve reports at once that there
is none, and the other one does not. -/
theorem parts (budget : course.iterations < settings.budget)
    (different : ¬ (state.workspace.Flat settings (scale * opening.threshold) ↔
      state.workspace.Flat settings opening.threshold))
    {report report' : Report ℝ} {final final' : MatrixState J 𝕜 rows columns}
    (solves : solve problem.toProblem settings neverExit before = (.ok report, final))
    (solves' :
      solve (problem.scaled scale).toProblem (settings.scaled scale) neverExit before' =
        (.ok report', final'))
    (iterations : report'.stats.iterations = report.stats.iterations) :
    report'.stats.status ≠ report.stats.status := by
  have open' := (abreast.isOver rescales).trans iterating
  have count := abreast.scales.iterations
  have budget' : course'.iterations < (settings.scaled scale).budget := count.trans_lt budget
  rw [← abreast.flat_iff rescales] at different
  intro status
  by_cases flat : state.workspace.Flat settings opening.threshold
  · have curved' : ¬ state'.workspace.Flat (settings.scaled scale) opening'.threshold :=
      fun flat' => different ⟨fun _ => flat, fun _ => flat'⟩
    obtain ⟨_, _, ends, zeroCurvature, counted⟩ :=
      abreast.reached.ends_flat rescales.admissible rescales.semidefinite iterating budget flat
    rw [solves] at ends
    cases ends
    have onBoundary := abreast.reached'.ends_curved rescales.admissible_scaled
      rescales.semidefinite_scaled open' budget' curved' solves'
      (by rw [iterations, counted, count])
    rw [status, zeroCurvature] at onBoundary
    cases onBoundary
  · have flat' : state'.workspace.Flat (settings.scaled scale) opening'.threshold := by
      by_contra curved'
      exact different ⟨fun flat' => absurd flat' curved', fun found => absurd found flat⟩
    obtain ⟨_, _, ends, zeroCurvature, counted⟩ := abreast.reached'.ends_flat
      rescales.admissible_scaled rescales.semidefinite_scaled open' budget' flat'
    rw [solves'] at ends
    cases ends
    have onBoundary := abreast.reached.ends_curved rescales.admissible rescales.semidefinite
      iterating budget flat solves (by rw [← iterations, counted, count])
    rw [← status, zeroCurvature] at onBoundary
    cases onBoundary

end Abreast

inductive Parting (problem : MatrixProblem 𝕜 rows columns) (settings : Settings ℝ) (scale : ℝ)
    (before before' : MatrixState J 𝕜 rows columns) : Prop where
  | tested {opening opening' : Opening ℝ} {course course' : Course ℝ}
      {state state' : MatrixState J 𝕜 rows columns}
      (abreast : Abreast problem settings scale before before' opening opening' course course'
        state state')
      (iterating : course.isOver opening.threshold = false)
      (budget : course.iterations < settings.budget)
      (different : ¬ (state.workspace.Flat settings (scale * opening.threshold) ↔
        state.workspace.Flat settings opening.threshold))

include rescales

theorem Reaches.keepsAbreast (free' : before'.workspace.busy = false)
    (reached : Reaches problem.toProblem settings neverExit before opening course state) :
    (∃ opening' course' state',
      Abreast problem settings scale before before' opening opening' course course' state
        state') ∨
      Parting problem settings scale before before' := by
  induction reached with
  | @opened norm entered state free announced nonzero opens =>
      have starts := starts_of_opens rescales.sized rescales.admissible.ridge announced opens
      have reached : Reaches problem.toProblem settings neverExit before opening opening.course
        state := .opened free announced nonzero opens
      have nonzero' := MatrixProblem.rightHandSide_scaled_ne_zero rescales.positive
        reached.rightHandSide_ne_zero
      obtain ⟨opening', state', reached', starts'⟩ := exists_opened (problem.scaled scale)
        (settings.scaled scale) neverExit rescales.sized rescales.admissible.ridge nonzero' free'
      exact .inl ⟨opening', opening'.course, state',
        .of_starts rescales.positive reached starts reached' starts'⟩
  | @iterated course next state after reached iterating budget ran ih =>
      rcases ih with ⟨opening', course', state', abreast⟩ | parting
      · by_cases same : state.workspace.Flat settings (scale * opening.threshold) ↔
            state.workspace.Flat settings opening.threshold
        · obtain ⟨_, next', _, after', going⟩ := abreast.next rescales iterating budget same
          have known := ran.symm.trans going.ran
          cases known
          have open' := (abreast.isOver rescales).trans iterating
          have budget' : course'.iterations < (settings.scaled scale).budget :=
            abreast.scales.iterations.trans_lt budget
          exact .inl ⟨opening', next', after',
            { reached := .iterated reached iterating budget ran
              reached' := .iterated abreast.reached' open' budget' going.ran'
              scales := going.scales }⟩
        · exact .inr (.tested abreast iterating budget same)
      · exact .inr parting

end Runs

/-! ### Whole solves -/

theorem directionIsFlat_eq_iff (first second : ℝ) :
    (directionIsFlat settings first (‖state.workspace.normalImage‖ ^ 2) state).1 =
        (directionIsFlat settings second (‖state.workspace.normalImage‖ ^ 2) state).1 ↔
      (state.workspace.Flat settings first ↔ state.workspace.Flat settings second) := by
  obtain ⟨flat, tested, flat_iff⟩ := directionIsFlat_exact settings state first
  obtain ⟨flat', tested', flat_iff'⟩ := directionIsFlat_exact settings state second
  rw [tested, tested', ← flat_iff, ← flat_iff', Except.ok.injEq, Bool.eq_iff_iff]

/-- In no iteration that is due does the test for missing curvature depend on the units in which its
threshold is measured. -/
def MatrixProblem.IgnoresUnits (problem : MatrixProblem 𝕜 rows columns) (settings : Settings ℝ)
    (scale : ℝ) (before : MatrixState J 𝕜 rows columns) : Prop :=
  ∀ opening course state,
    Reaches problem.toProblem settings neverExit before opening course state →
      course.isOver opening.threshold = false → course.iterations < settings.budget →
        (directionIsFlat settings (scale * opening.threshold)
            (‖state.workspace.normalImage‖ ^ 2) state).1 =
          (directionIsFlat settings opening.threshold (‖state.workspace.normalImage‖ ^ 2) state).1

private theorem MatrixProblem.ignoresUnits_of_untested (admissible : settings.Admissible)
    (absolute : settings.absolute = 0) (sized : 0 < columns) (scale : ℝ)
    (before : MatrixState J 𝕜 rows columns)
    (untested : settings.radius = 0 ∨ settings.relative = 0) :
    problem.IgnoresUnits settings scale before := by
  intro opening course state reached iterating budget
  rw [directionIsFlat_eq_iff]
  rcases untested with unbounded | relative
  · unfold Workspace.Flat
    rw [unbounded]
    simp only [lt_irrefl, false_and, or_false]
  · obtain ⟨_, starts⟩ := reached.starts sized admissible.ridge
    have zero : opening.threshold = 0 := by
      rw [starts.threshold, MatrixProblem.threshold, absolute, relative, zero_mul, add_zero]
    rw [zero, mul_zero]

private theorem MatrixProblem.stats_answered_scaled (zero : problem.rightHandSide = 0)
    (workspace workspace' : MatrixWorkspace 𝕜 rows columns) :
    (((problem.scaled scale).toProblem (J := J)).prepared (settings.scaled scale)
          workspace').answered.stats =
      ((problem.toProblem (J := J)).prepared settings workspace).answered.stats.scaled scale := by
  have norm : ‖problem.rightHandSide‖ = 0 := norm_eq_zero.mpr zero
  have norm' : ‖(problem.scaled scale).rightHandSide‖ = 0 := by
    rw [MatrixProblem.scaled, zero, smul_zero, norm_zero]
  change ((Workspace.settled 0 true .zeroRightHandSide
      { workspace' with
        recorder :=
          (Recorder.cleared settings.keepsHistory).recordResidual
            ‖(problem.scaled scale).rightHandSide‖ }).recorder.recordOptimality 0).snapshot =
    ((Workspace.settled 0 true .zeroRightHandSide
      { workspace with
        recorder :=
          (Recorder.cleared settings.keepsHistory).recordResidual
            ‖problem.rightHandSide‖ }).recorder.recordOptimality 0).snapshot.scaled scale
  rw [norm, norm']
  unfold Workspace.settled Recorder.recordResidual Recorder.recordOptimality Recorder.cleared
    Recorder.snapshot Snapshot.scaled
  cases settings.keepsHistory with
  | false => rfl
  | true => simp

section Solves

variable (rescales : Rescales problem settings scale) (free' : before'.workspace.busy = false)
  {report report' : Report ℝ} {final final' : MatrixState J 𝕜 rows columns}
  (solves : solve problem.toProblem settings neverExit before = (.ok report, final))
  (solves' :
    solve (problem.scaled scale).toProblem (settings.scaled scale) neverExit before' =
      (.ok report', final'))
include rescales free' solves solves'

private theorem scaled_of_ignoresUnits (ignores : problem.IgnoresUnits settings scale before) :
    report'.stats = report.stats.scaled scale ∧
      final'.workspace.solution = (scale : 𝕜) • final.workspace.solution := by
  have ending := solve_ends problem.toProblem settings neverExit before
  rw [solves] at ending
  cases ending with
  | zero announced zero answered =>
      obtain ⟨rfl, printed, rfl⟩ := of_announce_eq announced
      have blank : problem.rightHandSide = 0 := norm_eq_zero.mp ((isZero_real _).mp zero)
      have blank' : (problem.scaled scale).rightHandSide = 0 := by
        rw [MatrixProblem.scaled, blank, smul_zero]
      obtain ⟨printed', ends'⟩ := solve_of_rightHandSide_eq_zero (settings.scaled scale) neverExit
        blank' free'
      rw [ends'] at solves'
      rw [solveZero_apply] at answered
      cases answered
      cases solves'
      exact ⟨MatrixProblem.stats_answered_scaled blank _ _, (smul_zero _).symm⟩
  | finished reached ended closed =>
      obtain ⟨printed, figures, returned, rfl⟩ := of_closeCourse_eq closed
      cases returned
      rcases reached.keepsAbreast rescales free' with
        ⟨opening', course', state', abreast⟩ | ⟨abreast, iterating, budget, different⟩
      · have threshold := abreast.threshold rescales
        have ended' := ended
        rw [← abreast.isOver rescales, ← abreast.scales.iterations]
          at ended'
        obtain ⟨printed', figures', ends'⟩ := abreast.reached'.ends ended'
        rw [ends', threshold] at solves'
        cases solves'
        exact ⟨abreast.scales.settled rescales.positive _, abreast.scales.workspace.solution⟩
      · exact absurd ((directionIsFlat_eq_iff _ _).mp
          (ignores _ _ _ abreast.reached iterating budget)) different

private theorem ignoresUnits_of_same
    (iterations : report'.stats.iterations = report.stats.iterations)
    (status : report'.stats.status = report.stats.status) :
    problem.IgnoresUnits settings scale before := by
  intro opening course state reached iterating budget
  rw [directionIsFlat_eq_iff]
  by_contra different
  have parting : Parting problem settings scale before before' := by
    rcases reached.keepsAbreast rescales free' with
      ⟨opening', course', state', abreast⟩ | parting
    · exact .tested abreast iterating budget different
    · exact parting
  obtain ⟨abreast, due, spare, differ⟩ := parting
  exact abreast.parts rescales due spare differ solves
    solves' iterations status

end Solves

variable (problem settings scale)

/-- A solve in other units is the same solve, measured in them, as long as the test for missing
curvature answers alike at all iterations; otherwise it differs in the number of iterations or in
the status. Without a trust region or without a relative tolerance the test always answers alike. -/
theorem solve_scales (admissible : settings.Admissible) (absolute : settings.absolute = 0)
    (sized : 0 < columns) (semidefinite : problem.WeightSemidefinite) (positive : 0 < scale)
    (before before' : MatrixState J 𝕜 rows columns) (free : before.workspace.busy = false)
    (free' : before'.workspace.busy = false) :
    (∃ report final report' final',
      solve problem.toProblem settings neverExit before = (.ok report, final) ∧
        solve (problem.scaled scale).toProblem (settings.scaled scale) neverExit before' =
          (.ok report', final') ∧
        (problem.IgnoresUnits settings scale before →
          report'.stats = report.stats.scaled scale ∧
            final'.workspace.solution = (scale : 𝕜) • final.workspace.solution) ∧
        (report'.stats.iterations = report.stats.iterations →
          report'.stats.status = report.stats.status →
            problem.IgnoresUnits settings scale before)) ∧
      (settings.radius = 0 ∨ settings.relative = 0 →
        problem.IgnoresUnits settings scale before) := by
  have rescales : Rescales problem settings scale :=
    { admissible, absolute, sized, semidefinite, positive }
  obtain ⟨report, final, solves⟩ := solve_returns admissible semidefinite sized free
  obtain ⟨report', final', solves'⟩ := solve_returns rescales.admissible_scaled
    rescales.semidefinite_scaled sized free'
  refine ⟨⟨report, final, report', final', solves, solves', ?_, ?_⟩, ?_⟩
  · exact scaled_of_ignoresUnits rescales free' solves solves'
  · exact ignoresUnits_of_same rescales free' solves solves'
  · exact MatrixProblem.ignoresUnits_of_untested admissible absolute sized scale before

theorem solve_scales_unit :
    let before : MatrixState Unit ℝ 1 1 := .ofWorkspace MatrixProblem.unit.ownWorkspace
    ∃ report final report' final',
      solve MatrixProblem.unit.toProblem (.exact 2 1) neverExit before = (.ok report, final) ∧
        solve (MatrixProblem.unit.scaled 8).toProblem (.scaled 8 (.exact 2 1)) neverExit before =
          (.ok report', final') ∧
        report'.stats = report.stats.scaled 8 ∧
        final'.workspace.solution = (8 : ℝ) • final.workspace.solution := by
  intro before
  obtain ⟨⟨report, final, report', final', solves, solves', scaled, _⟩, ignores⟩ :=
    solve_scales MatrixProblem.unit (.exact 2 1) 8 (Settings.admissible_exact zero_le_two 1) rfl
      Nat.one_pos MatrixProblem.weightSemidefinite_unit (by norm_num) before before rfl rfl
  exact ⟨report, final, report', final', solves, solves', scaled (ignores (.inr rfl))⟩

/-- Settings under which the size of a right-hand side decides whether it is solved or turned. -/
noncomputable def Settings.coarse : Settings ℝ :=
  { ridge := 0, absolute := 0, relative := 1 / 4, radius := 4, budget := 2, interval := 0
    keepsHistory := true }

theorem Settings.admissible_coarse : Settings.coarse.Admissible :=
  { ridge := le_rfl, absolute := le_rfl
    relative := one_div_nonneg.mpr zero_le_four, radius := zero_le_four }

theorem MatrixProblem.threshold_coarse : unit.threshold .coarse = 1 / 4 := by
  unfold threshold Settings.coarse
  rw [normalVector_unit, norm_rightHandSide_unit, zero_add, mul_one]

theorem MatrixProblem.solve_unit (admissible : settings.Admissible) (ridge : settings.ridge = 0)
    (short : unit.threshold settings < 1) (roomy : 0 < settings.radius → 1 < settings.radius)
    (budget : 0 < settings.budget) {before : MatrixState J ℝ 1 1}
    (free : before.workspace.busy = false) :
    ∃ report final,
      solve unit.toProblem settings neverExit before = (.ok report, final) ∧
        report.stats.status = .solved ∧ report.stats.iterations = 1 := by
  obtain ⟨opening, state, reached, starts⟩ := exists_opened unit settings neverExit Nat.one_pos
    admissible.ridge rightHandSide_unit_ne_zero free
  rw [← starts.iterations] at budget
  have goesOn : unit.GoesOn settings opening.course.iterations := by
    rw [starts.iterations]
    exact goesOn_unit ridge short roomy
  obtain ⟨iterating, progress, after, full⟩ := reached.full_neverExit admissible Nat.one_pos
    starts.underway starts.running goesOn
  have last := Reaches.iterated reached iterating budget full
  have underway : (opening.course.continued progress).Underway := starts.underway
  have optimality :=
    (last.stands admissible looks_neverExit Nat.one_pos underway).optimality_eq
  rw [ridge] at optimality
  change _ = ‖(unit.iterateAt 0 (opening.course.iterations + 1)).residual‖ at optimality
  rw [starts.iterations, residual_iterateAt_unit, norm_zero] at optimality
  have optimal : (opening.course.continued progress).isOptimal opening.threshold = true := by
    rw [Progress.isOptimal, le_real, optimality, starts.threshold]
    exact unit.threshold_nonneg admissible
  have ended := Course.isOver_of_optimality_le ((le_real _ _).mp optimal)
  obtain ⟨_, figures, solves⟩ := last.ends (.inl ended)
  obtain ⟨_, solved, _⟩ := Course.judged_solved settings underway rfl optimal
  refine ⟨_, _, solves, solved, ?_⟩
  change ((opening.course.iterations + 1 : ℕ) : ℤ) = 1
  rw [starts.iterations]
  rfl

namespace MatrixProblem

theorem norm_normalVector_unit_scaled : ‖(unit.scaled 8).normalVector‖ = 8 := by
  rw [normalVector_scaled, norm_ofReal_smul (by norm_num), normalVector_unit,
    norm_rightHandSide_unit, mul_one]

theorem threshold_unit_scaled : (unit.scaled 8).threshold (.scaled 8 .coarse) = 2 := by
  rw [threshold_scaled (by norm_num) rfl, threshold_coarse]
  norm_num

private theorem flat_unit_scaled {workspace : MatrixWorkspace ℝ 1 1}
    (place : workspace.At (unit.scaled 8) (.scaled 8 .coarse) 0) :
    workspace.Flat (.scaled 8 .coarse) 2 := by
  have carries := place.carries
  have direction : ‖((unit.scaled 8).iterateAt 0 0).direction‖ = 8 :=
    norm_normalVector_unit_scaled
  refine .inr ⟨?_, ?_⟩
  · change (0 : ℝ) < 8 * 4
    norm_num
  · rw [carries.directionImage, carries.normalImage, carries.direction]
    change ‖unit.forwardMap ((unit.scaled 8).iterateAt 0 0).direction‖ ^ 2 ≤
      2 * ‖unit.normalMap 0 ((unit.scaled 8).iterateAt 0 0).direction‖ *
        ‖((unit.scaled 8).iterateAt 0 0).direction‖
    rw [forwardMap_unit, normalMap_unit, direction]
    norm_num

end MatrixProblem

/-- One equation in one unknown, solved in one iteration, is taken to have no curvature when the
right-hand side and the radius are eight times as large. -/
theorem zeroCurvature_depends_on_units :
    let before : MatrixState Unit ℝ 1 1 := .ofWorkspace MatrixProblem.unit.ownWorkspace
    ∃ report final report' final',
      solve MatrixProblem.unit.toProblem .coarse neverExit before = (.ok report, final) ∧
        solve (MatrixProblem.unit.scaled 8).toProblem (.scaled 8 .coarse) neverExit before =
          (.ok report', final') ∧
        report.stats.status = .solved ∧ report.stats.iterations = 1 ∧
        report'.stats.status = .zeroCurvature ∧ report'.stats.iterations = 0 := by
  intro before
  have positive : (0 : ℝ) < 8 := by norm_num
  have free : before.workspace.busy = false := rfl
  have short : MatrixProblem.unit.threshold .coarse < 1 := by
    rw [MatrixProblem.threshold_coarse]
    norm_num
  have roomy : (1 : ℝ) < 4 := by norm_num
  obtain ⟨report, final, solves, solved, counted⟩ := MatrixProblem.solve_unit .coarse
    Settings.admissible_coarse rfl short (fun _ => roomy) two_pos free
  obtain ⟨opening, state, reached, starts⟩ := exists_opened (MatrixProblem.unit.scaled 8)
    (.scaled 8 .coarse) neverExit Nat.one_pos le_rfl
    (MatrixProblem.rightHandSide_scaled_ne_zero positive
      MatrixProblem.rightHandSide_unit_ne_zero) free
  have threshold := starts.threshold.trans MatrixProblem.threshold_unit_scaled
  have place := starts.stands.place
  rw [starts.iterations] at place
  have flat := MatrixProblem.flat_unit_scaled place
  rw [← threshold] at flat
  have iterating := starts.isOver_eq_false (by
    rw [MatrixProblem.norm_normalVector_unit_scaled, MatrixProblem.threshold_unit_scaled]
    norm_num)
  have budget : opening.course.iterations < (Settings.coarse.scaled 8).budget := by
    rw [starts.iterations]
    exact two_pos
  have semidefinite : (MatrixProblem.unit.scaled 8).WeightSemidefinite :=
    MatrixProblem.weightSemidefinite_unit
  obtain ⟨report', final', solves', status', iterations'⟩ := reached.ends_flat
    (Settings.admissible_coarse.scaled positive) semidefinite iterating budget flat
  refine ⟨report, final, report', final', solves, solves', solved, counted, status', ?_⟩
  rw [iterations', starts.iterations]
  rfl

end ConjugateResidual
