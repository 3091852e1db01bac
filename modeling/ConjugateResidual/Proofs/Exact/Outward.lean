import Mathlib
import ConjugateResidual.Proofs.Method.Outward
import ConjugateResidual.Proofs.Exact.Landing

/-!
A solve moves outward in exact arithmetic, with a positive semidefinite preconditioner: no iteration
makes the solution shorter, not even the last step, to the sphere or along the gradient. So none of
the iterates that a solve gives up when it stops on the sphere lies inside the ball.
-/

namespace ConjugateResidual

open Arithmetic Method

variable {𝕜 J : Type} [RCLike 𝕜] {rows columns : ℕ}
variable {problem : MatrixProblem 𝕜 rows columns} {settings : Settings ℝ}

namespace MatrixProblem

variable (semidefinite : problem.WeightSemidefinite) {ridge : ℝ} (nonneg : 0 ≤ ridge)
include semidefinite nonneg

private theorem Lands.norm_le {steps : ℕ} {point : EuclideanSpace 𝕜 (Fin columns)}
    (lands : problem.Lands ridge steps point) :
    ‖(problem.iterateAt ridge steps).solution‖ ≤ ‖point‖ :=
  Iterate.LeadsTo.norm_le (semidefinite.isPositive_normalMap nonneg)
    (semidefinite.consistent nonneg) lands

private theorem norm_iterateAt_monotone :
    Monotone fun steps => ‖(problem.iterateAt ridge steps).solution‖ :=
  norm_solution_monotone (semidefinite.isPositive_normalMap nonneg) (semidefinite.consistent nonneg)

end MatrixProblem

section Run

variable {observer : MatrixRun J 𝕜 rows columns Bool} {before state : MatrixState J 𝕜 rows columns}
variable {opening : Opening ℝ} {course : Course ℝ}
variable (admissible : settings.Admissible) (looks : Run.Looks observer)
  (semidefinite : problem.WeightSemidefinite)
include admissible looks semidefinite

theorem Reaches.norm_iterate_le
    (reached : Reaches problem.toProblem settings observer before opening course state)
    (iterating : course.isOver opening.threshold = false) :
    ‖state.workspace.solution‖ ≤
      ‖(iterate problem.toProblem settings observer opening.threshold course
        state).2.workspace.solution‖ := by
  have ready := reached.ready admissible looks semidefinite.weightNonneg iterating
  rw [ready.stands.place.carries.solution]
  exact (reached.lands_iterate admissible looks semidefinite iterating).norm_le semidefinite
    admissible.ridge

/-- Where a solve stops on the sphere, the method goes on outside the ball. -/
theorem Ending.radius_le (bounded : 0 < settings.radius)
    {result : Except (Fault ℝ) (Report ℝ) × MatrixState J 𝕜 rows columns}
    (ending : Ending problem.toProblem settings observer before result) {report : Report ℝ}
    (returned : result.1 = .ok report) (onBoundary : report.stats.status = .onBoundary) {steps : ℕ}
    (later : report.stats.iterations < steps) :
    settings.radius ≤ ‖(problem.iterateAt settings.ridge steps).solution‖ := by
  obtain ⟨opening, last, between, reached, iterating, count, _, crosses⟩ :=
    ending.crosses admissible looks bounded semidefinite.weightNonneg returned onBoundary
  have stands := (reached.ready admissible looks semidefinite.weightNonneg iterating).stands
  have beyond := crosses.beyond
  rw [stands.fullStep_eq] at beyond
  apply beyond.trans
  apply MatrixProblem.norm_iterateAt_monotone semidefinite admissible.ridge
  rw [count] at later
  exact Nat.succ_le_of_lt (Nat.cast_lt.mp later)

end Run

/-! ### What is shown -/

structure RunState.Outward
    (state : MatrixState (MatrixWorkspace 𝕜 rows columns) 𝕜 rows columns) : Prop where
  shown : state.journal.Pairwise fun earlier later => ‖earlier.solution‖ ≤ ‖later.solution‖
  present : ∀ earlier ∈ state.journal, ‖earlier.solution‖ ≤ ‖state.workspace.solution‖

variable {answer : List (MatrixWorkspace 𝕜 rows columns) → Except (Fault ℝ) Bool}
variable {before state after : MatrixState (MatrixWorkspace 𝕜 rows columns) 𝕜 rows columns}
variable {opening : Opening ℝ} {course : Course ℝ}

theorem RunState.outward_of_quiet (quiet : state.journal = []) : state.Outward := by
  constructor
  · rw [quiet]
    exact List.Pairwise.nil
  · rw [quiet]
    intro earlier member
    cases member

private theorem RunState.Outward.next (outward : state.Outward)
    (journal : after.journal = state.journal ∨ after.journal = state.journal ++ [after.workspace])
    (farther : ‖state.workspace.solution‖ ≤ ‖after.workspace.solution‖) : after.Outward := by
  have present : ∀ earlier ∈ state.journal, ‖earlier.solution‖ ≤ ‖after.workspace.solution‖ :=
    fun earlier member => (outward.present earlier member).trans farther
  rcases journal with unchanged | appended
  · constructor
    · rw [unchanged]
      exact outward.shown
    · rw [unchanged]
      exact present
  · constructor
    · rw [appended, List.pairwise_append]
      refine ⟨outward.shown, List.pairwise_singleton _ _, ?_⟩
      intro earlier member later last
      rw [List.mem_singleton.mp last]
      exact present earlier member
    · rw [appended]
      intro earlier member
      rcases List.mem_append.mp member with member | last
      · exact present earlier member
      · rw [List.mem_singleton.mp last]

/-- What has left a ball stays outside. -/
theorem RunState.Outward.stays (outward : state.Outward) {bound : ℝ} {index : ℕ}
    {shown : MatrixWorkspace 𝕜 rows columns} (found : state.journal[index]? = some shown)
    (beyond : bound ≤ ‖shown.solution‖) :
    (∀ (later : ℕ) (shown' : MatrixWorkspace 𝕜 rows columns), index ≤ later →
        state.journal[later]? = some shown' → bound ≤ ‖shown'.solution‖) ∧
      bound ≤ ‖state.workspace.solution‖ := by
  refine ⟨?_, beyond.trans (outward.present shown (List.mem_of_getElem? found))⟩
  intro later shown' after found'
  rcases after.eq_or_lt with same | before
  · rw [← same, found] at found'
    cases found'
    exact beyond
  · obtain ⟨_, rfl⟩ := List.getElem?_eq_some_iff.mp found
    obtain ⟨_, rfl⟩ := List.getElem?_eq_some_iff.mp found'
    exact beyond.trans (List.pairwise_iff_getElem.mp outward.shown _ _ _ _ before)

section Watched

variable (admissible : settings.Admissible) (semidefinite : problem.WeightSemidefinite)
include admissible semidefinite

theorem Reaches.outward_iterate
    (reached : Reaches problem.toProblem settings (watch answer) before opening course state)
    (iterating : course.isOver opening.threshold = false) (outward : state.Outward) :
    (iterate problem.toProblem settings (watch answer) opening.threshold course
      state).2.Outward :=
  outward.next (reached.moves admissible iterating).journal
    (reached.norm_iterate_le admissible (looks_watch answer) semidefinite iterating)

theorem Reaches.outward (quiet : before.journal = [])
    (reached : Reaches problem.toProblem settings (watch answer) before opening course state) :
    state.Outward := by
  induction reached with
  | opened free announced nonzero opens =>
      have journal := openCourse_journal admissible announced
      rw [opens] at journal
      exact RunState.outward_of_quiet (journal.trans quiet)
  | iterated reached iterating budget ran ih =>
      have outward := reached.outward_iterate admissible semidefinite iterating ih
      rw [ran] at outward
      exact outward

theorem Ending.outward (quiet : before.journal = [])
    {result : Except (Fault ℝ) (Report ℝ) ×
      MatrixState (MatrixWorkspace 𝕜 rows columns) 𝕜 rows columns}
    (ending : Ending problem.toProblem settings (watch answer) before result) :
    result.2.Outward := by
  cases ending with
  | refused busy => exact RunState.outward_of_quiet quiet
  | zero announced zero answered =>
      obtain ⟨rfl, printed, rfl⟩ := of_announce_eq announced
      rw [solveZero_apply] at answered
      cases answered
      exact RunState.outward_of_quiet quiet
  | unopened announced nonzero failed =>
      have journal := openCourse_journal admissible announced
      rw [failed] at journal
      exact RunState.outward_of_quiet (journal.trans quiet)
  | interrupted reached iterating budget failed =>
      have outward := reached.outward_iterate admissible semidefinite iterating
        (reached.outward admissible semidefinite quiet)
      rw [failed] at outward
      exact { outward with }
  | finished reached ended closed =>
      obtain ⟨printed, figures, rfl, rfl⟩ := of_closeCourse_eq closed
      exact { reached.outward admissible semidefinite quiet with }

end Watched

variable (problem settings)

/-- With a positive semidefinite preconditioner, whatever the ridge, the radius, the tolerances, the
budget and the observer: the solutions that are shown never get shorter, nor does the one that is
left at the end, and no iteration makes the solution shorter, be its step full, clipped or along the
gradient. So a solution that is shown outside a ball is followed by none inside, and a solve loses
nothing when it stops on the sphere: with any other stopping rules, and without a trust region, all
that is shown from there on is at least as long as the radius. -/
theorem solve_moves_outward (admissible : settings.Admissible)
    (semidefinite : problem.WeightSemidefinite)
    (answer : List (MatrixWorkspace 𝕜 rows columns) → Except (Fault ℝ) Bool)
    (workspace : MatrixWorkspace 𝕜 rows columns) :
    let before : MatrixState (MatrixWorkspace 𝕜 rows columns) 𝕜 rows columns :=
      .ofWorkspace workspace
    let result := solve problem.toProblem settings (watch answer) before
    result.2.Outward ∧
      (∀ opening course state,
        Reaches problem.toProblem settings (watch answer) before opening course state →
          course.isOver opening.threshold = false →
          ‖state.workspace.solution‖ ≤
            ‖(iterate problem.toProblem settings (watch answer) opening.threshold course
              state).2.workspace.solution‖) ∧
      (∀ (bound : ℝ) (index : ℕ) (shown : MatrixWorkspace 𝕜 rows columns),
        result.2.journal[index]? = some shown → bound ≤ ‖shown.solution‖ →
          (∀ (later : ℕ) (shown' : MatrixWorkspace 𝕜 rows columns), index ≤ later →
              result.2.journal[later]? = some shown' → bound ≤ ‖shown'.solution‖) ∧
            bound ≤ ‖result.2.workspace.solution‖) ∧
      ∀ report, result.1 = .ok report → report.stats.status = .onBoundary → 0 < settings.radius →
        ∀ (settings' : Settings ℝ), settings'.Admissible → settings'.ridge = settings.ridge →
          ∀ (answer' : List (MatrixWorkspace 𝕜 rows columns) → Except (Fault ℝ) Bool)
            (workspace' : MatrixWorkspace 𝕜 rows columns) (index : ℕ)
            (shown : MatrixWorkspace 𝕜 rows columns),
            (solve problem.toProblem settings' (watch answer')
                (.ofWorkspace workspace')).2.journal[index]? = some shown →
              report.stats.iterations ≤ index → settings.radius ≤ ‖shown.solution‖ := by
  intro before result
  have looks := looks_watch answer
  have ending := solve_ends problem.toProblem settings (watch answer) before
  have outward := ending.outward admissible semidefinite rfl
  refine ⟨outward, ?_, ?_, ?_⟩
  · intro opening course state reached iterating
    exact reached.norm_iterate_le admissible looks semidefinite iterating
  · intro bound index shown found beyond
    exact outward.stays found beyond
  · intro report returned onBoundary bounded settings' admissible' ridge answer' workspace' index
      shown found later
    have place := (seen_solve admissible' workspace' index shown found).place admissible'
      (looks_watch answer')
    rw [place.carries.solution, ridge]
    exact ending.radius_le admissible looks semidefinite bounded returned onBoundary (by omega)

/-- The second step ends on the sphere, no nearer than the first one did; without a trust region the
same step goes at least as far as the sphere. -/
theorem solve_moves_outward_pair :
    ∃ report final,
      solve MatrixProblem.pair.toProblem (.exact 2 2) (watch fun _ => .ok false)
          (.ofWorkspace MatrixProblem.pair.ownWorkspace) = (.ok report, final) ∧
        (∃ shown, final.journal[0]? = some shown ∧
          ‖shown.solution‖ ≤ ‖final.workspace.solution‖) ∧
        ∃ shown,
          (solve MatrixProblem.pair.toProblem (.exact 0 2) (watch fun _ => .ok false)
              (.ofWorkspace MatrixProblem.pair.ownWorkspace)).2.journal[1]? = some shown ∧
            2 ≤ ‖shown.solution‖ := by
  obtain ⟨report, final, -, -, -, solves, status, count, -, -, -, -, length, -⟩ :=
    MatrixProblem.exists_crossing_pair
  obtain ⟨-, -, stays, crosses⟩ := solve_moves_outward MatrixProblem.pair (.exact 2 2)
    (Settings.admissible_exact zero_le_two 2) MatrixProblem.weightSemidefinite_pair
    (fun _ => .ok false) MatrixProblem.pair.ownWorkspace
  rw [solves] at stays crosses
  have first : 0 < final.journal.length := by omega
  obtain ⟨second, found⟩ := MatrixProblem.shows_pair
  refine ⟨report, final, solves, ⟨final.journal[0], List.getElem?_eq_getElem first, ?_⟩, second,
    found, ?_⟩
  · exact (stays _ 0 _ (List.getElem?_eq_getElem first) le_rfl).2
  · exact crosses report rfl status two_pos (.exact 0 2) (Settings.admissible_exact le_rfl 2) rfl
      (fun _ => .ok false) MatrixProblem.pair.ownWorkspace 1 second found count.le

end ConjugateResidual
