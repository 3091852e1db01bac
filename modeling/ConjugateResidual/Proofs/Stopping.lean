import Mathlib
import ConjugateResidual.Proofs.Course.Trajectory
import ConjugateResidual.Proofs.Exact.FullSteps

/-!
What the settings other than the ridge decide, in any arithmetic: where a solve stops, and nothing
else. Everything that a solve shows belongs to the sequence of its problem.
-/

namespace ConjugateResidual

open Arithmetic

variable {J R X Y : Type} [Arithmetic R] [VectorArithmetic R X] [VectorArithmetic R Y]
variable {shows : J → Option (Workspace R X Y)} {problem : Problem J R X Y} {ridge : R} {start : X}
variable {settings : Settings R} {observer : Run J R X Y Bool} {before : RunState J R X Y}

variable (silent : problem.ShowsNothing shows)
  (watchable : Watchable shows start observer before)
include silent watchable

section Ends

variable {result : Except (Fault R) (Report R) × RunState J R X Y}
  (ending : Ending problem settings observer before result)
include ending

theorem Ending.unbroken : ∃ count, Shows shows problem start settings count result.2 := by
  have begun : ∀ journal : List J, journal.filterMap shows = [] → ∀ printed workspace,
      Shows shows problem start settings 0 { printed, journal, workspace } := by
    intro journal unseen printed workspace
    constructor
    · change Seen _ (journal.filterMap shows)
      rw [unseen]
      exact seen_nil
    · change (journal.filterMap shows).length = 0
      rw [unseen]
      rfl
  cases ending with
  | refused busy => exact ⟨0, begun _ watchable.quiet _ _⟩
  | zero announced zero answered =>
      obtain ⟨rfl, printed, rfl⟩ := of_announce_eq announced
      rw [solveZero_apply] at answered
      cases answered
      exact ⟨0, begun _ watchable.quiet _ _⟩
  | @unopened norm entered after fault announced nonzero failed =>
      obtain ⟨shown, _⟩ := watchable.gathers silent announced
      cases gathered : gather problem settings norm entered with
      | mk outcome between =>
          rw [gathered] at shown
          cases outcome with
          | error fault =>
              rw [openCourse_of_gather_error problem settings gathered] at failed
              cases failed
              exact ⟨0, { shown with }⟩
          | ok progress =>
              obtain ⟨printed, opened⟩ := openCourse_of_gather_ok problem settings gathered
              rw [opened] at failed
              cases failed
  | @interrupted opening _ _ _ _ reached iterating budget failed =>
      have tracks := reached.tracks silent watchable
      have stride := iterate_strides observer silent
        (tracks.tracked (Course.underway_of_open iterating)) opening.threshold
      obtain ⟨count, shown⟩ := stride.unbroken watchable.watches tracks
      rw [failed] at shown
      exact ⟨count, { shown with }⟩
  | finished reached ended closed =>
      obtain ⟨printed, figures, rfl, rfl⟩ := of_closeCourse_eq closed
      exact ⟨_, { (reached.tracks silent watchable).shown with }⟩

/-- After full steps only, the solution that is returned is the one at its place in the sequence. -/
theorem Ending.solution_eq {report : Report R} (returned : result.1 = .ok report)
    (inside : report.stats.status ≠ .onBoundary)
    (curved : report.stats.status ≠ .zeroCurvature) :
    if isZero (VectorArithmetic.norm problem.rightHandSide : R) then
      result.2.workspace.solution = start
    else
      ∃ steps : Nat, report.stats.iterations = steps ∧
        ∃ progress vectors,
          trajectory problem settings.ridge start steps = .ok (progress, vectors) ∧
            result.2.workspace.solution = vectors.solution := by
  cases ending with
  | refused busy => cases returned
  | zero announced zero answered =>
      obtain ⟨rfl, printed, rfl⟩ := of_announce_eq announced
      rw [if_pos zero]
      rw [solveZero_apply] at answered
      cases answered
      exact watchable.cleared
  | unopened announced nonzero failed => cases returned
  | interrupted reached iterating budget failed => cases returned
  | @finished opening course state _ _ reached ended closed =>
      obtain ⟨printed, figures, rfl, rfl⟩ := of_closeCourse_eq closed
      cases returned
      have tracks := reached.tracks silent watchable
      have underway : course.Underway :=
        Course.underway_of_status tracks.exits inside curved
      rw [reached.nonzero]
      exact ⟨course.iterations, rfl, _, _, tracks.tracked underway, rfl⟩

end Ends

omit silent watchable

def Workspace.marks (workspace : Workspace R X Y) : Vectors X Y × Option R × Option R :=
  (workspace.vectors, workspace.recorder.residuals.getLast?,
    workspace.recorder.optimalities.getLast?)

/-- Lists whose items are determined by their places are prefixes of each other. -/
private theorem prefix_of_places {B C : Type} {items items' : List B} (view : B → C)
    (place : Nat → Option C)
    (places : ∀ index item, items[index]? = some item → place index = some (view item))
    (places' : ∀ index item, items'[index]? = some item → place index = some (view item))
    (shorter : items.length ≤ items'.length) : items.map view <+: items'.map view := by
  rw [List.prefix_iff_getElem?]
  intro index within
  rw [List.length_map] at within
  have found := places index items[index] (List.getElem?_eq_getElem within)
  have found' := places' index items'[index] (List.getElem?_eq_getElem (by omega))
  rw [found] at found'
  rw [List.getElem?_map, List.getElem?_eq_getElem (by omega), List.getElem_map]
  exact found'.symm

section Pairs

variable {settings' : Settings R} {state state' : RunState J R X Y} {count count' : Nat}
variable (sameRidge : settings'.ridge = settings.ridge)
  (shown : Shows shows problem start settings count state)
  (shown' : Shows shows problem start settings' count' state')
  (shorter : (state.journal.filterMap shows).length ≤ (state'.journal.filterMap shows).length)
include sameRidge shown shown' shorter

private theorem Shows.vectors_prefix :
    (state.journal.filterMap shows).map Workspace.vectors <+:
      (state'.journal.filterMap shows).map Workspace.vectors := by
  let place (index : Nat) : Option (Vectors X Y) :=
    (trajectory problem settings.ridge start (index + 1)).toOption.map Prod.snd
  apply prefix_of_places Workspace.vectors place _ _ shorter
  · intro index workspace found
    obtain ⟨progress, tracked, _⟩ := shown.seen index workspace found
    simp only [place, tracked, Except.toOption, Option.map_some]
  · intro index workspace found
    obtain ⟨progress, tracked, _⟩ := shown'.seen index workspace found
    rw [sameRidge] at tracked
    simp only [place, tracked, Except.toOption, Option.map_some]

private theorem Shows.marks_prefix (keeps : settings.keepsHistory = true)
    (keeps' : settings'.keepsHistory = true) :
    (state.journal.filterMap shows).map Workspace.marks <+:
      (state'.journal.filterMap shows).map Workspace.marks := by
  let place (index : Nat) : Option (Vectors X Y × Option R × Option R) :=
    (trajectory problem settings.ridge start (index + 1)).toOption.map
      fun (progress, vectors) => (vectors, some progress.residual, some progress.optimality)
  apply prefix_of_places Workspace.marks place _ _ shorter
  · intro index workspace found
    obtain ⟨progress, tracked, records⟩ := shown.seen index workspace found
    simp only [place, tracked, Except.toOption, Option.map_some, Workspace.marks, records keeps]
  · intro index workspace found
    obtain ⟨progress, tracked, records⟩ := shown'.seen index workspace found
    rw [sameRidge] at tracked
    simp only [place, tracked, Except.toOption, Option.map_some, Workspace.marks, records keeps']

end Pairs

/-- Two solves that end after the same number of full steps return the same solution. -/
theorem Ending.solutions_eq {settings' : Settings R} {observer' : Run J R X Y Bool}
    {before' : RunState J R X Y} {result result' : Except (Fault R) (Report R) × RunState J R X Y}
    (silent : problem.ShowsNothing shows) (sameRidge : settings'.ridge = settings.ridge)
    (watchable : Watchable shows start observer before)
    (watchable' : Watchable shows start observer' before')
    (ending : Ending problem settings observer before result)
    (ending' : Ending problem settings' observer' before' result') {report report' : Report R}
    (returned : result.1 = .ok report) (returned' : result'.1 = .ok report')
    (sameCount : report.stats.iterations = report'.stats.iterations)
    (inside : report.stats.status ≠ .onBoundary) (curved : report.stats.status ≠ .zeroCurvature)
    (inside' : report'.stats.status ≠ .onBoundary)
    (curved' : report'.stats.status ≠ .zeroCurvature) :
    result.2.workspace.solution = result'.2.workspace.solution := by
  have solution := ending.solution_eq silent watchable returned inside curved
  have solution' := ending'.solution_eq silent watchable' returned' inside' curved'
  cases zero : isZero (VectorArithmetic.norm problem.rightHandSide : R) with
  | true =>
      rw [if_pos zero] at solution solution'
      exact solution.trans solution'.symm
  | false =>
      rw [zero, if_neg Bool.false_ne_true] at solution solution'
      obtain ⟨steps, counted, _, vectors, tracked, last⟩ := solution
      obtain ⟨steps', counted', _, vectors', tracked', last'⟩ := solution'
      have same : steps' = steps := by
        rw [counted, counted'] at sameCount
        exact (Int.natCast_inj.mp sameCount).symm
      rw [same, sameRidge, tracked] at tracked'
      cases tracked'
      exact last.trans last'.symm

variable (shows problem ridge start)

/-- One sequence, given by the problem, the ridge and the cleared solution, holds all that solves of
the problem show, whatever their other settings, their observers and their ends. The solve that shows
less shows a beginning of what the other one shows, and two solves with the same number of iterations
that do not end at the sphere or for lack of curvature return the same solution. -/
theorem solves_follow_trajectory (silent : problem.ShowsNothing shows) (settings : Settings R)
    (sameRidge : settings.ridge = ridge) (observer : Run J R X Y Bool)
    (before : RunState J R X Y) (watchable : Watchable shows start observer before) :
    let result := solve problem settings observer before
    let seen := result.2.journal.filterMap shows
    (∀ index shown, seen[index]? = some shown →
        ∃ progress, trajectory problem ridge start (index + 1) = .ok (progress, shown.vectors) ∧
          (settings.keepsHistory = true →
            shown.recorder.residuals.getLast? = some progress.residual ∧
              shown.recorder.optimalities.getLast? = some progress.optimality)) ∧
      ∀ (settings' : Settings R) (observer' : Run J R X Y Bool) (before' : RunState J R X Y),
        settings'.ridge = ridge → Watchable shows start observer' before' →
        let result' := solve problem settings' observer' before'
        let seen' := result'.2.journal.filterMap shows
        (seen.length ≤ seen'.length →
          seen.map Workspace.vectors <+: seen'.map Workspace.vectors ∧
            (settings.keepsHistory = true → settings'.keepsHistory = true →
              seen.map Workspace.marks <+: seen'.map Workspace.marks)) ∧
          ∀ report report', result.1 = .ok report → result'.1 = .ok report' →
            report.stats.iterations = report'.stats.iterations →
            report.stats.status ≠ .onBoundary → report.stats.status ≠ .zeroCurvature →
            report'.stats.status ≠ .onBoundary → report'.stats.status ≠ .zeroCurvature →
            result.2.workspace.solution = result'.2.workspace.solution := by
  intro result seen
  subst sameRidge
  have ending := solve_ends problem settings observer before
  obtain ⟨_, shown⟩ := ending.unbroken silent watchable
  refine ⟨shown.seen, ?_⟩
  intro settings' observer' before' sameRidge' watchable' result' seen'
  have ending' := solve_ends problem settings' observer' before'
  obtain ⟨_, shown'⟩ := ending'.unbroken silent watchable'
  refine ⟨fun shorter => ?_, ?_⟩
  · exact ⟨Shows.vectors_prefix sameRidge' shown shown' shorter,
      Shows.marks_prefix sameRidge' shown shown' shorter⟩
  · intro report report' returned returned' sameCount inside curved inside' curved'
    exact ending.solutions_eq silent sameRidge' watchable watchable' ending' returned returned'
      sameCount inside curved inside' curved'

/-! ### One equation in one unknown -/

private theorem MatrixProblem.showsNothing_unit :
    (unit.toProblem (J := MatrixWorkspace ℝ 1 1)).ShowsNothing some := by
  refine { forward := fun _ => rfl, adjoint := fun _ => rfl, weight := ?_ }
  intro weight present vector
  cases present
  rfl

private theorem watchable_unit (answer : List (MatrixWorkspace ℝ 1 1) → Except (Fault ℝ) Bool) :
    Watchable some 0 (watch answer) (.ofWorkspace MatrixProblem.unit.ownWorkspace) := by
  refine
    { watches := { looks := looks_watch answer, shows := ?_ }
      free := rfl, cleared := rfl, quiet := rfl }
  intro state
  rw [List.filterMap_some, List.filterMap_some]
  rfl

theorem solves_follow_trajectory_unit :
    let result := solve MatrixProblem.unit.toProblem (.exact 2 1) (watch fun _ => .ok false)
      (.ofWorkspace MatrixProblem.unit.ownWorkspace)
    let result' := solve MatrixProblem.unit.toProblem (.exact 0 1) (watch fun _ => .ok false)
      (.ofWorkspace MatrixProblem.unit.ownWorkspace)
    ∃ shown progress, result.2.journal[0]? = some shown ∧
      trajectory (MatrixProblem.unit.toProblem (J := MatrixWorkspace ℝ 1 1)) 0 0 1 =
        .ok (progress, shown.vectors) ∧
      (result.2.journal.length ≤ result'.2.journal.length →
        result.2.journal.map Workspace.vectors <+: result'.2.journal.map Workspace.vectors) := by
  obtain ⟨places, pairs⟩ := solves_follow_trajectory some MatrixProblem.unit.toProblem 0 0
    MatrixProblem.showsNothing_unit (.exact 2 1) rfl (watch fun _ => .ok false) _
    (watchable_unit _)
  obtain ⟨shown, found⟩ := MatrixProblem.shows_unit 2 zero_le_two (fun _ => one_lt_two)
    fun _ => .ok false
  simp only [List.filterMap_some] at places pairs
  obtain ⟨progress, tracked, _⟩ := places 0 shown found
  refine ⟨shown, progress, found, tracked, fun shorter => ?_⟩
  exact ((pairs (.exact 0 1) _ _ rfl (watchable_unit _)).1 shorter).1

end ConjugateResidual
