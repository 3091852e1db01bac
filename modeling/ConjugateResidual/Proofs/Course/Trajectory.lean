import ConjugateResidual.Proofs.Course.Attempt

/-!
The one sequence behind all solves of a problem, in any arithmetic. Tolerances, radius, budget,
printing, histories and observers decide where a solve stops, but take no part in an advance: what a
solve shows is the beginning of a sequence that only the problem and the ridge determine.
-/

namespace ConjugateResidual

open Arithmetic

variable {J R X Y A : Type}

/-! ### Runs on vectors alone -/

def Vectors.blank (solution : X) (residual : Y) : Vectors X Y :=
  { solution, gradient := solution, direction := solution, normalImage := solution
    residual, directionImage := residual, gradientImage := residual }

def Vectors.workspace (vectors : Vectors X Y) : Workspace R X Y :=
  { rows := 0, columns := 0, field := .real .double
    solution := vectors.solution, gradient := vectors.gradient
    direction := vectors.direction, normalImage := vectors.normalImage
    residual := vectors.residual, directionImage := vectors.directionImage
    gradientImage := vectors.gradientImage
    weighted? := none, recorder := .cleared false, busy := true }

def Run.onVectors (run : Run J R X Y A) (vectors : Vectors X Y) :
    Except (Fault R) (A × Vectors X Y) :=
  let (outcome, after) := run (.ofWorkspace vectors.workspace)
  outcome.map (·, after.vectors)

variable (shows : J → Option (Workspace R X Y))

structure Problem.ShowsNothing (problem : Problem J R X Y) : Prop where
  forward : ∀ vector, (problem.forward vector).journal.filterMap shows = []
  adjoint : ∀ vector, (problem.adjoint vector).journal.filterMap shows = []
  weight : ∀ weight ∈ problem.weight?, ∀ vector,
    (weight.apply vector).journal.filterMap shows = []

structure Run.Watches (observer : Run J R X Y Bool) : Prop where
  looks : Run.Looks observer
  shows : ∀ state, (observer state).2.journal.filterMap shows =
    state.journal.filterMap shows ++ [state.workspace]

structure Surroundings.Unseen (begun around : Surroundings J R) : Prop where
  journal : around.journal.filterMap shows = begun.journal.filterMap shows
  recorder : around.recorder = begun.recorder

variable {shows} {problem : Problem J R X Y}

theorem Problem.ShowsNothing.tolerated (silent : problem.ShowsNothing shows)
    (begun : Surroundings J R) :
    problem.Tolerated fun around _ => Surroundings.Unseen shows begun around := by
  have tolerates : ∀ notes : List J, notes.filterMap shows = [] →
      Tolerates (fun around _ => Surroundings.Unseen shows begun around) notes := by
    intro notes shownless around _ unseen
    refine { journal := ?_, recorder := unseen.recorder }
    change (around.journal ++ notes).filterMap shows = _
    rw [List.filterMap_append, shownless, List.append_nil]
    exact unseen.journal
  exact
    { forward := fun vector => tolerates _ (silent.forward vector)
      adjoint := fun vector => tolerates _ (silent.adjoint vector)
      weight := fun weight present vector => tolerates _ (silent.weight weight present vector) }

/-- A run that depends on the vectors alone does to them what it does when nothing else is there. -/
theorem Run.onVectors_eq {run : Run J R X Y A} {pre : Vectors X Y → Vectors X Y → Prop}
    (state : RunState J R X Y) (vectors : Vectors X Y)
    (coupled : Run.Coupled (fun around _ => Surroundings.Unseen shows state.surroundings around)
      pre run run Eq)
    (starts : pre state.vectors vectors) :
    Surroundings.Unseen shows state.surroundings (run state).2.surroundings ∧
      run.onVectors vectors = (run state).1.map (·, (run state).2.vectors) := by
  have twins := coupled state (.ofWorkspace vectors.workspace) { journal := rfl, recorder := rfl }
    starts
  unfold Run.onVectors
  generalize run (.ofWorkspace vectors.workspace) = alone at twins ⊢
  generalize run state = result at twins ⊢
  cases twins with
  | failed unseen => exact ⟨unseen, rfl⟩
  | returned unseen same =>
      rw [same]
      exact ⟨unseen, rfl⟩

/-! ### The sequence -/

variable [Arithmetic R]

def Settings.bare (ridge : R) : Settings R :=
  { ridge, absolute := 0, relative := 0, radius := 0, budget := 0, interval := 0
    keepsHistory := false }

variable [VectorArithmetic R X] [VectorArithmetic R Y]
variable (problem) (ridge : R) (start : X)

/-- The launch followed by one advance after another, for as long as they succeed. -/
def trajectory : Nat → Except (Fault R) (Progress R × Vectors X Y)
  | 0 =>
      (gather problem (.bare ridge) (VectorArithmetic.norm problem.rightHandSide)).onVectors
        (.blank start problem.rightHandSide)
  | steps + 1 =>
      match trajectory steps with
      | .error fault => .error fault
      | .ok (progress, vectors) =>
          (advance problem (.bare ridge) progress.curvature).onVectors vectors

variable (settings : Settings R)

def Workspace.Passes (steps : Nat) (workspace : Workspace R X Y) : Prop :=
  ∃ progress, trajectory problem settings.ridge start steps = .ok (progress, workspace.vectors) ∧
    (settings.keepsHistory = true →
      workspace.recorder.residuals.getLast? = some progress.residual ∧
        workspace.recorder.optimalities.getLast? = some progress.optimality)

variable {problem start settings} {observer : Run J R X Y Bool}

private theorem Workspace.passes_completed {steps : Nat} {progress : Progress R}
    {workspace : Workspace R X Y} (iterations : Nat)
    (keeps : workspace.recorder.keepsHistory = settings.keepsHistory)
    (tracked :
      trajectory problem settings.ridge start steps = .ok (progress, workspace.vectors)) :
    (workspace.completed iterations progress).Passes problem start settings steps := by
  refine ⟨progress, tracked, ?_⟩
  intro kept
  rw [kept] at keeps
  unfold Workspace.completed Recorder.recordOptimality Recorder.recordResidual
  simp [keeps]

/-! ### One iteration -/

variable (problem start settings observer shows) in
inductive Stride (course : Course R) (state : RunState J R X Y) :
    Except (Fault R) (Course R) × RunState J R X Y → Prop where
  | stopped {outcome : Except (Fault R) (Course R)} {after : RunState J R X Y}
      (unseen : Surroundings.Unseen shows state.surroundings after.surroundings)
      (ended : ∀ next, outcome = .ok next →
        next.iterations = course.iterations ∧ next.exited = course.exited ∧ ¬ next.Underway) :
      Stride course state (outcome, after)
  | completed {progress : Progress R} {between : RunState J R X Y}
      (unseen : Surroundings.Unseen shows state.surroundings between.surroundings)
      (tracked : trajectory problem settings.ridge start (course.iterations + 1) =
        .ok (progress, between.vectors)) :
      Stride course state (course.completed settings observer progress between)

variable (observer) in
theorem iterate_strides (silent : problem.ShowsNothing shows) {course : Course R}
    {state : RunState J R X Y}
    (tracked : trajectory problem settings.ridge start course.iterations =
      .ok (course.toProgress, state.vectors)) (threshold : R) :
    Stride shows problem start settings observer course state
      (iterate problem settings observer threshold course state) := by
  have tolerated := silent.tolerated state.surroundings
  obtain ⟨unseen, _⟩ :=
    Run.onVectors_eq state state.vectors (attempt_coupled settings tolerated threshold course) rfl
  rw [iterate_eq, Run.bind_apply]
  cases ran : attempt problem settings threshold course state with
  | mk outcome after =>
      rw [ran] at unseen
      match outcome with
      | .error fault => exact .stopped unseen fun next found => by cases found
      | .ok (.inl next) =>
          refine .stopped unseen ?_
          intro other found
          cases found
          exact attempt_ended ran
      | .ok (.inr progress) =>
          refine .completed unseen ?_
          obtain ⟨_, alone⟩ := Run.onVectors_eq state state.vectors
            (advance_coupled settings tolerated course.curvature) rfl
          rw [attempt_progressed ran] at alone
          unfold trajectory
          rw [tracked]
          exact alone

/-! ### A whole solve -/

variable (shows problem start settings) in
structure Shows (count : Nat) (state : RunState J R X Y) : Prop where
  seen : Seen (Workspace.Passes problem start settings) (state.journal.filterMap shows)
  count : (state.journal.filterMap shows).length = count

theorem Shows.unseen {count : Nat} {state after : RunState J R X Y}
    (shown : Shows shows problem start settings count state)
    (unseen : Surroundings.Unseen shows state.surroundings after.surroundings) :
    Shows shows problem start settings count after := by
  have journal : after.journal.filterMap shows = state.journal.filterMap shows := unseen.journal
  constructor
  · rw [journal]
    exact shown.seen
  · rw [journal]
    exact shown.count

variable (shows problem start settings) in
structure Tracks (course : Course R) (state : RunState J R X Y) : Prop where
  shown : Shows shows problem start settings course.iterations state
  keeps : state.workspace.recorder.keepsHistory = settings.keepsHistory
  exits : course.exited = true → course.Underway
  tracked : course.Underway →
    trajectory problem settings.ridge start course.iterations =
      .ok (course.toProgress, state.vectors)

section Watched

variable (watches : Run.Watches shows observer)
include watches

/-- A completed iteration shows its workspace, whatever the observer answers. -/
theorem Shows.completed {course : Course R} {between : RunState J R X Y}
    (shown : Shows shows problem start settings course.iterations between)
    (keeps : between.workspace.recorder.keepsHistory = settings.keepsHistory)
    {progress : Progress R}
    (tracked : trajectory problem settings.ridge start (course.iterations + 1) =
      .ok (progress, between.vectors)) :
    Shows shows problem start settings (course.iterations + 1)
      (course.completed settings observer progress between).2 := by
  obtain ⟨printed, asks⟩ := course.completed_apply settings observer progress between
  have journal : ((course.completed settings observer progress between).2.journal.filterMap
      shows) = between.journal.filterMap shows ++
        [between.workspace.completed (course.iterations + 1) progress] := by
    rw [asks]
    exact watches.shows _
  constructor
  · rw [journal]
    refine shown.seen.snoc ?_
    rw [shown.count]
    exact Workspace.passes_completed _ keeps tracked
  · rw [journal, List.length_append, shown.count, List.length_singleton]

theorem Stride.unbroken {course : Course R} {state : RunState J R X Y}
    (tracks : Tracks shows problem start settings course state)
    {result : Except (Fault R) (Course R) × RunState J R X Y}
    (stride : Stride shows problem start settings observer course state result) :
    ∃ count, Shows shows problem start settings count result.2 := by
  cases stride with
  | stopped unseen ended => exact ⟨_, tracks.shown.unseen unseen⟩
  | completed unseen tracked =>
      exact ⟨_, (tracks.shown.unseen unseen).completed watches
        ((congrArg Recorder.keepsHistory unseen.recorder).trans tracks.keeps) tracked⟩

private theorem Stride.tracks {course next : Course R} {state after : RunState J R X Y}
    (tracks : Tracks shows problem start settings course state) (underway : course.Underway)
    (running : course.exited = false)
    {result : Except (Fault R) (Course R) × RunState J R X Y}
    (stride : Stride shows problem start settings observer course state result)
    (same : result = (.ok next, after)) : Tracks shows problem start settings next after := by
  cases stride with
  | stopped unseen ended =>
      cases same
      obtain ⟨count, exited, last⟩ := ended next rfl
      refine
        { shown := ?_
          keeps := (congrArg Recorder.keepsHistory unseen.recorder).trans tracks.keeps
          exits := fun exits => ?_
          tracked := fun underway => absurd underway last }
      · rw [count]
        exact tracks.shown.unseen unseen
      · rw [exited, running] at exits
        cases exits
  | @completed progress between unseen tracked =>
      have keeps := (congrArg Recorder.keepsHistory unseen.recorder).trans tracks.keeps
      have shown := (tracks.shown.unseen unseen).completed watches keeps tracked
      have workspace := course.workspace_completed settings watches.looks progress between
      rw [same] at shown workspace
      obtain ⟨exited, counted⟩ := Course.of_completed_eq_ok same
      rw [counted]
      refine { shown, keeps := ?_, exits := fun _ => underway, tracked := fun _ => ?_ }
      · rw [workspace, Workspace.keepsHistory_completed]
        exact keeps
      · unfold RunState.vectors
        rw [workspace]
        exact tracked

end Watched

variable (shows start observer) in
/-- A solve that can be watched: on a free workspace with a solution that is cleared to the start,
and with nothing shown so far. -/
structure Watchable (before : RunState J R X Y) : Prop where
  watches : Run.Watches shows observer
  free : before.workspace.busy = false
  cleared : VectorArithmetic.cleared before.workspace.solution = start
  quiet : before.journal.filterMap shows = []

variable {before : RunState J R X Y} (silent : problem.ShowsNothing shows)
  (watchable : Watchable shows start observer before)
include silent watchable

theorem Watchable.gathers {norm : R} {entered : RunState J R X Y}
    (announced : announce problem settings before.held = (.ok norm, entered)) :
    Shows shows problem start settings 0 (gather problem settings norm entered).2 ∧
      ∀ progress between, gather problem settings norm entered = (.ok progress, between) →
        trajectory problem settings.ridge start 0 = .ok (progress, between.vectors) ∧
          between.workspace.recorder.keepsHistory = settings.keepsHistory := by
  obtain ⟨rfl, printed, rfl⟩ := of_announce_eq announced
  let entered : RunState J R X Y :=
    { before.held with printed, workspace := problem.prepared settings before.held.workspace }
  obtain ⟨unseen, alone⟩ := Run.onVectors_eq entered (.blank start problem.rightHandSide)
    (gather_coupled settings (silent.tolerated entered.surroundings)
      (VectorArithmetic.norm problem.rightHandSide))
    { solution := watchable.cleared.symm, residual := rfl }
  have opened : Shows shows problem start settings 0 entered := by
    have journal : entered.journal.filterMap shows = [] := watchable.quiet
    constructor
    · rw [journal]
      exact seen_nil
    · rw [journal]
      rfl
  refine ⟨opened.unseen unseen, ?_⟩
  intro progress between gathered
  rw [gathered] at alone unseen
  refine ⟨alone, ?_⟩
  have recorder : between.workspace.recorder = entered.workspace.recorder := unseen.recorder
  rw [recorder]
  exact Recorder.keepsHistory_recordResidual _ _

theorem Reaches.tracks {opening : Opening R} {course : Course R} {state : RunState J R X Y}
    (reached : Reaches problem settings observer before opening course state) :
    Tracks shows problem start settings course state := by
  induction reached with
  | @opened norm entered state free announced nonzero opens =>
      obtain ⟨shown, starts⟩ := watchable.gathers silent announced
      cases gathered : gather problem settings norm entered with
      | mk outcome between =>
          rw [gathered] at shown
          cases outcome with
          | error fault =>
              rw [openCourse_of_gather_error problem settings gathered] at opens
              cases opens
          | ok progress =>
              obtain ⟨tracked, keeps⟩ := starts progress between gathered
              obtain ⟨printed, opened⟩ := openCourse_of_gather_ok problem settings gathered
              rw [opened] at opens
              cases opens
              exact
                { shown := { shown with }
                  keeps := (Recorder.keepsHistory_recordOptimality _ _).trans keeps
                  exits := fun exits => by cases exits
                  tracked := fun _ => tracked }
  | iterated reached iterating budget ran ih =>
      have underway := Course.underway_of_open iterating
      have stride := iterate_strides observer silent (ih.tracked underway)
        opening.threshold
      exact stride.tracks watchable.watches ih underway (Course.running_of_open iterating) ran

end ConjugateResidual
