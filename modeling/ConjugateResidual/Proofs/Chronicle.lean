import ConjugateResidual.Proofs.Reuse
import ConjugateResidual.Proofs.Verdict

/-!
The records of a solve against its run, in any arithmetic. Along the turns of a solve one list grows,
that of the progress made so far; at every moment the records are what this list tells. From it
follows what the observer is shown at each call and what is left at the end, whether the solve
returns or is broken off.
-/

namespace ConjugateResidual

open Arithmetic

variable {J R X Y : Type}

def Recorder.telling (keepsHistory : Bool) (told : List (Progress R)) : Recorder R :=
  { iterations := (told.length : Int) - 1
    solved := false, inconsistent := false, status := .unknown
    residuals := if keepsHistory then told.map Progress.residual else []
    optimalities := if keepsHistory then told.map Progress.optimality else []
    keepsHistory }

/-- Nothing but the vectors may be changed by an observer as long as the workspace is held. -/
def Run.KeepsFrame (observer : Run J R X Y Bool) : Prop :=
  ∀ state, state.workspace.busy = true →
    (observer state).2.workspace.frame = state.workspace.frame

theorem Run.Respects.keepsFrame {observer : Run J R X Y Bool} (respects : Run.Respects observer) :
    Run.KeepsFrame observer :=
  fun state busy => congrArg Workspace.frame (respects state busy)

structure Workspace.Telling (keepsHistory : Bool) (told : List (Progress R))
    (workspace : Workspace R X Y) : Prop where
  busy : workspace.busy = true
  recorder : workspace.recorder = .telling keepsHistory told

theorem Workspace.Telling.of_frame {keepsHistory : Bool} {told : List (Progress R)}
    {workspace workspace' : Workspace R X Y} (telling : workspace.Telling keepsHistory told)
    (frame : workspace'.frame = workspace.frame) : workspace'.Telling keepsHistory told :=
  { busy := (congrArg Frame.busy frame).trans telling.busy
    recorder := (congrArg Frame.recorder frame).trans telling.recorder }

/-- The records of a completed iteration tell of one more progress. -/
theorem Workspace.Telling.completed {keepsHistory : Bool} {told : List (Progress R)}
    {workspace : Workspace R X Y} (telling : workspace.Telling keepsHistory told)
    (progress : Progress R) :
    (workspace.completed told.length progress).Telling keepsHistory (told ++ [progress]) := by
  refine { busy := telling.busy, recorder := ?_ }
  unfold Workspace.completed Recorder.recordOptimality Recorder.recordResidual
  rw [telling.recorder]
  unfold Recorder.telling
  cases keepsHistory with
  | true => simp
  | false => simp

structure Course.Follows (told : List (Progress R)) (course : Course R) : Prop where
  iterations : course.iterations + 1 = told.length
  residual : told.getLast?.map Progress.residual = some course.residual
  progress : course.Underway → told.getLast? = some course.toProgress

/-- From one list of progress to a longer one, by one entry for each state in which the observer is
asked. In each of them the records tell the beginning that has been reached. -/
structure Chronicle (keepsHistory : Bool) (told : List (Progress R))
    (asked : List (RunState J R X Y)) (told' : List (Progress R)) : Prop where
  begins : told <+: told'
  length : told'.length = told.length + asked.length
  shown : ∀ (index : Nat) (state : RunState J R X Y), asked[index]? = some state →
    state.workspace.Telling keepsHistory (told'.take (told.length + (index + 1)))

namespace Chronicle

variable {keepsHistory : Bool} {told told' : List (Progress R)} {asked : List (RunState J R X Y)}

theorem nil : Chronicle keepsHistory told ([] : List (RunState J R X Y)) told :=
  { begins := List.prefix_rfl
    length := rfl
    shown := fun index state found => by simp at found }

theorem cons {state : RunState J R X Y} {progress : Progress R}
    (telling : state.workspace.Telling keepsHistory (told ++ [progress]))
    (later : Chronicle keepsHistory (told ++ [progress]) asked told') :
    Chronicle keepsHistory told (state :: asked) told' := by
  have begins := List.prefix_iff_eq_take.mp later.begins
  rw [List.length_append, List.length_singleton] at begins
  refine
    { begins := (List.prefix_append told [progress]).trans later.begins
      length := ?_, shown := ?_ }
  · rw [later.length, List.length_append, List.length_singleton, List.length_cons]
    omega
  · intro index other found
    cases index with
    | zero =>
        cases found
        rw [Nat.zero_add, ← begins]
        exact telling
    | succ index =>
        have shown := later.shown index other found
        rw [List.length_append, List.length_singleton] at shown
        rw [show told.length + (index + 1 + 1) = told.length + 1 + (index + 1) by omega]
        exact shown

end Chronicle

section Turns

variable [Arithmetic R]
variable {settings : Settings R} {observer : Run J R X Y Bool} {threshold : R}
variable (keeps : Run.KeepsFrame observer)
include keeps

/-- A turn records one progress more exactly if the observer is asked in it. -/
theorem Turned.follows {told : List (Progress R)} {course : Course R} {state : RunState J R X Y}
    {turn : Turn J R X Y} {result : Except (Fault R) (Course R) × RunState J R X Y}
    (turned : Turned settings observer course state turn result)
    (iterating : course.isOver threshold = false) (follows : course.Follows told)
    (telling : state.workspace.Telling settings.keepsHistory told) :
    ∃ more : List (Progress R),
      (more = [] ∧ turn.asked? = none ∨
        ∃ progress asked, more = [progress] ∧ turn.asked? = some asked ∧
          asked.workspace.Telling settings.keepsHistory (told ++ [progress])) ∧
      result.2.workspace.Telling settings.keepsHistory (told ++ more) ∧
      ∀ last, result.1 = .ok last → last.Follows (told ++ more) := by
  have underway := Course.underway_of_open iterating
  cases turned with
  | alongGradient frame =>
      refine ⟨[], .inl ⟨rfl, rfl⟩, ?_, ?_⟩
      · simpa using telling.of_frame frame
      · intro last returned
        cases returned
        rw [List.append_nil]
        exact { follows with progress := fun straight => by cases straight.1 }
  | toSphere frame =>
      refine ⟨[], .inl ⟨rfl, rfl⟩, ?_, ?_⟩
      · simpa using telling.of_frame frame
      · intro last returned
        cases returned
        rw [List.append_nil]
        exact { follows with progress := fun straight => by cases straight.2 }
  | stuck unasked frame =>
      refine ⟨[], .inl ⟨rfl, unasked⟩, ?_, ?_⟩
      · simpa using telling.of_frame frame
      · intro last returned
        cases returned
  | @asked progress between asked frame shown =>
      have completed : asked.workspace.Telling settings.keepsHistory (told ++ [progress]) := by
        rw [shown]
        unfold RunState.consulted
        rw [follows.iterations]
        exact (telling.of_frame frame).completed progress
      refine ⟨[progress], .inr ⟨progress, asked, rfl, rfl, completed⟩, ?_, ?_⟩
      · exact completed.of_frame (keeps asked completed.busy)
      · intro last returned
        cases answer : (observer asked).1 with
        | error fault =>
            rw [answer] at returned
            cases returned
        | ok exited =>
            rw [answer] at returned
            cases returned
            exact
              { iterations := by simp [follows.iterations]
                residual := by simp
                progress := fun _ => by simp }

theorem Unfolds.chronicle {told : List (Progress R)} {course : Course R}
    {state : RunState J R X Y} {turns : List (Turn J R X Y)}
    {result : Except (Fault R) (Course R) × RunState J R X Y}
    (unfolds : Unfolds settings observer threshold course state turns result)
    (follows : course.Follows told)
    (telling : state.workspace.Telling settings.keepsHistory told) :
    ∃ told', Chronicle settings.keepsHistory told (Turn.consulted turns) told' ∧
      result.2.workspace.Telling settings.keepsHistory told' ∧
      ∀ last, result.1 = .ok last → last.Follows told' := by
  induction unfolds generalizing told with
  | done =>
      refine ⟨told, .nil, telling, ?_⟩
      intro last returned
      cases returned
      exact follows
  | broken iterating turned =>
      obtain ⟨more, recorded, ended, judged⟩ := turned.follows keeps iterating follows telling
      refine ⟨told ++ more, ?_, ended, judged⟩
      unfold Turn.consulted
      rcases recorded with ⟨rfl, unasked⟩ | ⟨progress, asked, rfl, shown, completed⟩
      · rw [List.filterMap_cons_none unasked, List.append_nil]
        exact .nil
      · rw [List.filterMap_cons_some shown]
        exact .cons completed .nil
  | @further course next state after turn later result iterating turned rest ih =>
      obtain ⟨more, recorded, going, goes⟩ := turned.follows keeps iterating follows telling
      obtain ⟨told', chronicle, ended, judged⟩ := ih (goes next rfl) going
      refine ⟨told', ?_, ended, judged⟩
      unfold Turn.consulted at chronicle ⊢
      rcases recorded with ⟨rfl, unasked⟩ | ⟨progress, asked, rfl, shown, completed⟩
      · rw [List.filterMap_cons_none unasked]
        rw [List.append_nil] at chronicle
        exact chronicle
      · rw [List.filterMap_cons_some shown]
        exact .cons completed chronicle

end Turns

/-! ### Calls of the observer -/

section Calls

variable [Arithmetic R]
variable {settings : Settings R} {observer : Run J R X Y Bool} {threshold : R} {course : Course R}
variable {state : RunState J R X Y} {turns : List (Turn J R X Y)}
variable {result : Except (Fault R) (Course R) × RunState J R X Y}
variable (unfolds : Unfolds settings observer threshold course state turns result)
include unfolds

/-- After any call but the last one the observer lets the solve go on. -/
theorem Unfolds.answers {index : Nat} {asked : RunState J R X Y}
    (found : (Turn.consulted turns)[index]? = some asked)
    (early : index + 1 < (Turn.consulted turns).length) : (observer asked).1 = .ok false := by
  obtain ⟨rfl, _⟩ | ⟨earlier, last, before, between, rfl, passes, _⟩ := unfolds.ends
  · cases found
  · rw [Turn.consulted_concat] at found early
    have few : last.asked?.toList.length ≤ 1 := by
      cases last.asked? with
      | none => exact Nat.zero_le _
      | some _ => exact Nat.le_refl _
    rw [List.length_append] at early
    rw [List.getElem?_append_left (by omega)] at found
    exact Turn.answers_of_passes passes (List.mem_of_getElem? found)

/-- What the observer raises ends the iterations. -/
theorem Unfolds.raises {asked : RunState J R X Y} {fault : Fault R}
    (member : asked ∈ Turn.consulted turns) (raised : (observer asked).1 = .error fault) :
    result.1 = .error fault := by
  obtain ⟨rfl, _⟩ | ⟨earlier, last, before, between, rfl, passes, _, _, turned⟩ := unfolds.ends
  · cases member
  · rw [Turn.consulted_concat, List.mem_append] at member
    rcases member with member | member
    · rw [Turn.answers_of_passes passes member] at raised
      cases raised
    · have shown : last.asked? = some asked := by simpa using member
      cases turned with
      | alongGradient => cases shown
      | toSphere => cases shown
      | stuck unasked =>
          rw [unasked] at shown
          cases shown
      | asked =>
          cases shown
          dsimp only
          rw [raised]
          rfl

end Calls

/-! ### Whole solves -/

structure Snapshot.Midway (keepsHistory : Bool) (count : Nat) (stats : Snapshot R) : Prop where
  iterations : stats.iterations = count
  unsolved : stats.solved = false
  unknown : stats.status = .unknown
  residuals : stats.residuals.length = if keepsHistory then count + 1 else 0
  optimalities : stats.optimalities.length = if keepsHistory then count + 1 else 0

structure Snapshot.Begins (stats later : Snapshot R) : Prop where
  residuals : stats.residuals <+: later.residuals
  optimalities : stats.optimalities <+: later.optimalities

theorem Recorder.midway_telling (keepsHistory : Bool) {told : List (Progress R)} {count : Nat}
    (length : told.length = count + 1) :
    (telling keepsHistory told).toSnapshot.Midway keepsHistory count := by
  refine { iterations := ?_, unsolved := rfl, unknown := rfl, residuals := ?_, optimalities := ?_ }
  · simp only [telling, length]
    omega
  · cases keepsHistory with
    | true => simp [telling, length]
    | false => rfl
  · cases keepsHistory with
    | true => simp [telling, length]
    | false => rfl

theorem Workspace.Telling.midway {keepsHistory : Bool} {told : List (Progress R)}
    {workspace : Workspace R X Y} (telling : workspace.Telling keepsHistory told) {count : Nat}
    (length : told.length = 1 + count) : workspace.stats.Midway keepsHistory count := by
  have midway := Recorder.midway_telling keepsHistory (length.trans (Nat.add_comm ..))
  rw [← telling.recorder] at midway
  exact midway

theorem Recorder.begins_telling (keepsHistory : Bool) {told told' : List (Progress R)}
    (begins : told <+: told') :
    (telling keepsHistory told).toSnapshot.Begins (telling keepsHistory told').toSnapshot := by
  cases keepsHistory with
  | true => exact { residuals := begins.map _, optimalities := begins.map _ }
  | false => exact { residuals := List.prefix_rfl, optimalities := List.prefix_rfl }

namespace Chronicle

variable {keepsHistory : Bool} {start : Progress R} {told' : List (Progress R)}
variable {asked : List (RunState J R X Y)} {index : Nat} {state : RunState J R X Y}
variable (chronicle : Chronicle keepsHistory [start] asked told')
  (found : asked[index]? = some state)
include chronicle found

theorem stats_eq :
    state.workspace.stats =
      (Recorder.telling keepsHistory (told'.take (index + 2))).toSnapshot := by
  have shown := (chronicle.shown index state found).recorder
  rw [List.length_singleton, show 1 + (index + 1) = index + 2 by omega] at shown
  unfold Workspace.stats Recorder.snapshot
  rw [shown]

theorem midway : state.workspace.stats.Midway keepsHistory (index + 1) := by
  obtain ⟨within, _⟩ := List.getElem?_eq_some_iff.mp found
  have length := chronicle.length
  rw [List.length_singleton] at length
  rw [chronicle.stats_eq found]
  apply Recorder.midway_telling
  rw [List.length_take]
  omega

private theorem begins_last :
    state.workspace.stats.Begins (Recorder.telling keepsHistory told').toSnapshot := by
  rw [chronicle.stats_eq found]
  exact Recorder.begins_telling keepsHistory (List.take_prefix _ _)

private theorem begins_later {later : Nat} {state' : RunState J R X Y} (after : index ≤ later)
    (found' : asked[later]? = some state') :
    state.workspace.stats.Begins state'.workspace.stats := by
  rw [chronicle.stats_eq found, chronicle.stats_eq found']
  exact Recorder.begins_telling keepsHistory (List.take_prefix_take_left (by omega))

end Chronicle

section Solves

variable [Arithmetic R] [VectorArithmetic R X] [VectorArithmetic R Y]
variable {problem : Problem J R X Y} {settings : Settings R} {observer : Run J R X Y Bool}

/-- The progress at the start tells the norm of the right-hand side. -/
theorem residual_gather {norm : R} {progress : Progress R} {state after : RunState J R X Y}
    (gathered : gather problem settings norm state = (.ok progress, after)) :
    progress.residual = norm := by
  unfold gather at gathered
  repeat obtain ⟨_, _, _, gathered⟩ := Run.of_bind_eq_ok gathered
  cases gathered
  rfl

theorem of_gather_entered {norm : R} {before after : RunState J R X Y}
    {outcome : Except (Fault R) (Progress R)}
    (gathered : gather problem settings norm (problem.entered settings before) =
      (outcome, after)) :
    after.workspace.busy = true ∧
      after.workspace.recorder =
        (Recorder.cleared settings.keepsHistory).recordResidual
          (VectorArithmetic.norm problem.rightHandSide) := by
  have frame :
      (gather problem settings norm (problem.entered settings before)).2.workspace.frame =
        (problem.entered settings before).workspace.frame :=
    frame_gather _ _
  rw [gathered] at frame
  exact ⟨congrArg Frame.busy frame, congrArg Frame.recorder frame⟩

theorem telling_of_openCourse {before state : RunState J R X Y} {opening : Opening R}
    (opens :
      openCourse problem settings (VectorArithmetic.norm problem.rightHandSide)
        (problem.entered settings before) = (.ok opening, state)) :
    ∃ start : Progress R, opening = start.opening settings ∧
      start.residual = VectorArithmetic.norm problem.rightHandSide ∧
      state.workspace.Telling settings.keepsHistory [start] := by
  cases gathered : gather problem settings (VectorArithmetic.norm problem.rightHandSide)
      (problem.entered settings before) with
  | mk outcome between =>
      cases outcome with
      | error fault =>
          rw [openCourse_of_gather_error problem settings gathered] at opens
          cases opens
      | ok start =>
          obtain ⟨printed, opened⟩ := openCourse_of_gather_ok problem settings gathered
          rw [opened] at opens
          cases opens
          have measured := residual_gather gathered
          obtain ⟨busy, recorder⟩ := of_gather_entered gathered
          refine ⟨start, rfl, measured, { busy, recorder := ?_ }⟩
          dsimp only
          rw [recorder]
          unfold Recorder.recordOptimality Recorder.recordResidual Recorder.cleared
            Recorder.telling
          cases settings.keepsHistory with
          | true => simp [measured]
          | false => simp

section Opened

variable {before state : RunState J R X Y} {opening : Opening R} {turns : List (Turn J R X Y)}
variable {result : Except (Fault R) (Course R) × RunState J R X Y}

/-- From the start of a solve on, its turns are chronicled. -/
theorem Unfolds.opened (keeps : Run.KeepsFrame observer)
    (unfolds : Unfolds settings observer opening.threshold opening.course state turns result)
    (opens :
      openCourse problem settings (VectorArithmetic.norm problem.rightHandSide)
        (problem.entered settings before) = (.ok opening, state)) :
    ∃ start told', start.residual = VectorArithmetic.norm problem.rightHandSide ∧
      Chronicle settings.keepsHistory [start] (Turn.consulted turns) told' ∧
      result.2.workspace.Telling settings.keepsHistory told' ∧
      ∀ last, result.1 = .ok last → last.Follows told' := by
  obtain ⟨start, rfl, measured, telling⟩ := telling_of_openCourse opens
  have follows : (start.opening settings).course.Follows [start] :=
    { iterations := rfl, residual := rfl, progress := fun _ => rfl }
  obtain ⟨told', chronicle, ended, judged⟩ := unfolds.chronicle keeps follows telling
  exact ⟨start, told', measured, chronicle, ended, judged⟩

end Opened

variable {before : RunState J R X Y} {turns : List (Turn J R X Y)}
variable {result : Except (Fault R) (Report R) × RunState J R X Y}

structure Run.ShownAt (observer : Run J R X Y Bool) (keepsHistory : Bool)
    (asked : List (RunState J R X Y)) (last : Snapshot R) (index : Nat)
    (state : RunState J R X Y) : Prop where
  midway : state.workspace.stats.Midway keepsHistory (index + 1)
  earlier : ∀ later state', index ≤ later → asked[later]? = some state' →
    state.workspace.stats.Begins state'.workspace.stats
  begins : state.workspace.stats.Begins last
  goesOn : index + 1 < asked.length → (observer state).1 = .ok false

theorem Account.shown (account : Account problem settings observer before turns result)
    (keeps : Run.KeepsFrame observer) {index : Nat} {state : RunState J R X Y}
    (found : (Turn.consulted turns)[index]? = some state) :
    Run.ShownAt observer settings.keepsHistory (Turn.consulted turns) result.2.workspace.stats index
      state := by
  cases account with
  | refused busy => cases found
  | zero zero answered => cases found
  | unopened nonzero failed => cases found
  | broken nonzero opens unfolds =>
      obtain ⟨start, told', _, chronicle, ended, _⟩ := unfolds.opened keeps opens
      have begins := chronicle.begins_last found
      rw [← ended.recorder] at begins
      exact
        { midway := chronicle.midway found
          earlier := fun later state' => chronicle.begins_later found
          begins
          goesOn := unfolds.answers found }
  | judged nonzero opens unfolds within stops closed =>
      obtain ⟨start, told', _, chronicle, ended, _⟩ := unfolds.opened keeps opens
      have begins := chronicle.begins_last found
      rw [← ended.recorder] at begins
      rw [closeCourse_eq] at closed
      cases closed
      exact
        { midway := chronicle.midway found
          earlier := fun later state' => chronicle.begins_later found
          begins := { begins with }
          goesOn := unfolds.answers found }

/-- A fault of the observer is the outcome, and the records stay as they were. -/
theorem Account.raised (account : Account problem settings observer before turns result)
    (keeps : Run.KeepsFrame observer) {asked : RunState J R X Y} {fault : Fault R}
    (member : asked ∈ Turn.consulted turns) (raised : (observer asked).1 = .error fault) :
    result.1 = .error fault ∧
      result.2.workspace.stats.Midway settings.keepsHistory (Turn.consulted turns).length := by
  cases account with
  | refused busy => cases member
  | zero zero answered => cases member
  | unopened nonzero failed => cases member
  | @broken opening state after turns other nonzero opens unfolds =>
      have same := unfolds.raises member raised
      cases same
      obtain ⟨start, told', _, chronicle, ended, _⟩ := unfolds.opened keeps opens
      exact ⟨rfl, { ended.midway chronicle.length with }⟩
  | judged nonzero opens unfolds within stops closed =>
      have same := unfolds.raises member raised
      cases same

structure Report.Agrees (keepsHistory : Bool) (norm : R) (lastStep? : Option Step) (calls : Nat)
    (report : Report R) : Prop where
  iterations : report.stats.iterations = calls
  residuals : report.stats.residuals.length = if keepsHistory then calls + 1 else 0
  optimalities : report.stats.optimalities.length = if keepsHistory then calls + 1 else 0
  start : keepsHistory = true → report.stats.residuals.head? = some norm
  figures : isZero norm = false → ∃ figures, report.figures? = some figures ∧
    (keepsHistory = true → report.stats.residuals.getLast? = some figures.residual ∧
      (lastStep? ≠ some .toSphere → lastStep? ≠ some .alongGradient →
        report.stats.optimalities.getLast? = some figures.optimality))

theorem Account.agrees {report : Report R} {final : RunState J R X Y}
    (account : Account problem settings observer before turns (.ok report, final))
    (keeps : Run.KeepsFrame observer) :
    report.stats = final.workspace.stats ∧
      report.Agrees settings.keepsHistory (VectorArithmetic.norm problem.rightHandSide)
        (turns.getLast?.bind Turn.step?) (Turn.consulted turns).length := by
  cases account with
  | zero zero answered =>
      rw [solveZero_apply] at answered
      cases answered
      obtain ⟨_, _, count⟩ := Workspace.stats_answered (problem.entered settings before).workspace
      have residuals := problem.residuals_answered settings before.held.workspace
      have optimalities := problem.optimalities_answered settings before.held.workspace
      refine ⟨rfl, ?_⟩
      unfold Problem.reported Workspace.stats Recorder.snapshot Problem.entered
      refine
        { iterations := count, residuals := ?_, optimalities := ?_, start := ?_
          figures := fun nonzero => ?_ }
      · dsimp only
        rw [residuals]
        cases settings.keepsHistory with
        | true => rfl
        | false => rfl
      · dsimp only
        rw [optimalities]
        cases settings.keepsHistory with
        | true => rfl
        | false => rfl
      · intro kept
        dsimp only
        rw [residuals, kept]
        rfl
      · rw [zero] at nonzero
        cases nonzero
  | @judged _ _ between _ turns last _ nonzero opens unfolds within stops closed =>
      obtain ⟨start, told', measured, chronicle, ended, judged⟩ := unfolds.opened keeps opens
      obtain ⟨_, rfl⟩ := opening_of_openCourse opens
      have tallies := unfolds.tallies ⟨rfl, rfl⟩ rfl rfl
      have follows := judged _ rfl
      have midway := ended.midway chronicle.length
      obtain ⟨rest, rfl⟩ := chronicle.begins
      rw [closeCourse_eq] at closed
      cases closed
      refine ⟨rfl, ?_⟩
      refine
        { iterations := congrArg Int.ofNat tallies.iterations
          residuals := midway.residuals
          optimalities := midway.optimalities
          start := fun kept => ?_
          figures := fun _ => ⟨_, rfl, fun kept => ⟨?_, fun inside curved => ?_⟩⟩ }
      · show between.workspace.recorder.residuals.head? = _
        rw [ended.recorder, kept, ← measured]
        rfl
      · show between.workspace.recorder.residuals.getLast? = some last.residual
        rw [ended.recorder, kept, ← follows.residual, ← List.getLast?_map]
        rfl
      · show between.workspace.recorder.optimalities.getLast? = some last.optimality
        have underway : last.Underway :=
          ⟨eq_false_of_ne_true fun flat => curved (tallies.flat.mp flat),
            eq_false_of_ne_true fun clipped => inside (tallies.clipped.mp clipped)⟩
        have latest := congrArg (Option.map Progress.optimality) (follows.progress underway)
        rw [← List.getLast?_map] at latest
        rw [ended.recorder, kept]
        exact latest

/-- The observer is asked once for each completed iteration, however the solve ends. -/
theorem Account.iterations_eq (account : Account problem settings observer before turns result)
    (keeps : Run.KeepsFrame observer) (free : before.workspace.busy = false) :
    result.2.workspace.stats.iterations = (Turn.consulted turns).length := by
  cases account with
  | refused busy =>
      rw [free] at busy
      cases busy
  | zero zero answered =>
      rw [solveZero_apply] at answered
      cases answered
      exact (Workspace.stats_answered (problem.entered settings before).workspace).2.2
  | @unopened after fault nonzero failed =>
      cases gathered : gather problem settings (VectorArithmetic.norm problem.rightHandSide)
          (problem.entered settings before) with
      | mk outcome between =>
          cases outcome with
          | ok progress =>
              obtain ⟨printed, opened⟩ := openCourse_of_gather_ok problem settings gathered
              rw [opened] at failed
              cases failed
          | error fault =>
              rw [openCourse_of_gather_error problem settings gathered] at failed
              cases failed
              obtain ⟨_, recorder⟩ := of_gather_entered gathered
              unfold Workspace.stats Recorder.snapshot RunState.released
              dsimp only
              rw [recorder]
              unfold Recorder.recordResidual
              split
              · rfl
              · rfl
  | broken nonzero opens unfolds =>
      obtain ⟨start, told', _, chronicle, ended, _⟩ := unfolds.opened keeps opens
      exact (ended.midway chronicle.length).iterations
  | judged nonzero opens unfolds within stops closed =>
      obtain ⟨_, rfl⟩ := opening_of_openCourse opens
      have tallies := unfolds.tallies ⟨rfl, rfl⟩ rfl rfl
      rw [closeCourse_eq] at closed
      cases closed
      exact congrArg Int.ofNat tallies.iterations

/-- The diagnostics of a solve agree with its run, in any arithmetic and on any workspace, for an
observer that leaves the records of a held workspace alone. It is asked once for each completed
iteration and not again after it has asked to stop or has failed; what it is shown is a beginning of
all that is shown later; and it is asked nowhere else. -/
theorem records_agree_with_the_run (problem : Problem J R X Y) (settings : Settings R)
    {observer : Run J R X Y Bool} (keeps : Run.KeepsFrame observer) (before : RunState J R X Y) :
    let asked := consultations problem settings observer before
    let lastStep? := (solveTurns problem settings observer before).getLast?.bind Turn.step?
    let result := solve problem settings observer before
    let stats := result.2.workspace.stats
    (before.workspace.busy = false → stats.iterations = asked.length) ∧
    (∀ index state, asked[index]? = some state →
      Run.ShownAt observer settings.keepsHistory asked stats index state) ∧
    (∀ report, result.1 = .ok report →
      report.stats = stats ∧
        report.Agrees settings.keepsHistory (VectorArithmetic.norm problem.rightHandSide) lastStep?
          asked.length) ∧
    (∀ index state fault, asked[index]? = some state → (observer state).1 = .error fault →
      result.1 = .error fault ∧ asked.length = index + 1 ∧
        stats.Midway settings.keepsHistory (index + 1)) ∧
    ∀ observer', (∀ state ∈ asked, observer' state = observer state) →
      solve problem settings observer' before = result := by
  intro asked lastStep? result stats
  have account := solve_account problem settings observer before
  refine ⟨account.iterations_eq keeps, fun index state => account.shown keeps, ?_, ?_,
    fun observer' => solve_congr⟩
  · intro report returned
    have reported : Account problem settings observer before
        (solveTurns problem settings observer before) (.ok report, result.2) := by
      rw [← returned]
      exact account
    exact reported.agrees keeps
  · intro index state fault found raised
    obtain ⟨failed, midway⟩ := account.raised keeps (List.mem_of_getElem? found) raised
    have last : asked.length = index + 1 := by
      obtain ⟨within, _⟩ := List.getElem?_eq_some_iff.mp found
      have goesOn := (account.shown keeps found).goesOn
      rcases Nat.lt_or_ge (index + 1) asked.length with early | late
      · rw [goesOn early] at raised
        cases raised
      · omega
    refine ⟨failed, last, ?_⟩
    rw [← last]
    exact midway

end Solves

/-- With the history kept, the one call before the budget is used up is shown the norms of the start
and of the first iteration, and the report shows them too. -/
theorem records_agree_with_the_run_tall :
    ∃ options problem before report final state,
      Request.tall.prepare.outcome = .ok (options, problem) ∧
        solveWith options problem (Script.exitAt 1).observe before = (.ok report, final) ∧
        consultations problem (options.resolve problem.rows problem.columns problem.tolerance)
          (Script.exitAt 1).observe before = [state] ∧
        state.workspace.stats.iterations = 1 ∧ state.workspace.stats.status = .unknown ∧
        state.workspace.stats.residuals <+: report.stats.residuals ∧
        state.workspace.stats.residuals.length = 2 ∧ report.stats.residuals.length = 2 := by
  let view (report : Report Float) : Int × Nat :=
    (report.stats.iterations, report.stats.residuals.length)
  have computed : (solveInPlace Request.tall.prepare (Script.exitAt 1).observe
      (.ofWorkspace .tall)).1.toOption.map view = some (1, 2) := by
    decide +kernel
  obtain ⟨options, problem, before, report, final, ready, returned, viewed⟩ :=
    solveWith_of_view computed
  simp only [view, Prod.mk.injEq] at viewed
  obtain ⟨count, length⟩ := viewed
  let settings := options.resolve problem.rows problem.columns problem.tolerance
  have ended : solve problem settings (Script.exitAt 1).observe before = (.ok report, final) :=
    returned
  obtain ⟨_, shown, reported, _⟩ :=
    records_agree_with_the_run problem settings (Script.respects (.exitAt 1)).keepsFrame before
  rw [ended] at shown reported
  obtain ⟨same, agrees⟩ := reported report rfl
  have calls : (consultations problem settings (Script.exitAt 1).observe before).length = 1 :=
    Int.ofNat_inj.mp (agrees.iterations.symm.trans count)
  obtain ⟨state, only⟩ := List.length_eq_one_iff.mp calls
  rw [only] at shown
  have first := shown 0 state rfl
  have kept : settings.keepsHistory = true := by
    have lengths := agrees.residuals
    rw [length] at lengths
    split at lengths
    · assumption
    · cases lengths
  refine ⟨options, problem, before, report, final, state, ready, returned, only,
    first.midway.iterations, first.midway.unknown, ?_, ?_, length⟩
  · rw [same]
    exact first.begins.residuals
  · rw [first.midway.residuals, kept]
    rfl

end ConjugateResidual
