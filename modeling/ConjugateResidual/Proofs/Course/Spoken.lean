import ConjugateResidual.Proofs.Chronicle

/-!
The lines that a solve prints. The work on the vectors prints nothing. The banner, the header, the
line of the start, those of completed iterations and a last empty line stand around it; when the
observer is asked, it may print lines of its own. With the history kept, each line of the table is
read off the records.
-/

namespace ConjugateResidual

open Arithmetic

variable {J R X Y A : Type}

def Run.remarks (observer : Run J R X Y Bool) (state : RunState J R X Y) : List (Line R) :=
  (observer { state with printed := [] }).2.printed

/-- The printed lines are write-only: what has been printed before is kept and not looked at. -/
def Run.Appends (run : Run J R X Y A) : Prop :=
  ∀ state, run state =
    let spoken := run { state with printed := [] }
    (spoken.1, { spoken.2 with printed := state.printed ++ spoken.2.printed })

private theorem Run.Appends.printed {observer : Run J R X Y Bool} (appends : Run.Appends observer)
    (state : RunState J R X Y) :
    (observer state).2.printed = state.printed ++ Run.remarks observer state := by
  rw [appends state]
  rfl

private theorem Turn.consulted_cons (turn : Turn J R X Y) (later : List (Turn J R X Y)) :
    consulted (turn :: later) = turn.asked?.toList ++ consulted later := by
  unfold consulted
  cases asked : turn.asked? with
  | none => exact List.filterMap_cons_none asked
  | some state => exact List.filterMap_cons_some asked

theorem isDue_iff {interval iterations : Nat} :
    isDue interval iterations = true ↔ 0 < interval ∧ interval ∣ iterations := by
  unfold isDue
  rw [Bool.and_eq_true, decide_eq_true_iff, beq_iff_eq, Nat.dvd_iff_mod_eq_zero]

variable [Arithmetic R]

def Snapshot.line (stats : Snapshot R) (iterations : Nat) : Line R :=
  .progress iterations (stats.optimalities.getD iterations 0) (stats.residuals.getD iterations 0)

def Snapshot.sample (interval : Nat) (stats : Snapshot R) (iterations : Nat) : List (Line R) :=
  if 0 < interval ∧ interval ∣ iterations then [stats.line iterations] else []

theorem Recorder.sample_telling (interval : Nat) {told : List (Progress R)} {iterations : Nat}
    {progress : Progress R} (found : told[iterations]? = some progress) :
    (telling true told).toSnapshot.sample interval iterations =
      if isDue interval iterations then
        [.progress iterations progress.optimality progress.residual]
      else [] := by
  unfold Snapshot.sample Snapshot.line telling
  simp [found, isDue_iff]

private theorem Workspace.Telling.sample {told : List (Progress R)} {workspace : Workspace R X Y}
    (telling : workspace.Telling true told) (interval iterations : Nat) :
    workspace.stats.sample interval iterations =
      (Recorder.telling true told).toSnapshot.sample interval iterations := by
  rw [← telling.recorder]
  rfl

def Run.spoken (observer : Run J R X Y Bool) (interval : Nat) (asked : RunState J R X Y) :
    List (Line R) :=
  asked.workspace.stats.sample interval asked.workspace.stats.iterations.toNat ++
    Run.remarks observer asked

variable [VectorArithmetic R X] [VectorArithmetic R Y]
variable {problem : Problem J R X Y} {settings : Settings R} {observer : Run J R X Y Bool}

private theorem printed_attempt (threshold : R) (course : Course R) (state : RunState J R X Y) :
    (attempt problem settings threshold course state).2.printed = state.printed :=
  attempt_stays (fun around => around.printed = state.printed) (fun _ _ same => same)
    threshold course rfl

private theorem printed_gather (norm : R) (state : RunState J R X Y) :
    (gather problem settings norm state).2.printed = state.printed :=
  gather_stays (fun around => around.printed = state.printed) (fun _ _ same => same)
    norm rfl

private theorem printed_launch (norm : R) (state : RunState J R X Y) :
    (launch problem settings norm state).2.printed = state.printed := by
  have quiet : (gather problem settings norm state).2.printed = state.printed :=
    printed_gather norm state
  rw [launch_eq, Run.bind_apply]
  cases gathered : gather problem settings norm state with
  | mk outcome between =>
      rw [gathered] at quiet
      cases outcome with
      | error fault => exact quiet
      | ok start => exact quiet

private theorem printed_openCourse {norm : R} {opening : Opening R}
    {entered state : RunState J R X Y}
    (opens : openCourse problem settings norm entered = (.ok opening, state)) :
    state.printed = entered.printed ++
      if 0 < settings.interval then
        [.header, .progress 0 opening.course.optimality opening.course.residual]
      else [] := by
  have quiet : (launch problem settings norm entered).2.printed = entered.printed :=
    printed_launch norm entered
  cases launches : launch problem settings norm entered with
  | mk outcome after =>
      rw [launches] at quiet
      cases outcome with
      | error fault =>
          rw [openCourse_of_fault settings launches] at opens
          cases opens
      | ok start =>
          rw [openCourse_eq settings launches] at opens
          cases opens
          exact congrArg (· ++ _) quiet

section Observed

variable (appends : Run.Appends observer)
include appends

omit [VectorArithmetic R X] [VectorArithmetic R Y] in
/-- The state in which the observer is asked shows the line that has just been printed. -/
theorem spoken_consulted {told : List (Progress R)} {state between : RunState J R X Y}
    (telling : state.workspace.Telling true told)
    (frame : between.workspace.frame = state.workspace.frame)
    (quiet : between.printed = state.printed) (progress : Progress R) :
    let asked := between.consulted settings told.length progress
    (observer asked).2.printed =
      state.printed ++ Run.spoken observer settings.interval asked := by
  intro asked
  have completed : asked.workspace.Telling true (told ++ [progress]) :=
    (telling.of_frame frame).completed progress
  have count : asked.workspace.stats.iterations.toNat = told.length := by
    show asked.workspace.recorder.iterations.toNat = told.length
    rw [completed.recorder]
    simp [Recorder.telling]
  have line := completed.sample settings.interval told.length
  rw [Recorder.sample_telling settings.interval List.getElem?_concat_length] at line
  rw [appends.printed, Run.spoken, count, line, ← List.append_assoc, ← quiet]
  rfl

private theorem printed_iterate {told : List (Progress R)} (threshold : R) {course : Course R}
    {state : RunState J R X Y} (follows : course.Follows told)
    (telling : state.workspace.Telling true told) :
    (iterate problem settings observer threshold course state).2.printed =
      state.printed ++
        (course.turn problem settings threshold state).asked?.toList.flatMap
          (Run.spoken observer settings.interval) := by
  have quiet : (attempt problem settings threshold course state).2.printed = state.printed :=
    printed_attempt threshold course state
  have frame : (attempt problem settings threshold course state).2.workspace.frame =
      state.workspace.frame := frame_attempt threshold course state
  rw [iterate_eq, Run.bind_apply]
  unfold Course.turn
  cases ran : attempt problem settings threshold course state with
  | mk outcome between =>
      rw [ran] at quiet frame
      cases outcome with
      | error fault => simpa using quiet
      | ok tried =>
          cases tried with
          | inl next =>
              show between.printed = _
              simpa using quiet
          | inr progress =>
              show (course.completed settings observer progress between).2.printed = _
              rw [Course.completed_eq]
              dsimp only [Option.toList_some]
              rw [follows.iterations, List.flatMap_singleton]
              exact spoken_consulted appends telling frame quiet progress

variable (keeps : Run.KeepsFrame observer) (kept : settings.keepsHistory = true)
include keeps kept

private theorem printed_iterations {told : List (Progress R)} (threshold : R) (remaining : Nat)
    {course : Course R} {state : RunState J R X Y} (follows : course.Follows told)
    (telling : state.workspace.Telling true told) :
    (iterations problem settings observer threshold remaining course state).2.printed =
      state.printed ++
        (Turn.consulted (turns problem settings observer threshold remaining course state)).flatMap
          (Run.spoken observer settings.interval) := by
  induction remaining generalizing told course state with
  | zero => exact (List.append_nil _).symm
  | succ remaining ih =>
      unfold iterations turns
      cases ended : course.isOver threshold with
      | true => exact (List.append_nil _).symm
      | false =>
          simp only [Bool.false_eq_true, if_false]
          have turned :
              Turned settings observer course state (course.turn problem settings threshold state)
                (iterate problem settings observer threshold course state) :=
            iterate_turned observer threshold course state
          have printed :
              (iterate problem settings observer threshold course state).2.printed = _ :=
            printed_iterate appends threshold follows telling
          obtain ⟨more, -, going, goes⟩ := turned.follows keeps ended follows (kept ▸ telling)
          rw [Run.bind_apply, Turn.consulted_cons, List.flatMap_append, ← List.append_assoc,
            ← printed]
          cases ran : iterate problem settings observer threshold course state with
          | mk outcome after =>
              rw [ran] at going goes
              cases outcome with
              | error fault => exact (List.append_nil _).symm
              | ok next => exact ih (goes next rfl) (kept ▸ going)

end Observed

/-! ### Whole solves -/

def Run.remarksAt (observer : Run J R X Y Bool) (asked : List (RunState J R X Y)) :
    Nat → List (Line R)
  | 0 => []
  | iterations + 1 => asked[iterations]?.elim [] (Run.remarks observer)

/-- The table of a solve, with what the observer adds to it. -/
def Snapshot.table (interval : Nat) (stats : Snapshot R) (completed : Nat)
    (remarks : Nat → List (Line R)) : List (Line R) :=
  (List.range (completed + 1)).flatMap fun iterations =>
    stats.sample interval iterations ++ remarks iterations

private theorem of_solve_eq_ok {before final : RunState J R X Y} {report : Report R}
    (nonzero : isZero (VectorArithmetic.norm problem.rightHandSide : R) = false)
    (returned : solve problem settings observer before = (.ok report, final)) :
    ∃ opening state last between ended,
      openCourse problem settings (VectorArithmetic.norm problem.rightHandSide)
          (problem.entered settings before) = (.ok opening, state) ∧
        iterations problem settings observer opening.threshold settings.budget opening.course
          state = (.ok last, between) ∧
        closeCourse problem settings opening last between = (.ok report, ended) ∧
        final = ended.released ∧
        consultations problem settings observer before =
          Turn.consulted (turns problem settings observer opening.threshold settings.budget
            opening.course state) := by
  cases free : before.workspace.busy with
  | true =>
      rw [solve_of_busy free] at returned
      cases returned
  | false =>
      rw [solve_of_nonzero free (announce_held problem settings before) nonzero] at returned
      obtain ⟨answered, rfl⟩ := Prod.mk.inj returned
      cases solved : solveNonzero problem settings observer
          (VectorArithmetic.norm problem.rightHandSide) (problem.entered settings before) with
      | mk outcome ended =>
          rw [solved] at answered
          cases answered
          obtain ⟨opening, state, opens, solved⟩ := Run.of_bind_eq_ok solved
          obtain ⟨last, between, ran, closed⟩ := Run.of_bind_eq_ok solved
          refine ⟨opening, state, last, between, ended, opens, ran, closed, rfl, ?_⟩
          unfold consultations solveTurns
          simp only [free, nonzero, Bool.or_self, Bool.false_eq_true, if_false, opens]

/-- The pieces of a list, told by their places. -/
theorem flatMap_eq_range {A B : Type} {list : List A} {piece : A → List B} {told : Nat → List B}
    (same : ∀ place item, list[place]? = some item → piece item = told place) :
    list.flatMap piece = (List.range list.length).flatMap told := by
  rw [List.flatMap_def, List.flatMap_def]
  congr 1
  apply List.ext_getElem (by simp)
  intro place within _
  rw [List.length_map] at within
  rw [List.getElem_map, List.getElem_map, List.getElem_range]
  exact same place _ (List.getElem?_eq_getElem within)

section Told

variable {told : List (Progress R)} {asked : List (RunState J R X Y)} {start : Progress R}
variable (chronicle : Chronicle true [start] asked told)
include chronicle

omit [VectorArithmetic R X] [VectorArithmetic R Y]

/-- The line that an observer has just been shown is the one that is told at the end. -/
theorem Chronicle.spoken {index : Nat} {state : RunState J R X Y}
    (found : asked[index]? = some state) (interval : Nat) :
    Run.spoken observer interval state =
      (Recorder.telling true told).toSnapshot.sample interval (index + 1) ++
        Run.remarks observer state := by
  have count : state.workspace.stats.iterations.toNat = index + 1 :=
    congrArg Int.toNat (chronicle.midway found).iterations
  obtain ⟨within, _⟩ := List.getElem?_eq_some_iff.mp found
  have length := chronicle.length
  rw [List.length_singleton] at length
  obtain ⟨progress, reached⟩ : ∃ progress, told[index + 1]? = some progress :=
    ⟨_, List.getElem?_eq_getElem (by omega)⟩
  have earlier : (told.take (index + 2))[index + 1]? = some progress := by
    rw [List.getElem?_take_of_lt (by omega), reached]
  rw [Run.spoken, count, chronicle.stats_eq found, Recorder.sample_telling interval earlier,
    Recorder.sample_telling interval reached]

private theorem Chronicle.table (interval : Nat) :
    (Recorder.telling true told).toSnapshot.table interval asked.length
        (Run.remarksAt observer asked) =
      (Recorder.telling true told).toSnapshot.sample interval 0 ++
        asked.flatMap (Run.spoken observer interval) := by
  unfold Snapshot.table
  rw [List.range_succ_eq_map, List.flatMap_cons, List.flatMap_map, Run.remarksAt, List.append_nil]
  congr 1
  refine (flatMap_eq_range fun index state found => ?_).symm
  rw [chronicle.spoken found, Run.remarksAt, found]
  rfl

end Told

section Printed

variable {before final : RunState J R X Y} {report : Report R}

/-- The lines of a solve that returns with its history, for a right-hand side that is not zero. -/
theorem printed_solve (keeps : Run.KeepsFrame observer) (appends : Run.Appends observer)
    (kept : settings.keepsHistory = true)
    (nonzero : isZero (VectorArithmetic.norm problem.rightHandSide : R) = false)
    (returned : solve problem settings observer before = (.ok report, final)) :
    let asked := consultations problem settings observer before
    let table :=
      report.stats.table settings.interval asked.length (Run.remarksAt observer asked)
    final.printed = before.printed ++
      if 0 < settings.interval then
        .banner problem.rows problem.columns :: .header :: (table ++ [.blank])
      else table := by
  intro asked table
  obtain ⟨opening, state, last, between, ended, opens, ran, closed, rfl, calls⟩ :=
    of_solve_eq_ok nonzero returned
  have started : state.printed = _ := printed_openCourse opens
  obtain ⟨start, rfl, -, telling⟩ := telling_of_openCourse opens
  rw [kept] at telling
  have follows : (start.opening settings).course.Follows [start] :=
    { iterations := rfl, residual := rfl, progress := fun _ => rfl }
  have iterated : (iterations problem settings observer (start.opening settings).threshold
      settings.budget (start.opening settings).course state).2.printed = _ :=
    printed_iterations appends keeps kept _ _ follows telling
  rw [← calls, ran] at iterated
  have unfolds := iterations_unfold problem settings observer (start.opening settings).threshold
    settings.budget (start.opening settings).course state
  rw [ran] at unfolds
  obtain ⟨told, chronicle, ending, -⟩ := unfolds.chronicle keeps follows (kept ▸ telling)
  rw [← calls, kept] at chronicle
  rw [closeCourse_eq] at closed
  cases closed
  have recorder : between.workspace.recorder = .telling true told := kept ▸ ending.recorder
  have tells : table = (Recorder.telling true told).toSnapshot.table settings.interval asked.length
      (Run.remarksAt observer asked) := by
    rw [← recorder]
    rfl
  have first : told[0]? = some start := by
    obtain ⟨rest, rfl⟩ := chronicle.begins
    rfl
  rw [tells, chronicle.table, Recorder.sample_telling settings.interval first]
  show between.printed ++ _ = _
  rw [show between.printed = _ from iterated, started, Problem.entered]
  dsimp only
  by_cases shown : 0 < settings.interval
  · have due : isDue settings.interval 0 = true := isDue_iff.mpr ⟨shown, Nat.dvd_zero _⟩
    simp only [if_pos shown, due, if_true, List.append_assoc, List.cons_append, List.nil_append]
    rfl
  · have silent : isDue settings.interval 0 = false :=
      eq_false_of_ne_true fun due => shown (isDue_iff.mp due).1
    simp only [if_neg shown, silent, Bool.false_eq_true, if_false, List.append_nil,
      List.nil_append]

theorem printed_solve_zero
    (zero : isZero (VectorArithmetic.norm problem.rightHandSide : R) = true)
    (returned : solve problem settings observer before = (.ok report, final)) :
    final.printed = before.printed ++
      if 0 < settings.interval then [.banner problem.rows problem.columns] else [] := by
  cases free : before.workspace.busy with
  | true =>
      rw [solve_of_busy free] at returned
      cases returned
  | false =>
      rw [solve_of_zero free (announce_held problem settings before) zero, solveZero_apply]
        at returned
      cases returned
      rfl

end Printed

end ConjugateResidual
