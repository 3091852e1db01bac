import ConjugateResidual.Proofs.Reuse
import ConjugateResidual.Proofs.Exact.Termination
import ConjugateResidual.Proofs.Machine.Stored

/-!
A preconditioner that gives every vector back as it is. The solve without a preconditioner works on
the vectors themselves where the other one works on a copy of its own; who does not look at the copy
and does not hear of the applications cannot tell the two apart.
-/

namespace ConjugateResidual

open Arithmetic

variable {J R X Y A : Type}

section Definitions

variable [Arithmetic R] [VectorArithmetic R Y]

/-- A preconditioner that changes none of the vectors that it may be applied to, and of which
nothing is heard. These vectors make up a space with what the operator answers and its updates. -/
structure Problem.Neutral (space : Y → Prop) (heard : J → Bool) (problem : Problem J R X Y) :
    Prop where
  starts : space problem.rightHandSide
  lands : ∀ vector answer, (problem.forward vector).outcome = .ok answer → space answer
  closed : ∀ {ratio : R} {source target result : Y}, space source → space target →
    VectorArithmetic.combine 1 source ratio target = .ok result → space result
  unchanged : ∀ weight ∈ problem.weight?, ∀ vector, space vector →
    (weight.apply vector).outcome = .ok vector
  unheard : ∀ weight ∈ problem.weight?, ∀ vector, space vector →
    (weight.apply vector).journal.filter heard = []

end Definitions

/-- An observer that leaves a held workspace alone. What it answers, prints and notes depends
neither on the preconditioned copy nor on what is not heard. -/
structure Run.Deaf (heard : J → Bool) (observer : Run J R X Y Bool) : Prop where
  respects : Respects observer
  deaf : ∀ state state' : RunState J R X Y, state.workspace.busy = true →
    state'.printed = state.printed → state'.journal.filter heard = state.journal.filter heard →
    state'.workspace.shown = state.workspace.shown →
      (observer state').1 = (observer state).1 ∧
        (observer state').2.printed = (observer state).2.printed ∧
        (observer state').2.journal.filter heard = (observer state).2.journal.filter heard

def Run.Silent (foreign : J → Bool) (run : Run J R X Y A) : Prop :=
  ∀ state, (run state).2.journal.filter foreign = state.journal.filter foreign

/-- The end of a solve with a preconditioner beside the end of the same solve without one. The
former has a copy of its own; the latter still has what the workspace had before. -/
structure AsPlain (heard : J → Bool) (mode? : Option Mode) (copy? : Option Y)
    (plain weighted : Except (Fault R) (Report R) × RunState J R X Y) : Prop where
  outcome : weighted.1 = plain.1.map ({ · with mode? })
  bare : ∀ report, plain.1 = .ok report → report.mode? = none
  printed : weighted.2.printed = plain.2.printed
  heard : weighted.2.journal.filter heard = plain.2.journal.filter heard
  shown : weighted.2.workspace.shown = plain.2.workspace.shown
  unallocated : plain.2.workspace.weighted? = copy?
  allocated : ∀ report, plain.1 = .ok report → mode?.isSome = true →
    weighted.2.workspace.weighted?.isSome = true

/-! ### What the two solves have in common -/

structure Surroundings.Heard (heard : J → Bool) (around around' : Surroundings J R) : Prop where
  printed : around'.printed = around.printed
  journal : around'.journal.filter heard = around.journal.filter heard
  frame : around'.toFrame = around.toFrame
  busy : around.busy = true

def OwnCopy (copy? : Option Y) (weighs : Bool) (own own' : Option Y) : Prop :=
  own = copy? ∧ (weighs = true → own'.isSome = true)

variable {heard : J → Bool} {copy? : Option Y} {weighs : Bool}

private theorem recordsAlike_heard : RecordsAlike (Surroundings.Heard (R := R) heard) := by
  refine { recorder := ?_, print := ?_, record := ?_ }
  · intro around around' bonded
    exact congrArg Frame.recorder bonded.frame
  · intro line around around' bonded
    exact { bonded with printed := congrArg (· ++ [line]) bonded.printed }
  · intro change around around' bonded
    exact { bonded with
      frame := congrArg (fun frame : Frame R => { frame with recorder := change frame.recorder })
        bonded.frame }

private theorem tolerates_heard (notes : List J) :
    Tolerates (Surroundings.Heard (R := R) heard) notes := by
  intro around around' bonded
  refine { bonded with journal := ?_ }
  change (around'.journal ++ notes).filter heard = (around.journal ++ notes).filter heard
  rw [List.filter_append, List.filter_append, bonded.journal]

namespace Problem.Neutral

variable [Arithmetic R] [VectorArithmetic R Y] {space : Y → Prop} {problem : Problem J R X Y}

private theorem weigh_lockstep (neutral : problem.Neutral space heard) {vector : Y}
    (member : space vector)
    {pre : Vectors X Y → Prop} :
    Run.Lockstep (Surroundings.Heard heard) (OwnCopy copy? problem.weight?.isSome) pre
      (problem.plain.weigh vector) (problem.weigh vector) (fun _ => True) pre := by
  intro state state' together starts
  rw [show problem.plain.weigh vector state = (.ok vector, state) from rfl]
  cases present : problem.weight? with
  | none =>
      have passes : problem.weigh vector state' = (.ok vector, state') := by
        unfold Problem.weigh
        rw [present]
        rfl
      rw [present] at together
      rw [passes]
      exact { outcome := rfl, together, given := fun _ _ => ⟨trivial, starts⟩ }
  | some weight =>
      have answered : Run.perform (weight.apply vector) state' =
          (.ok vector,
            { state' with journal := state'.journal ++ (weight.apply vector).journal }) := by
        rw [Run.perform_apply, neutral.unchanged weight present vector member]
      have copies : problem.weigh vector state' =
          (.ok vector,
            { state' with
              journal := state'.journal ++ (weight.apply vector).journal
              workspace := { state'.workspace with weighted? := some vector } }) := by
        unfold Problem.weigh
        rw [present]
        dsimp only
        rw [Run.bind_of_ok answered]
        rfl
      rw [copies]
      refine { outcome := rfl, together := ?_, given := fun _ _ => ⟨trivial, starts⟩ }
      refine { vectors := together.vectors, copies := ⟨together.copies.1, fun _ => rfl⟩
               bonded := { together.bonded with journal := ?_ } }
      change (state'.journal ++ (weight.apply vector).journal).filter heard =
        state.journal.filter heard
      rw [List.filter_append, neutral.unheard weight present vector member, List.append_nil]
      exact together.bonded.journal

theorem paired (neutral : problem.Neutral space heard) :
    problem.plain.Paired (Surroundings.Heard heard) (OwnCopy copy? problem.weight?.isSome) space
      problem :=
  { rightHandSide := rfl, forward := rfl, adjoint := rfl
    forwardNotes := fun _ => tolerates_heard _
    adjointNotes := fun _ => tolerates_heard _
    weigh := fun _ member _ => neutral.weigh_lockstep member
    starts := neutral.starts, lands := neutral.lands, closed := neutral.closed }

end Problem.Neutral

namespace Run

variable {observer : Run J R X Y Bool}

theorem Respects.noting (respects : Respects observer) (view : Workspace R X Y → List J) :
    Respects (Run.noting view observer) := by
  intro state busy
  rw [Run.noting_apply]
  exact respects _ busy

/-- The observer of the plain solve is shown the whole workspace. The other one is shown its own
with the copy put back. -/
theorem Deaf.lockstep (deaf : Deaf heard observer) (view : Workspace R X Y → List J)
    {pre : Vectors X Y → Prop} :
    Lockstep (Surroundings.Heard heard) (OwnCopy copy? weighs) pre (Run.noting view observer)
      (Run.noting (fun workspace => view { workspace with weighted? := copy? }) observer)
      (fun _ => True) pre := by
  refine (deaf.respects.noting _).lockstep (deaf.respects.noting _) fun state state' together => ?_
  have frame := together.bonded.frame
  have shown : state'.workspace.shown = state.workspace.shown :=
    Workspace.shown_eq frame together.vectors
  have restored : { state'.workspace with weighted? := copy? } = state.workspace := by
    have own : state.workspace = { state.workspace.shown with weighted? := copy? } := by
      rw [← together.copies.1]
      rfl
    rw [own, ← shown]
    rfl
  have noted : (state'.journal ++ view state.workspace).filter heard =
      (state.journal ++ view state.workspace).filter heard := by
    rw [List.filter_append, List.filter_append]
    exact congrArg (· ++ (view state.workspace).filter heard) together.bonded.journal
  rw [Run.noting_apply, Run.noting_apply, restored]
  obtain ⟨answer, printed, journal⟩ := deaf.deaf
    { state with journal := state.journal ++ view state.workspace }
    { state' with journal := state'.journal ++ view state.workspace } together.bonded.busy
    together.bonded.printed noted shown
  refine ⟨together.bonded.busy, (congrArg Frame.busy frame).trans together.bonded.busy, answer, ?_⟩
  exact { printed, journal, frame, busy := together.bonded.busy }

end Run

/-! ### Whole solves -/

theorem AsPlain.failed {mode? : Option Mode} {fault : Fault R} {after after' : RunState J R X Y}
    (printed : after'.printed = after.printed)
    (journal : after'.journal.filter heard = after.journal.filter heard)
    (workspace : after'.workspace = after.workspace) :
    AsPlain heard mode? after.workspace.weighted? (.error fault, after) (.error fault, after') :=
  { outcome := rfl, bare := fun _ returned => by cases returned
    printed, heard := journal, shown := congrArg Workspace.shown workspace, unallocated := rfl
    allocated := fun _ returned => by cases returned }

variable [Arithmetic R] [VectorArithmetic R X] [VectorArithmetic R Y]
variable {space : Y → Prop} {problem : Problem J R X Y} {settings : Settings R}
variable {options : Options R} {plain weighted : Reply J R (Options R × Problem J R X Y)}
variable {observer : Run J R X Y Bool}

omit [Arithmetic R] in
variable (problem) in
private theorem Problem.entered_together {state state' : RunState J R X Y}
    (printed : state'.printed = state.printed)
    (journal : state'.journal.filter heard = state.journal.filter heard)
    (workspace : state'.workspace = state.workspace) :
    (problem.plain.entered settings state).Together (Surroundings.Heard heard)
      (OwnCopy state.workspace.weighted? problem.weight?.isSome)
      (problem.entered settings state') := by
  obtain ⟨trail, _⟩ := state
  obtain ⟨trail', _⟩ := state'
  cases workspace
  refine { bonded := ?_, vectors := rfl, copies := ⟨rfl, fun weighs => ?_⟩ }
  · refine { printed := ?_, journal, frame := rfl, busy := rfl }
    exact congrArg (· ++ if 0 < settings.interval then
      [Line.banner problem.rows problem.columns] else []) printed
  · unfold Problem.entered Problem.prepared
    dsimp only
    rw [if_pos weighs]
    rfl

theorem Problem.Neutral.solve_asPlain (neutral : problem.Neutral space heard)
    (deaf : Run.Deaf heard observer) (view : Workspace R X Y → List J)
    {state state' : RunState J R X Y} (printed : state'.printed = state.printed)
    (journal : state'.journal.filter heard = state.journal.filter heard)
    (workspace : state'.workspace = state.workspace) :
    let copy? := state.workspace.weighted?
    AsPlain heard (problem.weight?.map Weight.mode) copy?
      (solve problem.plain settings (Run.noting view observer) state)
      (solve problem settings
        (Run.noting (fun workspace => view { workspace with weighted? := copy? }) observer)
        state') := by
  intro copy?
  cases busy : state.workspace.busy with
  | true =>
      rw [solve_of_busy busy, solve_of_busy ((congrArg Workspace.busy workspace).trans busy)]
      exact .failed printed journal workspace
  | false =>
      have ends := solve_ends problem.plain settings (Run.noting view observer) state
      obtain ⟨ended, ended', solves, solves', outcome, together⟩ :=
        solve_solvedAlike settings recordsAlike_heard neutral.paired (deaf.lockstep view) busy
          ((congrArg Workspace.busy workspace).trans busy)
          (problem.entered_together printed journal workspace)
      rw [solves] at ends ⊢
      rw [solves']
      have frame := congrArg (fun frame : Frame R => { frame with busy := false })
        together.bonded.frame
      exact
        { outcome, bare := fun report returned => ends.mode_eq returned
          printed := together.bonded.printed, heard := together.bonded.journal
          shown := Workspace.shown_eq frame together.vectors
          unallocated := together.copies.1
          allocated := fun _ _ weighs =>
            together.copies.2 ((Option.isSome_map ..).symm.trans weighs) }

/-- Two prepared problems that an observer who does not hear of the preconditioner cannot tell
apart, neither on a given workspace nor on one of their own. Everything that is shown may be noted;
in the second solve it is noted with the copy that the workspace had before. -/
def Reply.SolvesAsPlain (heard : J → Bool) (mode? : Option Mode)
    (plain weighted : Reply J R (Options R × Problem J R X Y)) : Prop :=
  ∀ (observer : Run J R X Y Bool) (view : Workspace R X Y → List J), Run.Deaf heard observer →
    let noting := Run.noting view observer
    let noting' (copy? : Option Y) :=
      Run.noting (fun workspace => view { workspace with weighted? := copy? }) observer
    (∀ state : RunState J R X Y,
        AsPlain heard mode? state.workspace.weighted? (solveInPlace plain noting state)
          (solveInPlace weighted (noting' state.workspace.weighted?) state)) ∧
      ∀ trail, ∃ ended ended', AsPlain heard mode? none ended ended' ∧
        solveFresh plain noting trail = freshEnd ended ∧
        solveFresh weighted (noting' none) trail = freshEnd ended'

theorem Problem.Neutral.solvesAsPlain (neutral : problem.Neutral space heard)
    (ready : weighted.outcome = .ok (options, problem))
    (ready_plain : plain.outcome = .ok (options, problem.plain))
    (journal : weighted.journal.filter heard = plain.journal.filter heard) :
    plain.SolvesAsPlain heard (problem.weight?.map Weight.mode) weighted := by
  intro observer view deaf noting noting'
  have inPlace : ∀ state : RunState J R X Y,
      AsPlain heard (problem.weight?.map Weight.mode) state.workspace.weighted?
        (solveInPlace plain noting state)
        (solveInPlace weighted (noting' state.workspace.weighted?) state) := by
    intro state
    let entered : RunState J R X Y := { state with journal := state.journal ++ plain.journal }
    let entered' : RunState J R X Y := { state with journal := state.journal ++ weighted.journal }
    have printed : entered'.printed = entered.printed := rfl
    have workspace : entered'.workspace = entered.workspace := rfl
    have noted : entered'.journal.filter heard = entered.journal.filter heard := by
      rw [List.filter_append, List.filter_append, journal]
    rw [solveInPlace_eq ready, solveInPlace_eq ready_plain]
    dsimp only
    rw [show problem.plain.rows = problem.rows from rfl,
      show problem.plain.columns = problem.columns from rfl,
      show problem.plain.field = problem.field from rfl]
    split
    · exact .failed printed noted workspace
    · exact neutral.solve_asPlain deaf view printed noted workspace
  refine ⟨inPlace, fun trail => ?_⟩
  exact ⟨_, _, inPlace { trail with workspace := problem.freshWorkspace },
    solveFresh_eq ready_plain _ _, solveFresh_eq ready _ _⟩

/-! ### What is not noted -/

variable {foreign : J → Bool}

structure Surroundings.Still (foreign : J → Bool) (notes : List J)
    (around around' : Surroundings J R) : Prop where
  same : around' = around
  silent : around.journal.filter foreign = notes

omit [Arithmetic R] in
private theorem recordsAlike_still {notes : List J} :
    RecordsAlike (Surroundings.Still (R := R) foreign notes) := by
  refine { recorder := ?_, print := ?_, record := ?_ }
  · rintro around _ ⟨rfl, _⟩
    rfl
  · rintro line around _ ⟨rfl, silent⟩
    exact ⟨rfl, silent⟩
  · rintro change around _ ⟨rfl, silent⟩
    exact ⟨rfl, silent⟩

omit [Arithmetic R] in
private theorem tolerates_still {notes made : List J} (silent : made.filter foreign = []) :
    Tolerates (Surroundings.Still (R := R) foreign notes) made := by
  rintro _ around ⟨rfl, before⟩
  refine ⟨rfl, ?_⟩
  change (around.journal ++ made).filter foreign = notes
  rw [List.filter_append, silent, List.append_nil]
  exact before

omit [Arithmetic R] [VectorArithmetic R X] [VectorArithmetic R Y] in
private theorem RunState.eq_of_together {bond : Surroundings J R → Surroundings J R → Prop}
    (same : ∀ {around around'}, bond around around' → around' = around)
    {state state' : RunState J R X Y} (together : state.Together bond Eq state') :
    state' = state := by
  have around := same together.bonded
  have trail : state'.toTrail = state.toTrail := congrArg Surroundings.toTrail around
  have workspace : state'.workspace = state.workspace :=
    Workspace.eq_of_parts (congrArg Surroundings.toFrame around) together.vectors together.copies
  obtain ⟨trail, workspace⟩ := state
  cases trail
  cases workspace
  rfl

/-- A solve notes what the operator, the preconditioner and the observer note, and nothing else. -/
theorem solve_silent (forward : ∀ vector, (problem.forward vector).journal.filter foreign = [])
    (adjoint : ∀ vector, (problem.adjoint vector).journal.filter foreign = [])
    (weight : ∀ weight ∈ problem.weight?, ∀ vector,
      (weight.apply vector).journal.filter foreign = [])
    (silent : Run.Silent foreign observer) :
    Run.Silent foreign (solve problem settings observer) := by
  intro state
  cases busy : state.workspace.busy with
  | true => rw [solve_of_busy busy]
  | false =>
      let bond := Surroundings.Still (R := R) foreign (state.journal.filter foreign)
      have tolerated : problem.Tolerated bond :=
        { forward := fun _ => tolerates_still (forward _)
          adjoint := fun _ => tolerates_still (adjoint _)
          weight := fun _ present _ => tolerates_still (weight _ present _) }
      have observes : Run.Lockstep bond Eq (Vectors.ImagesIn fun _ => True) observer observer
          (fun _ => True) (Vectors.ImagesIn fun _ => True) := by
        intro entered entered' together _
        cases RunState.eq_of_together (fun bonded => bonded.same) together
        refine { outcome := rfl, together := ?_, given := fun _ _ => ⟨trivial, trivial, trivial⟩ }
        refine { bonded := ⟨rfl, ?_⟩, vectors := rfl, copies := rfl }
        exact (silent entered).trans together.bonded.silent
      obtain ⟨ended, _, solves, _, _, together⟩ :=
        solve_solvedAlike settings recordsAlike_still (tolerated.paired fun _ => rfl) observes busy
          busy { bonded := ⟨rfl, rfl⟩, vectors := rfl, copies := rfl }
      rw [solves]
      exact together.bonded.silent

/-! ### Requests -/

/-- Over stored vectors a prepared problem has all that is asked of the operator and the updates. -/
theorem Request.neutral {request : Request} {options : Options Float} {problem : MachineProblem}
    {heard : Event → Bool} (ready : request.prepare.outcome = .ok (options, problem))
    (stored : problem.rightHandSide.Stored problem.field problem.rows)
    (unchanged : ∀ weight ∈ problem.weight?, ∀ vector : Tensor,
      vector.Stored problem.field problem.rows →
        (weight.apply vector).outcome = .ok vector ∧
          (weight.apply vector).journal.filter heard = []) :
    problem.Neutral (Tensor.Stored problem.field problem.rows) heard := by
  obtain ⟨design, built, rfl⟩ := request.of_prepare_eq_ok ready
  obtain ⟨checked, _⟩ := Design.of_build_eq_ok built
  obtain ⟨_, supported⟩ := Design.of_checkRightHandSide_eq_ok checked
  exact
    { starts := stored
      lands := fun _ _ applied => LinearOperator.stored_applyForward applied
      closed := fun source target combined => .combine supported source target combined
      unchanged := fun weight present vector member => (unchanged weight present vector member).1
      unheard := fun weight present vector member => (unchanged weight present vector member).2 }

/-- In any arithmetic, and in that of the machine, a preconditioner that gives every vector back as
it is changes nothing but the report's mode and the copy that the workspace has afterwards. Without
a preconditioner there is no copy, and nothing is noted but what the operator and the observer
note. -/
theorem neutral_weight_goes_unnoticed :
    (∀ {J R X Y : Type} [Arithmetic R] [VectorArithmetic R X] [VectorArithmetic R Y]
        (space : Y → Prop) (heard : J → Bool) (options : Options R) (problem : Problem J R X Y)
        (plain weighted : Reply J R (Options R × Problem J R X Y)),
        problem.Neutral space heard →
          weighted.outcome = .ok (options, problem) →
          plain.outcome = .ok (options, problem.plain) →
          weighted.journal.filter heard = plain.journal.filter heard →
            plain.SolvesAsPlain heard (problem.weight?.map Weight.mode) weighted) ∧
      (∀ {J R X Y : Type} [Arithmetic R] [VectorArithmetic R X] [VectorArithmetic R Y]
        (foreign : J → Bool) (problem : Problem J R X Y) (settings : Settings R)
        (observer : Run J R X Y Bool),
        (∀ vector, (problem.forward vector).journal.filter foreign = []) →
          (∀ vector, (problem.adjoint vector).journal.filter foreign = []) →
          Run.Silent foreign observer →
            Run.Silent foreign (solve problem.plain settings observer)) ∧
      ∀ (request : Request) (heard : Event → Bool) (options : Options Float)
        (problem : MachineProblem),
        request.prepare.outcome = .ok (options, problem) →
          problem.rightHandSide.Stored problem.field problem.rows →
          (∀ weight ∈ problem.weight?, ∀ vector : Tensor,
            vector.Stored problem.field problem.rows →
              (weight.apply vector).outcome = .ok vector ∧
                (weight.apply vector).journal.filter heard = []) →
          (∀ size,
            (Preconditioner.build "M" request.weightSource (.text options.mode.name)
              size).journal.filter heard = []) →
            request.plain.prepare.SolvesAsPlain heard (problem.weight?.map Weight.mode)
              request.prepare := by
  refine ⟨?_, ?_, ?_⟩
  · intro J R X Y _ _ _ space heard options problem plain weighted neutral ready ready_plain journal
    exact neutral.solvesAsPlain ready ready_plain journal
  · intro J R X Y _ _ _ foreign problem settings observer forward adjoint silent
    exact solve_silent forward adjoint (fun _ present => by cases present) silent
  · intro request heard options problem ready stored unchanged unheard
    obtain ⟨ready_plain, journal⟩ := Request.prepare_plain unheard ready
    exact (Request.neutral ready stored unchanged).solvesAsPlain ready ready_plain journal

/-! ### One equation in one unknown -/

def Run.attentive (heard : J → Bool)
    (answer : List J → Workspace R X Y → Except (Fault R) Bool) : Run J R X Y Bool :=
  fun state => (answer (state.journal.filter heard) state.workspace.shown, state)

omit [Arithmetic R] [VectorArithmetic R X] [VectorArithmetic R Y] in
private theorem Run.deaf_attentive (answer : List J → Workspace R X Y → Except (Fault R) Bool) :
    Run.Deaf heard (Run.attentive heard answer) :=
  { respects := fun _ _ => rfl
    deaf := fun _ _ _ printed journal shown => by
      unfold Run.attentive
      rw [journal, shown]
      exact ⟨rfl, printed, rfl⟩ }

def Event.isShown (event : Event) : Bool :=
  event.action?.isNone

/-- A preconditioner that notes its applications and gives its argument back. -/
def Preconditioner.echo : Preconditioner :=
  { mode := .solve
    elementType? := none
    function? := some fun operand => do
      Reply.note (.applied .solve operand)
      pure operand }

private theorem Preconditioner.apply_echo {length : Nat} {vector : Tensor}
    (stored : vector.Stored .float64 length) :
    echo.apply .float64 length vector =
      { journal := [.applied .solve vector], outcome := .ok vector } := by
  have echoed : (do
      Reply.note (.applied .solve vector)
      pure vector : Answer Tensor) =
        { journal := [.applied .solve vector], outcome := .ok vector } := rfl
  unfold apply echo
  dsimp only
  rw [echoed, Reply.bind_of_ok rfl, stored.store_eq Entry.convert_float64_convert]
  rfl

def Request.echoed : Request :=
  { Request.unit with weightSource := .preconditioner .echo }

/-- A solve that an observer stops after two iterations, with every workspace it is shown noted. -/
theorem neutral_weight_goes_unnoticed_unit :
    let exact : Problem (List Nat) ℝ (EuclideanSpace ℝ (Fin 1)) (EuclideanSpace ℝ (Fin 1)) :=
      MatrixProblem.unit.toProblem
    let stopping : MachineRun Bool :=
      Run.attentive Event.isShown fun seen _ => .ok (decide (2 ≤ seen.length))
    let noting : MachineRun Bool := Run.noting (fun workspace => [.observed workspace]) stopping
    let noting' : MachineRun Bool :=
      Run.noting (fun workspace => [.observed { workspace with weighted? := none }]) stopping
    Reply.SolvesAsPlain (fun _ => true) (some .multiply) (pure (Options.exact, exact.plain))
        (pure (Options.exact, exact)) ∧
      Run.Silent (fun _ => true) (solve exact.plain (Settings.exact 0 1) neverExit) ∧
      ∃ ended ended', AsPlain Event.isShown (some .solve) none ended ended' ∧
        solveFresh Request.echoed.plain.prepare noting { printed := [], journal := [] } =
          freshEnd ended ∧
        solveFresh Request.echoed.prepare noting' { printed := [], journal := [] } =
          freshEnd ended' := by
  intro exact stopping noting noting'
  obtain ⟨anywhere, silent, onMachine⟩ := neutral_weight_goes_unnoticed
  refine ⟨?_, ?_, ?_⟩
  · refine anywhere (fun _ => True) _ _ exact _ _ ?_ rfl rfl rfl
    refine { starts := trivial, lands := fun _ _ _ => trivial, closed := fun _ _ _ => trivial
             unchanged := ?_, unheard := ?_ }
    · rintro weight ⟨⟩ vector _
      exact congrArg Except.ok (MatrixProblem.weightMap_unit vector)
    · rintro weight ⟨⟩ vector _
      rfl
  · refine silent _ exact _ _ (fun _ => rfl) (fun _ => rfl) fun _ => rfl
  · have like := onMachine Request.echoed Event.isShown _ _ rfl ?_ ?_ fun _ => rfl
    · exact (like stopping (fun workspace => [.observed workspace])
        (Run.deaf_attentive _)).2 { printed := [], journal := [] }
    · refine { elementType := rfl, shape := rfl, entries := rfl, converted := ?_ }
      intro entry member
      exact ⟨.ofReal 1.0, List.mem_singleton.mp member⟩
    · rintro weight ⟨⟩ vector stored
      have applied := Preconditioner.apply_echo stored
      exact ⟨congrArg Reply.outcome applied,
        congrArg (fun reply : Answer Tensor => reply.journal.filter Event.isShown) applied⟩

end ConjugateResidual
