import ConjugateResidual.Proofs.Course.Coupling

/-!
Two runs that keep step, in any arithmetic. At every moment, also at a fault, the two states have
all vectors in common; a `bond` relates what surrounds the vectors, and the preconditioned copies
are in a relation of their own. The runs need not be of one computation: they may weigh vectors
differently, as long as the answers agree.
-/

namespace ConjugateResidual

open Arithmetic

variable {J R X Y A B : Type}

section Judgement

variable (bond : Surroundings J R → Surroundings J R → Prop)
variable (copies : Option Y → Option Y → Prop)

structure RunState.Together (state state' : RunState J R X Y) : Prop where
  bonded : bond state.surroundings state'.surroundings
  vectors : state'.vectors = state.vectors
  copies : copies state.workspace.weighted? state'.workspace.weighted?

namespace Run

structure SameEnd (gives : A → Prop) (post : Vectors X Y → Prop)
    (result result' : Except (Fault R) A × RunState J R X Y) : Prop where
  outcome : result'.1 = result.1
  together : result.2.Together bond copies result'.2
  given : ∀ value, result.1 = .ok value → gives value ∧ post result.2.vectors

def Lockstep (pre : Vectors X Y → Prop) (run run' : Run J R X Y A) (gives : A → Prop)
    (post : Vectors X Y → Prop) : Prop :=
  ∀ state state', state.Together bond copies state' → pre state.vectors →
    SameEnd bond copies gives post (run state) (run' state')

variable {bond copies} {pre mid post : Vectors X Y → Prop} {mids : A → Prop} {gives : B → Prop}

namespace Lockstep

theorem bind {run run' : Run J R X Y A} {next next' : A → Run J R X Y B}
    (first : Lockstep bond copies pre run run' mids mid)
    (rest : ∀ value, mids value →
      Lockstep bond copies mid (next value) (next' value) gives post) :
    Lockstep bond copies pre (run >>= next) (run' >>= next') gives post := by
  intro state state' together starts
  obtain ⟨same, between, given⟩ := first state state' together starts
  rw [Run.bind_apply, Run.bind_apply]
  generalize run state = result at same between given ⊢
  generalize run' state' = result' at same between ⊢
  obtain ⟨outcome, after⟩ := result
  obtain ⟨outcome', after'⟩ := result'
  cases same
  cases outcome with
  | error fault =>
      exact { outcome := rfl, together := between, given := fun _ returned => by cases returned }
  | ok value =>
      obtain ⟨kind, held⟩ := given value rfl
      exact rest value kind after after' between held

theorem pure {value : B} (given : gives value) :
    Lockstep bond copies pre (pure value) (pure value) gives pre := by
  intro state state' together starts
  refine { outcome := rfl, together, given := ?_ }
  intro other returned
  cases returned
  exact ⟨given, starts⟩

theorem ofExcept {outcome : Except (Fault R) B}
    (given : ∀ value, outcome = .ok value → gives value) :
    Lockstep bond copies pre (ofExcept outcome) (ofExcept outcome) gives pre :=
  fun _ _ together starts =>
    { outcome := rfl, together, given := fun value returned => ⟨given value returned, starts⟩ }

theorem perform {reply : Reply J R B} (tolerated : Tolerates bond reply.journal)
    (given : ∀ value, reply.outcome = .ok value → gives value) :
    Lockstep bond copies pre (perform reply) (perform reply) gives pre :=
  fun _ _ together starts =>
    { outcome := rfl
      together := { together with bonded := tolerated _ _ together.bonded }
      given := fun value returned => ⟨given value returned, starts⟩ }

theorem bind_workspace {next next' : Workspace R X Y → Run J R X Y B}
    (rest : ∀ workspace workspace', workspace.vectors = workspace'.vectors →
      pre workspace.vectors →
      Lockstep bond copies pre (next workspace) (next' workspace') gives post) :
    Lockstep bond copies pre (Run.workspace >>= next) (Run.workspace >>= next') gives post :=
  fun state state' together starts =>
    rest state.workspace state'.workspace together.vectors.symm starts state state' together starts

/-- A change of vectors to values that both runs have computed. -/
theorem set {change : Workspace R X Y → Workspace R X Y} (act : Vectors X Y → Vectors X Y)
    (acts : ∀ workspace, (change workspace).vectors = act workspace.vectors ∧
      (change workspace).frame = workspace.frame ∧
      (change workspace).weighted? = workspace.weighted?)
    (kept : ∀ vectors, pre vectors → post (act vectors)) :
    Lockstep (J := J) bond copies pre (Run.update change) (Run.update change) (fun _ => True)
      post := by
  intro state state' together starts
  obtain ⟨vectors, frame, copy⟩ := acts state.workspace
  obtain ⟨vectors', frame', copy'⟩ := acts state'.workspace
  refine { outcome := rfl, together := ?_, given := ?_ }
  · refine { bonded := ?_, vectors := ?_, copies := ?_ }
    · change bond { toTrail := state.toTrail, toFrame := (change state.workspace).frame }
        { toTrail := state'.toTrail, toFrame := (change state'.workspace).frame }
      rw [frame, frame']
      exact together.bonded
    · change (change state'.workspace).vectors = (change state.workspace).vectors
      rw [vectors, vectors']
      exact congrArg act together.vectors
    · change copies (change state.workspace).weighted? (change state'.workspace).weighted?
      rw [copy, copy']
      exact together.copies
  · rintro _ -
    refine ⟨trivial, ?_⟩
    change post (change state.workspace).vectors
    rw [vectors]
    exact kept _ starts

/-- A change after which the vectors are still what they were known to be. -/
theorem keep {change : Workspace R X Y → Workspace R X Y} (act : Vectors X Y → Vectors X Y)
    (acts : ∀ workspace, (change workspace).vectors = act workspace.vectors ∧
      (change workspace).frame = workspace.frame ∧
      (change workspace).weighted? = workspace.weighted?)
    (kept : ∀ vectors, pre vectors → pre (act vectors)) :
    Lockstep (J := J) bond copies pre (Run.update change) (Run.update change) (fun _ => True) pre :=
  set act acts kept

theorem copy {weighted : Y} (related : copies (some weighted) (some weighted)) :
    Lockstep (J := J) (X := X) bond copies pre
      (Run.update ({ · with weighted? := some weighted }))
      (Run.update ({ · with weighted? := some weighted })) (fun _ => True) pre :=
  fun _ _ together starts =>
    { outcome := rfl, together := { together with copies := related }
      given := fun _ _ => ⟨trivial, starts⟩ }

theorem print (alike : RecordsAlike bond) (line : Line R) :
    Lockstep (J := J) (X := X) (Y := Y) bond copies pre (Run.print line) (Run.print line)
      (fun _ => True) pre :=
  fun _ _ together starts =>
    { outcome := rfl, together := { together with bonded := alike.print line together.bonded }
      given := fun _ _ => ⟨trivial, starts⟩ }

theorem record (alike : RecordsAlike bond) (change : Recorder R → Recorder R) :
    Lockstep (J := J) (X := X) (Y := Y) bond copies pre
      (Run.update fun workspace => { workspace with recorder := change workspace.recorder })
      (Run.update fun workspace => { workspace with recorder := change workspace.recorder })
      (fun _ => True) pre :=
  fun _ _ together starts =>
    { outcome := rfl, together := { together with bonded := alike.record change together.bonded }
      given := fun _ _ => ⟨trivial, starts⟩ }

/-- Runs that keep step from any vectors, whatever the copies, are coupled. -/
theorem coupled {run : Run J R X Y B} (always : ∀ vectors, pre vectors)
    (lockstep : Lockstep bond (fun _ _ => True) pre run run gives post) :
    Coupled bond Eq run run Eq := by
  intro state state' bonded same
  obtain ⟨outcome, together, -⟩ := lockstep state state'
    { bonded, vectors := same.symm, copies := trivial } (always _)
  generalize run state = result at outcome together ⊢
  generalize run state' = result' at outcome together ⊢
  obtain ⟨answer, after⟩ := result
  obtain ⟨answer', after'⟩ := result'
  cases outcome
  cases answer with
  | error fault => exact .failed together.bonded
  | ok value => exact .returned together.bonded together.vectors.symm

end Lockstep

end Run

end Judgement

end ConjugateResidual
