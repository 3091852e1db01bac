import ConjugateResidual.Workspace

/-!
Computations of a solve. A `Reply` is the answer of an operator together with what it notes in the
journal; a `Run` works on a workspace, prints progress and may fail, and what it did before a
failure stays done.
-/

namespace ConjugateResidual

/-- An outcome with the notes made on the way to it. -/
structure Reply (J R A : Type) where
  journal : List J
  outcome : Except (Fault R) A

namespace Reply

variable {J R A B : Type}

def ofExcept (outcome : Except (Fault R) A) : Reply J R A :=
  { journal := [], outcome }

def fail (fault : Fault R) : Reply J R A :=
  ofExcept (.error fault)

def note (entry : J) : Reply J R Unit :=
  { journal := [entry], outcome := .ok () }

def andThen (reply : Reply J R A) (next : A → Reply J R B) : Reply J R B :=
  match reply.outcome with
  | .error fault => { journal := reply.journal, outcome := .error fault }
  | .ok value =>
      { journal := reply.journal ++ (next value).journal, outcome := (next value).outcome }

instance : Monad (Reply J R) where
  pure value := ofExcept (.ok value)
  bind := andThen

theorem journal_pure (value : A) : (pure value : Reply J R A).journal = [] :=
  rfl

theorem outcome_pure (value : A) : (pure value : Reply J R A).outcome = .ok value :=
  rfl

theorem andThen_assoc {C : Type} (reply : Reply J R A) (next : A → Reply J R B)
    (last : B → Reply J R C) :
    (reply.andThen next).andThen last = reply.andThen fun value => (next value).andThen last := by
  obtain ⟨journal, outcome⟩ := reply
  cases outcome with
  | error fault => rfl
  | ok value =>
      cases later : (next value).outcome with
      | error fault => simp [andThen, later]
      | ok result => simp [andThen, later, List.append_assoc]

theorem of_bind_eq_ok {reply : Reply J R A} {next : A → Reply J R B} {result : B}
    (answered : (reply >>= next).outcome = .ok result) :
    ∃ value, reply.outcome = .ok value ∧ (next value).outcome = .ok result := by
  obtain ⟨journal, outcome⟩ := reply
  cases outcome with
  | error fault => cases answered
  | ok value => exact ⟨value, rfl, answered⟩

theorem bind_of_ok {reply : Reply J R A} {value : A} (answered : reply.outcome = .ok value)
    (next : A → Reply J R B) :
    reply >>= next =
      { journal := reply.journal ++ (next value).journal, outcome := (next value).outcome } := by
  obtain ⟨journal, outcome⟩ := reply
  cases answered
  rfl

theorem bind_of_error {reply : Reply J R A} {fault : Fault R}
    (failed : reply.outcome = .error fault) (next : A → Reply J R B) :
    reply >>= next = { journal := reply.journal, outcome := .error fault } := by
  obtain ⟨journal, outcome⟩ := reply
  cases failed
  rfl

theorem outcome_bind_of_ok {reply : Reply J R A} {value : A} (answered : reply.outcome = .ok value)
    (next : A → Reply J R B) : (reply >>= next).outcome = (next value).outcome := by
  rw [bind_of_ok answered]

theorem ofExcept_ok (value : A) : (ofExcept (.ok value) : Reply J R A) = pure value :=
  rfl

/-- What notes nothing adds nothing to the journal. -/
theorem journal_bind_of_silent {reply : Reply J R A} {next : A → Reply J R B}
    (silent : ∀ value, (next value).journal = []) : (reply >>= next).journal = reply.journal := by
  cases answered : reply.outcome with
  | error fault => rw [bind_of_error answered]
  | ok value => rw [bind_of_ok answered, silent, List.append_nil]

instance : LawfulMonad (Reply J R) :=
  LawfulMonad.mk' _
    (fun reply => by
      obtain ⟨journal, outcome⟩ := reply
      cases outcome with
      | error fault => rfl
      | ok value => simp [Functor.map, andThen, ofExcept])
    (fun value next => by simp [pure, bind, andThen, ofExcept])
    (fun reply next last => andThen_assoc reply next last)

end Reply

inductive Line (R : Type) where
  | banner (rows columns : Nat)
  | header
  | progress (iterations : Nat) (optimality residual : R)
  | blank

/-- What a run leaves besides the workspace. -/
structure Trail (J R : Type) where
  printed : List (Line R)
  journal : List J

structure RunState (J R X Y : Type) extends Trail J R where
  workspace : Workspace R X Y

abbrev Run (J R X Y : Type) : Type → Type :=
  ExceptT (Fault R) (StateM (RunState J R X Y))

namespace Run

variable {J R X Y A : Type}

def ofExcept (outcome : Except (Fault R) A) : Run J R X Y A :=
  fun state => (outcome, state)

def workspace : Run J R X Y (Workspace R X Y) :=
  fun state => (.ok state.workspace, state)

def update (change : Workspace R X Y → Workspace R X Y) : Run J R X Y Unit :=
  fun state => (.ok (), { state with workspace := change state.workspace })

def print (line : Line R) : Run J R X Y Unit :=
  fun state => (.ok (), { state with printed := state.printed ++ [line] })

def perform (reply : Reply J R A) : Run J R X Y A :=
  fun state => (reply.outcome, { state with journal := state.journal ++ reply.journal })

/-- Runs a computation as the only holder of the workspace. The workspace is free afterwards,
however the computation ends. -/
def holding (body : Run J R X Y A) : Run J R X Y A :=
  fun state =>
    match state.workspace.acquire with
    | .error fault => (.error fault, state)
    | .ok held =>
        let (outcome, final) := body { state with workspace := held }
        (outcome, { final with workspace := final.workspace.release })

theorem holding_of_busy {body : Run J R X Y A} {state : RunState J R X Y}
    (held : state.workspace.busy = true) : holding body state = (.error .busy, state) := by
  simp [holding, Workspace.acquire, held]

theorem busy_holding (body : Run J R X Y A) (state : RunState J R X Y) :
    (holding body state).2.workspace.busy = state.workspace.busy := by
  unfold holding Workspace.acquire
  cases free : state.workspace.busy with
  | true => exact free
  | false => rfl

/-! ### What the steps of a run do to its state -/

variable {B : Type}

theorem bind_of_ok {run : Run J R X Y A} {state after : RunState J R X Y} {value : A}
    (ran : run state = (.ok value, after)) (next : A → Run J R X Y B) :
    (run >>= next) state = next value after := by
  change ExceptT.bindCont next (run state).1 (run state).2 = next value after
  rw [ran]
  rfl

theorem bind_of_error {run : Run J R X Y A} {state after : RunState J R X Y} {fault : Fault R}
    (failed : run state = (.error fault, after)) (next : A → Run J R X Y B) :
    (run >>= next) state = (.error fault, after) := by
  change ExceptT.bindCont next (run state).1 (run state).2 = (.error fault, after)
  rw [failed]
  rfl

theorem bind_apply (run : Run J R X Y A) (next : A → Run J R X Y B) (state : RunState J R X Y) :
    (run >>= next) state =
      match run state with
      | (.ok value, after) => next value after
      | (.error fault, after) => (.error fault, after) := by
  cases ran : run state with
  | mk outcome after =>
      cases outcome with
      | error fault => exact bind_of_error ran next
      | ok value => exact bind_of_ok ran next

theorem of_bind_eq_ok {run : Run J R X Y A} {next : A → Run J R X Y B}
    {state after : RunState J R X Y} {value : B}
    (ran : (run >>= next) state = (.ok value, after)) :
    ∃ first between, run state = (.ok first, between) ∧
      next first between = (.ok value, after) := by
  cases outcome : run state with
  | mk result between =>
      cases result with
      | error fault =>
          rw [bind_of_error outcome] at ran
          cases ran
      | ok first =>
          rw [bind_of_ok outcome] at ran
          exact ⟨first, between, rfl, ran⟩

theorem pure_apply (value : A) (state : RunState J R X Y) :
    (pure value : Run J R X Y A) state = (.ok value, state) :=
  rfl

theorem ofExcept_apply (outcome : Except (Fault R) A) (state : RunState J R X Y) :
    ofExcept outcome state = (outcome, state) :=
  rfl

theorem of_ofExcept_eq {outcome : Except (Fault R) A} {state after : RunState J R X Y} {value : A}
    (ran : ofExcept outcome state = (.ok value, after)) : outcome = .ok value ∧ state = after := by
  rw [ofExcept_apply] at ran
  cases ran
  exact ⟨rfl, rfl⟩

theorem workspace_apply (state : RunState J R X Y) :
    workspace state = (.ok state.workspace, state) :=
  rfl

theorem update_apply (change : Workspace R X Y → Workspace R X Y) (state : RunState J R X Y) :
    update change state = (.ok (), { state with workspace := change state.workspace }) :=
  rfl

theorem print_apply (line : Line R) (state : RunState J R X Y) :
    print line state = (.ok (), { state with printed := state.printed ++ [line] }) :=
  rfl

theorem perform_apply (reply : Reply J R A) (state : RunState J R X Y) :
    perform reply state =
      (reply.outcome, { state with journal := state.journal ++ reply.journal }) :=
  rfl

/-- A computation that has a workspace of its own and shares the printed lines and the journal. -/
def onTrail (body : Trail J R → Except (Fault R) A × Trail J R) : Run J R X Y A :=
  fun state =>
    let (outcome, trail) := body state.toTrail
    (outcome, { state with toTrail := trail })

end Run

end ConjugateResidual
