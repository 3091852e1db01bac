import ConjugateResidual.Proofs.Course.Appended
import ConjugateResidual.Proofs.Course.Retold

/-!
What scripted observers do to a solve. They leave the workspace as it is, a solve of their own on it
included; they print behind what has been printed before; and none of them looks at the history, so
each takes the same way whether one is kept or not.
-/

namespace ConjugateResidual

variable {J R X Y A : Type}

/-! ### Observers that note what they are shown -/

theorem keepsFrame_neverExit : Run.KeepsFrame (neverExit : Run J R X Y Bool) :=
  fun _ _ => rfl

theorem Run.Appends.neverExit : Run.Appends (neverExit : Run J R X Y Bool) :=
  .pure false

theorem Run.KeepsFrame.noting {observer : Run J R X Y Bool} (keeps : Run.KeepsFrame observer)
    (view : Workspace R X Y → List J) : Run.KeepsFrame (Run.noting view observer) := by
  intro state busy
  rw [Run.noting_apply]
  exact keeps _ busy

theorem Run.Appends.noting {observer : Run J R X Y Bool} (appends : Run.Appends observer)
    (view : Workspace R X Y → List J) : Run.Appends (Run.noting view observer) :=
  .bind_workspace fun _ => .bind (.perform _) fun _ => appends

/-! ### Runs that overlook the history -/

variable {retelling : Retelling} {pre post : Vectors X Y → Prop} {gives : A → Prop}

/-- The workspace is read on one side, and on the other side as it is retold. -/
theorem Run.Lockstep.bind_retold {next next' : Workspace R X Y → Run J R X Y A}
    (rest : ∀ workspace, workspace.busy = true →
      Run.Lockstep (Surroundings.Retold retelling) Eq pre (next workspace)
        (next' (retelling.workspace workspace)) gives post) :
    Run.Lockstep (Surroundings.Retold retelling) Eq pre (Run.workspace >>= next)
      (Run.workspace >>= next') gives post := by
  intro state state' retold starts
  have workspace := RunState.Retold.workspace retold
  have step := rest state.workspace retold.bonded.busy state state' retold starts
  rw [← workspace] at step
  exact step

/-- A computation on a workspace of its own meets the same lines and notes. -/
theorem Run.Lockstep.onTrail (unspaced : retelling.interval? = none)
    (body : Trail J R → Except (Fault R) A × Trail J R) :
    Run.Lockstep (X := X) (Y := Y) (Surroundings.Retold retelling) Eq pre (Run.onTrail body)
      (Run.onTrail body) (fun _ => True) pre := by
  intro state state' retold starts
  have printed : state'.printed = state.printed := retold.bonded.printed unspaced
  have journal : state'.journal = state.journal := retold.bonded.journal
  have trail : state'.toTrail = state.toTrail := by
    show Trail.mk state'.printed state'.journal = _
    rw [printed, journal]
  unfold Run.onTrail
  rw [trail]
  generalize body state.toTrail = result
  obtain ⟨outcome, after⟩ := result
  refine { outcome := rfl, together := ?_, given := fun _ _ => ⟨trivial, starts⟩ }
  refine { bonded := ?_, vectors := retold.vectors, copies := retold.copies }
  exact { retold.bonded with printed := fun _ => rfl, journal := rfl }

/-- Who keeps step with itself on a workspace without the history overlooks it. -/
theorem Run.Lockstep.overlooks {observer : Run J R X Y Bool}
    (lockstep : Run.Lockstep (Surroundings.Retold .unrecorded) Eq (fun _ => True) observer observer
      (fun _ => True) fun _ => True)
    (respects : Run.Respects observer) : Run.Overlooks observer := by
  intro state busy
  let shown : RunState J R X Y :=
    { state with workspace := Retelling.unrecorded.workspace state.workspace }
  have retold : state.Retold .unrecorded shown :=
    { bonded := { printed := fun _ => rfl, journal := rfl, frame := rfl, busy }
      vectors := rfl, copies := rfl }
  obtain ⟨outcome, together, -⟩ := lockstep state shown retold trivial
  have workspace := RunState.Retold.workspace together
  have printed : (observer shown).2.printed = (observer state).2.printed :=
    together.bonded.printed rfl
  have journal : (observer shown).2.journal = (observer state).2.journal := together.bonded.journal
  have trail : (observer shown).2.toTrail = (observer state).2.toTrail := by
    show Trail.mk (observer shown).2.printed (observer shown).2.journal = _
    rw [printed, journal]
  have kept := respects state busy
  -- the workspaces that are left differ in the records only, and those are put back
  rw [kept] at workspace
  unfold Run.unrecorded
  refine Prod.ext outcome ?_
  show ({ (observer shown).2.toTrail with
      workspace := { (observer shown).2.workspace with recorder := state.workspace.recorder } } :
    RunState J R X Y) = (observer state).2
  rw [trail, workspace]
  show ({ (observer state).2.toTrail with workspace := state.workspace } : RunState J R X Y) = _
  rw [← kept]

namespace Script

section Overlooking

variable {pre : Vectors Tensor Tensor → Prop}

theorem iterations_retold (workspace : MachineWorkspace) :
    (retelling.workspace workspace).recorder.iterations = workspace.recorder.iterations := by
  unfold Retelling.workspace Retelling.recorder Retelling.snapshot
  split <;> rfl

theorem vector?_retold (workspace : MachineWorkspace) (name : VectorName) :
    (retelling.workspace workspace).vector? name = workspace.vector? name := by
  cases name <;> rfl

private theorem writeTo_retold (workspace : MachineWorkspace) (part : String) :
    (retelling.workspace workspace).writeTo part = workspace.writeTo part := by
  unfold Workspace.writeTo Workspace.write
  simp only [vector?_retold]

private theorem since_retold (first : Int) {action : MachineRun Bool}
    (keepsStep : Run.Lockstep (Surroundings.Retold retelling) Eq pre action action (fun _ => True)
      pre) :
    Run.Lockstep (Surroundings.Retold retelling) Eq pre (since first action) (since first action)
      (fun _ => True) pre := by
  refine .bind_retold fun workspace _ => ?_
  rw [iterations_retold]
  split
  · exact .pure trivial
  · exact keepsStep

theorem note_retold (event : Event) :
    Run.Lockstep (Surroundings.Retold retelling) Eq pre (note event) (note event) (fun _ => True)
      pre :=
  .perform (tolerates_retold _) fun _ _ => trivial

/-- A held workspace refuses to be solved on, whatever it tells. -/
theorem solveInPlace_retold (prepared : Answer (Options Float × MachineProblem))
    (observer : MachineRun Bool) :
    Run.Lockstep (Surroundings.Retold retelling) Eq pre (solveInPlace prepared observer)
      (solveInPlace prepared observer) (fun _ => True) pre := by
  unfold solveInPlace
  refine .bind (.perform (tolerates_retold _) fun _ _ => trivial) fun (options, problem) _ => ?_
  refine .bind_retold fun workspace _ => ?_
  refine .bind (.ofExcept fun _ _ => trivial) fun _ _ => ?_
  intro state state' retold starts
  have busy : state.workspace.busy = true := retold.bonded.busy
  have busy' : state'.workspace.busy = true :=
    (congrArg Frame.busy retold.bonded.frame).trans busy
  unfold solveWith
  rw [solve_of_busy busy, solve_of_busy busy']
  exact { outcome := rfl, together := retold, given := fun _ returned => by cases returned }

private theorem runNested_retold (unspaced : retelling.interval? = none) (request : Request)
    (inPlace : Bool) :
    Run.Lockstep (Surroundings.Retold retelling) Eq pre (runNested request inPlace)
      (runNested request inPlace) (fun _ => True) pre := by
  unfold runNested
  split
  · refine .bind (solveInPlace_retold _ _) fun report _ => ?_
    exact .bind_retold fun workspace _ => note_retold _
  · exact .bind (.onTrail unspaced _) fun (workspace, report) _ => note_retold _

private theorem observe_retold (unspaced : retelling.interval? = none) (script : Script) :
    Run.Lockstep (Surroundings.Retold retelling) Eq pre script.observe script.observe
      (fun _ => True) pre := by
  unfold observe
  cases script with
  | exitAt iterations =>
      refine .bind_retold fun workspace _ => ?_
      rw [iterations_retold]
      exact .pure trivial
  | constant answer => exact .pure trivial
  | exitBelow name bound =>
      refine .bind_retold fun workspace _ => ?_
      rw [vector?_retold]
      cases workspace.vector? name with
      | some vector => exact .pure trivial
      | none => exact .ofExcept fun _ _ => trivial
  | raise first message => exact since_retold first (.ofExcept fun _ _ => trivial)
  | write first part answer =>
      refine since_retold first (.bind_retold fun workspace _ => ?_)
      rw [writeTo_retold]
      exact .bind (note_retold _) fun _ _ => .pure trivial
  | assign first field answer =>
      exact since_retold first (.bind (note_retold _) fun _ _ => .pure trivial)
  | nested first request inPlace answer =>
      exact since_retold first (.bind (runNested_retold unspaced request inPlace) fun _ _ =>
        .pure trivial)

end Overlooking

/-! ### Scripts -/

private theorem since_appends (first : Int) {action : MachineRun Bool}
    (appends : Run.Appends action) :
    Run.Appends (since first action) := by
  refine .bind_workspace fun workspace => ?_
  split
  · exact .pure false
  · exact appends

private theorem runNested_appends (request : Request) (inPlace : Bool) :
    Run.Appends (runNested request inPlace) := by
  unfold runNested
  split
  · refine .bind (solveInPlace_appends _ keepsFrame_neverExit .neverExit) fun report => ?_
    exact .bind_workspace fun workspace => .perform _
  · refine .bind (.onTrail fun trail => ?_) fun (workspace, report) => .perform _
    exact solveFresh_appends _ keepsFrame_neverExit .neverExit

private theorem appends (script : Script) : Run.Appends script.observe := by
  unfold observe
  cases script with
  | exitAt iterations => exact .bind_workspace fun workspace => .pure _
  | constant answer => exact .pure _
  | exitBelow name bound =>
      refine .bind_workspace fun workspace => ?_
      cases workspace.vector? name with
      | some vector => exact .pure _
      | none => exact .throw _
  | raise first message => exact since_appends first (.throw _)
  | write first part answer =>
      refine since_appends first (.bind_workspace fun workspace => ?_)
      exact .bind (.perform _) fun _ => .pure _
  | assign first field answer =>
      exact since_appends first (.bind (.perform _) fun _ => .pure _)
  | nested first request inPlace answer =>
      exact since_appends first (.bind (runNested_appends request inPlace) fun _ => .pure _)

theorem overlooks (script : Script) : Run.Overlooks script.observe :=
  (observe_retold rfl script).overlooks script.respects

/-- A script is an observer of this kind, also if the workspace is noted before it acts. -/
theorem keeps_and_appends (script : Script) (observer : MachineRun Bool)
    (member : observer ∈ [script.observe, script.observeTraced]) :
    Run.KeepsFrame observer ∧ Run.Appends observer := by
  have keeps : Run.KeepsFrame script.observe := script.respects.keepsFrame
  have traced : script.observeTraced =
      Run.noting (fun workspace => [.observed workspace]) script.observe := rfl
  rw [List.mem_cons, List.mem_singleton, traced] at member
  obtain rfl | rfl := member
  · exact ⟨keeps, script.appends⟩
  · exact ⟨keeps.noting _, script.appends.noting _⟩

end Script

end ConjugateResidual
