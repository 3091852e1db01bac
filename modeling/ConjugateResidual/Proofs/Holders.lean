import ConjugateResidual.Proofs.Chronicle
import ConjugateResidual.Proofs.Course.Refusal

/-!
Who holds a workspace, in any arithmetic. `Client` is whatever a caller may do with one workspace:
hold it, leave it, solve on it, with observers that are clients of the same workspace again. All
clients find at most one holder, and the workspace busy exactly as long as there is one. What is
refused meanwhile leaves no trace, so that an outer solve goes on as if it had not been tried.
-/

namespace ConjugateResidual

inductive Holder where
  | caller | solve
  deriving DecidableEq, Repr

structure Scene (J R X Y : Type) extends RunState J R X Y where
  holders : List Holder

/-- What a caller or an observer does with a workspace. An observer is a client that gives an answer;
every attempt is followed by what the client makes of its outcome. -/
inductive Client (J R X Y : Type) where
  | answer (exits : Bool)
  | raise (fault : Fault R)
  | look (next : RunState J R X Y → Client J R X Y)
  | note (notes : List J) (next : Client J R X Y)
  | acquire (next : Except (Fault R) Unit → Client J R X Y)
  | release (next : Except (Fault R) Unit → Client J R X Y)
  | solve (prepared : Reply J R (Options R × Problem J R X Y)) (observer : Client J R X Y)
      (next : Except (Fault R) (Report R) → Client J R X Y)

variable {J R X Y : Type}

namespace Scene

def noted (notes : List J) (scene : Scene J R X Y) : Scene J R X Y :=
  { scene with toRunState := scene.toRunState.noted notes }

def acquire (scene : Scene J R X Y) : Except (Fault R) Unit × Scene J R X Y :=
  match scene.workspace.acquire with
  | .error fault => (.error fault, scene)
  | .ok held => (.ok (), { scene with workspace := held, holders := .caller :: scene.holders })

def release (scene : Scene J R X Y) : Except (Fault R) Unit × Scene J R X Y :=
  if .caller ∈ scene.holders then
    (.ok (),
      { scene with
        workspace := scene.workspace.release, holders := scene.holders.erase .caller })
  else (.error .unknownName, scene)

/-- What an observer does in the scene of the solve that asks it. -/
def observing (holders : List Holder)
    (act : Scene J R X Y → Except (Fault R) Bool × Scene J R X Y) : Run J R X Y Bool :=
  fun state =>
    let (answer, after) := act { toRunState := state, holders := .solve :: holders }
    (answer, after.toRunState)

variable [Arithmetic R] [VectorArithmetic R X] [VectorArithmetic R Y]

def solve (prepared : Reply J R (Options R × Problem J R X Y)) (observer : Run J R X Y Bool)
    (scene : Scene J R X Y) : Except (Fault R) (Report R) × Scene J R X Y :=
  let (outcome, final) := solveInPlace prepared observer scene.toRunState
  (outcome, { scene with toRunState := final })

end Scene

namespace Client

section Running

variable [Arithmetic R] [VectorArithmetic R X] [VectorArithmetic R Y]

def run : Client J R X Y → Scene J R X Y → Except (Fault R) Bool × Scene J R X Y
  | .answer exits, scene => (.ok exits, scene)
  | .raise fault, scene => (.error fault, scene)
  | .look next, scene => (next scene.toRunState).run scene
  | .note notes next, scene => next.run (scene.noted notes)
  | .acquire next, scene => (next scene.acquire.1).run scene.acquire.2
  | .release next, scene => (next scene.release.1).run scene.release.2
  | .solve prepared observer next, scene =>
      let (outcome, after) :=
        scene.solve prepared (Scene.observing scene.holders fun inner => observer.run inner)
      (next outcome).run after

def observer (client : Client J R X Y) (holders : List Holder) : Run J R X Y Bool :=
  Scene.observing holders client.run

inductive Visits : Client J R X Y → Scene J R X Y → Scene J R X Y → Prop where
  | now {client : Client J R X Y} {scene : Scene J R X Y} : Visits client scene scene
  | looked {next : RunState J R X Y → Client J R X Y} {scene moment : Scene J R X Y}
      (later : Visits (next scene.toRunState) scene moment) : Visits (.look next) scene moment
  | noted {notes : List J} {next : Client J R X Y} {scene moment : Scene J R X Y}
      (later : Visits next (scene.noted notes) moment) : Visits (.note notes next) scene moment
  | acquired {next : Except (Fault R) Unit → Client J R X Y} {scene moment : Scene J R X Y}
      (later : Visits (next scene.acquire.1) scene.acquire.2 moment) :
      Visits (.acquire next) scene moment
  | released {next : Except (Fault R) Unit → Client J R X Y} {scene moment : Scene J R X Y}
      (later : Visits (next scene.release.1) scene.release.2 moment) :
      Visits (.release next) scene moment
  | asked {prepared : Reply J R (Options R × Problem J R X Y)} {inner : Client J R X Y}
      {next : Except (Fault R) (Report R) → Client J R X Y} {scene moment : Scene J R X Y}
      {state : RunState J R X Y}
      (member :
        state ∈ consultationsInPlace prepared (inner.observer scene.holders) scene.toRunState)
      (within : Visits inner { toRunState := state, holders := .solve :: scene.holders } moment) :
      Visits (.solve prepared inner next) scene moment
  | solved {prepared : Reply J R (Options R × Problem J R X Y)} {inner : Client J R X Y}
      {next : Except (Fault R) (Report R) → Client J R X Y} {scene moment : Scene J R X Y}
      (later :
        Visits (next (scene.solve prepared (inner.observer scene.holders)).1)
          (scene.solve prepared (inner.observer scene.holders)).2 moment) :
      Visits (.solve prepared inner next) scene moment

end Running

/-- A client that knows without trying what it would be refused on a workspace that is held. -/
def resigned : Client J R X Y → Client J R X Y
  | .answer exits => .answer exits
  | .raise fault => .raise fault
  | .look next => .look fun state => (next state).resigned
  | .note notes next => .note notes next.resigned
  | .acquire next => (next (.error .busy)).resigned
  | .release next => (next (.error .unknownName)).resigned
  | .solve prepared _ next =>
      .look fun state =>
        .note prepared.journal
          (next (.error ((state.workspace.refusal? prepared).getD .busy))).resigned

def Passive : Client J R X Y → Prop
  | .answer _ | .raise _ => True
  | .look next => ∀ state, (next state).Passive
  | .note _ next => next.Passive
  | .acquire _ | .release _ | .solve _ _ _ => False

private theorem passive_resigned (client : Client J R X Y) : client.resigned.Passive := by
  induction client with
  | answer exits => trivial
  | raise fault => trivial
  | look next ih => exact ih
  | note notes next ih => exact ih
  | acquire next ih => exact ih _
  | release next ih => exact ih _
  | solve prepared observer next _ ih => exact fun _ => ih _

end Client

/-! ### A held workspace -/

namespace Scene

structure Held (scene : Scene J R X Y) : Prop where
  busy : scene.workspace.busy = true
  foreign : .caller ∉ scene.holders

variable {scene : Scene J R X Y}

theorem acquire_of_busy (busy : scene.workspace.busy = true) :
    scene.acquire = (.error .busy, scene) := by
  unfold acquire Workspace.acquire
  rw [busy]
  rfl

theorem release_of_foreign (foreign : .caller ∉ scene.holders) :
    scene.release = (.error .unknownName, scene) :=
  if_neg foreign

private theorem Held.noted (held : scene.Held) (notes : List J) : (scene.noted notes).Held :=
  { busy := held.busy, foreign := held.foreign }

variable [Arithmetic R] [VectorArithmetic R X] [VectorArithmetic R Y]
variable {prepared : Reply J R (Options R × Problem J R X Y)}

theorem solve_of_refused {fault : Fault R}
    (refused : scene.workspace.refusal? prepared = some fault) (observer : Run J R X Y Bool) :
    scene.solve prepared observer = (.error fault, scene.noted prepared.journal) := by
  unfold solve
  rw [solveInPlace_of_refused refused]
  rfl

end Scene

namespace Client

variable [Arithmetic R] [VectorArithmetic R X] [VectorArithmetic R Y]

/-- On a workspace that is held a client comes to nothing, and it goes on like one that does not even
try. -/
theorem run_of_held (client : Client J R X Y) {scene : Scene J R X Y} (held : scene.Held) :
    (client.run scene).2.workspace = scene.workspace ∧
      (client.run scene).2.holders = scene.holders ∧
      client.resigned.run scene = client.run scene := by
  induction client generalizing scene with
  | answer exits => exact ⟨rfl, rfl, rfl⟩
  | raise fault => exact ⟨rfl, rfl, rfl⟩
  | look next ih => exact ih scene.toRunState held
  | note notes next ih => exact ih (held.noted notes)
  | acquire next ih =>
      simp only [run, resigned, Scene.acquire_of_busy held.busy]
      exact ih _ held
  | release next ih =>
      simp only [run, resigned, Scene.release_of_foreign held.foreign]
      exact ih _ held
  | solve prepared observer next _ ih =>
      have refused := Workspace.refusal?_of_busy held.busy prepared
      simp only [run, resigned, Scene.solve_of_refused refused]
      exact ih _ (held.noted prepared.journal)

/-- An observer that is asked among no other holders leaves the workspace alone. -/
theorem respects (client : Client J R X Y) : Run.Respects (client.observer []) := by
  intro state busy
  have held : Scene.Held { toRunState := state, holders := [.solve] } :=
    { busy, foreign := by simp }
  exact (client.run_of_held held).1

end Client

/-! ### All moments -/

/-- An observer that leaves a held workspace alone is asked only while it is held. -/
theorem busy_of_mem_consultations [Arithmetic R] [VectorArithmetic R X] [VectorArithmetic R Y]
    {problem : Problem J R X Y} {settings : Settings R} {observer : Run J R X Y Bool}
    (keeps : Run.KeepsFrame observer) {before asked : RunState J R X Y}
    (member : asked ∈ consultations problem settings observer before) :
    asked.workspace.busy = true := by
  have account := solve_account problem settings observer before
  unfold consultations at member
  generalize solveTurns problem settings observer before = turns at account member
  generalize solve problem settings observer before = result at account
  obtain ⟨index, found⟩ := List.mem_iff_getElem?.mp member
  cases account with
  | refused busy => cases member
  | zero zero answered => cases member
  | unopened nonzero failed => cases member
  | broken nonzero opens unfolds =>
      obtain ⟨_, _, _, chronicle, _⟩ := unfolds.opened keeps opens
      exact (chronicle.shown index asked found).busy
  | judged nonzero opens unfolds within stops closed =>
      obtain ⟨_, _, _, chronicle, _⟩ := unfolds.opened keeps opens
      exact (chronicle.shown index asked found).busy

namespace Scene

/-- The workspace is busy exactly if somebody holds it, and no two do. -/
structure Lawful (scene : Scene J R X Y) : Prop where
  busy : scene.workspace.busy = !scene.holders.isEmpty
  single : scene.holders.length ≤ 1

namespace Lawful

variable {scene : Scene J R X Y} (lawful : scene.Lawful)
include lawful

theorem holders_of_free (free : scene.workspace.busy = false) : scene.holders = [] := by
  have busy := lawful.busy
  rw [free] at busy
  simpa using busy

private theorem holders_of_caller (member : .caller ∈ scene.holders) :
    scene.holders = [.caller] := by
  have single := lawful.single
  match held : scene.holders with
  | [] =>
      rw [held] at member
      cases member
  | [holder] =>
      rw [held] at member
      rw [List.mem_singleton.mp member]
  | _ :: _ :: _ =>
      rw [held] at single
      simp at single

private theorem busy_of_held (holds : scene.holders ≠ []) : scene.workspace.busy = true := by
  rw [lawful.busy, List.isEmpty_eq_false_iff.mpr holds]
  rfl

/-- Where nobody holds the workspace it can be entered. -/
theorem enter (alone : scene.holders = []) :
    ∃ entered, scene.acquire = (.ok (), entered) ∧ entered.workspace.busy = true ∧
      entered.holders = [.caller] := by
  have free := lawful.busy
  rw [alone] at free
  unfold Scene.acquire Workspace.acquire
  rw [free]
  exact ⟨_, rfl, rfl, congrArg _ alone⟩

theorem leave (member : .caller ∈ scene.holders) :
    ∃ left, scene.release = (.ok (), left) ∧ left.workspace.busy = false ∧ left.holders = [] := by
  have own := lawful.holders_of_caller member
  unfold Scene.release
  rw [if_pos member]
  refine ⟨_, rfl, rfl, ?_⟩
  dsimp only
  rw [own]
  rfl

private theorem acquire : scene.acquire.2.Lawful := by
  cases busy : scene.workspace.busy with
  | true =>
      rw [acquire_of_busy busy]
      exact lawful
  | false =>
      obtain ⟨entered, same, held, own⟩ := lawful.enter (lawful.holders_of_free busy)
      rw [same]
      exact { busy := by rw [held, own]; rfl, single := by rw [own]; decide }

private theorem release : scene.release.2.Lawful := by
  by_cases member : .caller ∈ scene.holders
  · obtain ⟨left, same, free, vacated⟩ := lawful.leave member
    rw [same]
    exact { busy := by rw [free, vacated]; rfl, single := by rw [vacated]; decide }
  · rw [release_of_foreign member]
    exact lawful

variable [Arithmetic R] [VectorArithmetic R X] [VectorArithmetic R Y]
variable {prepared : Reply J R (Options R × Problem J R X Y)}

theorem solve (observer : Run J R X Y Bool) : (scene.solve prepared observer).2.Lawful :=
  { busy := (busy_solveInPlace prepared observer scene.toRunState).trans lawful.busy
    single := lawful.single }

/-- A solve asks its observer while it is the only holder. -/
theorem asked {client : Client J R X Y} {state : RunState J R X Y}
    (member :
      state ∈ consultationsInPlace prepared (client.observer scene.holders) scene.toRunState) :
    scene.holders = [] ∧ state.workspace.busy = true := by
  obtain ⟨admitted, problem, settings, member⟩ := of_mem_consultationsInPlace member
  have free : scene.workspace.busy = false := by
    cases busy : scene.workspace.busy with
    | false => rfl
    | true =>
        rw [Workspace.refusal?_of_busy busy] at admitted
        cases admitted
  have alone := lawful.holders_of_free free
  rw [alone] at member
  exact ⟨alone, busy_of_mem_consultations client.respects.keepsFrame member⟩

/-- Where an observer tries what is refused to it, the solve goes on as if it had not tried. -/
theorem solve_resigned (client : Client J R X Y) :
    scene.solve prepared (client.resigned.observer scene.holders) =
      scene.solve prepared (client.observer scene.holders) := by
  have same : ∀ state ∈
      consultationsInPlace prepared (client.observer scene.holders) scene.toRunState,
      client.resigned.observer scene.holders state = client.observer scene.holders state := by
    intro state member
    obtain ⟨alone, busy⟩ := lawful.asked member
    have held : Held { toRunState := state, holders := .solve :: scene.holders } :=
      { busy, foreign := by simp [alone] }
    unfold Client.observer observing
    rw [(client.run_of_held held).2.2]
  unfold Scene.solve
  rw [solveInPlace_congr same]

end Lawful

end Scene

section Moments

variable [Arithmetic R] [VectorArithmetic R X] [VectorArithmetic R Y]

private theorem Client.Visits.lawful {client : Client J R X Y} {scene moment : Scene J R X Y}
    (visits : client.Visits scene moment) (lawful : scene.Lawful) : moment.Lawful := by
  induction visits with
  | now => exact lawful
  | looked _ ih => exact ih lawful
  | noted _ ih => exact ih { busy := lawful.busy, single := lawful.single }
  | acquired _ ih => exact ih lawful.acquire
  | released _ ih => exact ih lawful.release
  | asked member _ ih =>
      obtain ⟨alone, busy⟩ := lawful.asked member
      exact ih { busy := busy, single := by rw [alone]; exact Nat.le_refl _ }
  | solved _ ih => exact ih (lawful.solve _)

/-- A client ends where it has been. -/
theorem Client.visits_end (client : Client J R X Y) (scene : Scene J R X Y) :
    client.Visits scene (client.run scene).2 := by
  induction client generalizing scene with
  | answer exits => exact .now
  | raise fault => exact .now
  | look next ih => exact .looked (ih _ _)
  | note notes next ih => exact .noted (ih _)
  | acquire next ih => exact .acquired (ih _ _)
  | release next ih => exact .released (ih _ _)
  | solve prepared observer next _ ih => exact .solved (ih _ _)

/-- One holder at a time, in any arithmetic and for all clients of a workspace, of any nesting. At
every moment the workspace is busy exactly if there is a holder, and then there is one; it can be
entered exactly while nobody holds it; a solve that could be carried out is refused meanwhile. A
refusal, of whatever cause, leaves nothing but the notes of the preparation, and an outer solve goes
on as with an observer that does not try. Whoever leaves a workspace leaves it free, and a solve
does so however it ends. -/
theorem one_solve_per_workspace :
    (∀ (client : Client J R X Y) (scene moment : Scene J R X Y), scene.Lawful →
      client.Visits scene moment → moment.Lawful) ∧
    (∀ (client : Client J R X Y) (scene : Scene J R X Y),
      client.Visits scene (client.run scene).2) ∧
    (∀ scene : Scene J R X Y, scene.Lawful →
      (scene.holders = [] →
        ∃ entered, scene.acquire = (.ok (), entered) ∧ entered.workspace.busy = true ∧
          entered.holders = [.caller]) ∧
      (.caller ∈ scene.holders →
        ∃ left, scene.release = (.ok (), left) ∧ left.workspace.busy = false ∧
          left.holders = []) ∧
      (scene.holders ≠ [] →
        scene.acquire = (.error .busy, scene) ∧
          ∀ (prepared : Reply J R (Options R × Problem J R X Y)) (observer : Run J R X Y Bool)
            options problem, prepared.outcome = .ok (options, problem) →
            scene.workspace.checkFits (R := R) problem.rows problem.columns problem.field =
              .ok () →
            scene.solve prepared observer = (.error .busy, scene.noted prepared.journal))) ∧
    (∀ (scene : Scene J R X Y) (prepared : Reply J R (Options R × Problem J R X Y))
      (observer : Run J R X Y Bool),
      (∀ fault, scene.workspace.refusal? prepared = some fault →
        scene.solve prepared observer = (.error fault, scene.noted prepared.journal)) ∧
      (scene.solve prepared observer).2.workspace.busy = scene.workspace.busy) ∧
    (∀ (scene : Scene J R X Y) (prepared : Reply J R (Options R × Problem J R X Y))
      (client : Client J R X Y), scene.Lawful →
      client.resigned.Passive ∧
        scene.solve prepared (client.resigned.observer scene.holders) =
          scene.solve prepared (client.observer scene.holders)) := by
  refine ⟨fun _ _ _ lawful visits => visits.lawful lawful, Client.visits_end, ?_, ?_, ?_⟩
  · intro scene lawful
    refine ⟨lawful.enter, lawful.leave, fun holds => ?_⟩
    have busy := lawful.busy_of_held holds
    refine ⟨Scene.acquire_of_busy busy, fun prepared observer options problem ready fits => ?_⟩
    exact Scene.solve_of_refused (Workspace.refusal?_of_valid busy ready fits) observer
  · intro scene prepared observer
    exact ⟨fun _ refused => Scene.solve_of_refused refused observer,
      busy_solveInPlace prepared observer scene.toRunState⟩
  · intro scene prepared client lawful
    exact ⟨client.passive_resigned, lawful.solve_resigned client⟩

end Moments

def Client.insistent : Client Event Float Tensor Tensor :=
  .solve Request.tall.prepare (.answer false) fun _ => .answer false

/-- The observer of a solve tries to solve once more. It is refused, the outer solve goes on as if it
had not tried, and the workspace is free in the end. -/
theorem one_solve_per_workspace_tall :
    let scene : Scene Event Float Tensor Tensor :=
      { toRunState := .ofWorkspace .tall, holders := [] }
    let client : Client Event Float Tensor Tensor :=
      .solve Request.tall.prepare .insistent fun _ => .answer true
    (client.run scene).2.workspace.busy = false ∧
      (∃ moment, client.Visits scene moment ∧ moment.holders = [.solve] ∧
        moment.workspace.busy = true ∧ moment.acquire = (.error .busy, moment) ∧
        moment.solve Request.tall.prepare neverExit =
          (.error .busy, moment.noted Request.tall.prepare.journal)) ∧
      scene.solve Request.tall.prepare (Client.insistent.resigned.observer []) =
        scene.solve Request.tall.prepare (Client.insistent.observer []) := by
  intro scene client
  obtain ⟨lawfully, ends, held, refuses, goesOn⟩ :=
    one_solve_per_workspace (J := Event) (R := Float) (X := Tensor) (Y := Tensor)
  have lawful : scene.Lawful := { busy := rfl, single := by decide }
  have computed :
      (consultationsInPlace Request.tall.prepare (Client.insistent.observer [])
        scene.toRunState).map (fun state =>
          (state.workspace.rows, state.workspace.columns, state.workspace.field)) =
          [(3, 2, .float64)] ∧
        Request.tall.prepare.outcome.toOption.map (fun posed =>
          (posed.2.rows, posed.2.columns, posed.2.field)) = some (3, 2, .float64) := by
    decide +kernel
  obtain ⟨shown, posed⟩ := computed
  refine ⟨?_, ?_, (goesOn scene _ .insistent lawful).2⟩
  · simp only [client, Client.run]
    exact (refuses scene _ _).2.trans rfl
  · cases asked : consultationsInPlace Request.tall.prepare (Client.insistent.observer [])
        scene.toRunState with
    | nil =>
        rw [asked] at shown
        cases shown
    | cons state later =>
        have member : state ∈ consultationsInPlace Request.tall.prepare
            (Client.insistent.observer scene.holders) scene.toRunState := by
          rw [show scene.holders = [] from rfl, asked]
          exact List.mem_cons_self ..
        let moment : Scene Event Float Tensor Tensor :=
          { toRunState := state, holders := [.solve] }
        have visits : client.Visits scene moment := .asked member .now
        have busy := (lawfully client scene moment lawful visits).busy
        obtain ⟨occupied, refused⟩ :=
          (held moment (lawfully client scene moment lawful visits)).2.2 (by simp [moment])
        refine ⟨moment, visits, rfl, busy, occupied, ?_⟩
        cases ready : Request.tall.prepare.outcome with
        | error fault =>
            rw [ready] at posed
            cases posed
        | ok found =>
            rw [asked, List.map_cons, List.cons.injEq] at shown
            rw [ready] at posed
            have sizes := shown.1.trans (Option.some.inj posed).symm
            simp only [Prod.mk.injEq] at sizes
            refine refused _ _ found.1 found.2 ready ?_
            unfold Workspace.checkFits
            simp [moment, sizes]

end ConjugateResidual
