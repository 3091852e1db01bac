import Mathlib.Algebra.Order.Ring.Int
import ConjugateResidual.Proofs.Stopwatch.Timeline

/-!
Scripts in which a stopwatch is used. Sections nest to any depth and are left when their bodies end,
also by a failure, which then goes on to the next rescue. At every moment of a script the stopwatch
tells what its time line says.
-/

namespace ConjugateResidual

namespace Stopwatch

variable {R : Type}

structure Scene (R : Type) where
  watch : Stopwatch R
  clock : List R
  past : Timeline R

def Scene.unused (clock : List R) : Scene R :=
  { watch := {}, clock, past := [] }

inductive Task where
  | idle
  | start
  | stop
  | result
  | fail (message : String)
  | during (name : String) (body : Task)
  | andThen (first second : Task)
  /-- If the body fails, the handler goes on in its place. -/
  | rescue (body handler : Task)

def Task.names : Task → List String
  | .idle | .start | .stop | .result | .fail _ => []
  | .during name body => name :: body.names
  | .andThen first second => first.names ++ second.names
  | .rescue body handler => body.names ++ handler.names

section Running

variable [Zero R] [Add R] [Sub R]

namespace Scene

def reading (scene : Scene R) : R :=
  scene.clock.headD 0

def perform (step : Step) (mark? : Option (Mark R)) (scene : Scene R) :
    Except (Fault R) Unit × Scene R :=
  match scene.watch.perform step scene.clock with
  | (.ok _, watch, clock) => (.ok (), { watch, clock, past := mark?.toList ++ scene.past })
  | (.error fault, watch, clock) => (.error fault, { scene with watch, clock })

def enter (name : String) (scene : Scene R) : Scene R :=
  (scene.perform (.enter name) (some (.entered name scene.reading))).2

def leave (name : String) (entry : R) (scene : Scene R) : Scene R :=
  (scene.perform .leave (some (.left name entry scene.reading))).2

end Scene

namespace Task

def run : Task → Scene R → Except (Fault R) Unit × Scene R
  | .idle, scene => (.ok (), scene)
  | .start, scene => scene.perform .start (some (.started scene.reading))
  | .stop, scene => scene.perform .stop (some (.stopped scene.reading))
  | .result, scene => scene.perform .result none
  | .fail message, scene => (.error (.raised message), scene)
  | .during name body, scene =>
      let (outcome, inside) := body.run (scene.enter name)
      (outcome, inside.leave name scene.reading)
  | .andThen first second, scene =>
      match first.run scene with
      | (.ok (), between) => second.run between
      | (.error fault, after) => (.error fault, after)
  | .rescue body handler, scene =>
      match body.run scene with
      | (.ok (), after) => (.ok (), after)
      | (.error _, between) => handler.run between

/-- The moments of a script: before and after each of its parts that is come to. -/
inductive Passes : Task → Scene R → Scene R → Prop where
  | begins (task : Task) (scene : Scene R) : Passes task scene scene
  | ends (task : Task) (scene : Scene R) : Passes task scene (task.run scene).2
  | within {name : String} {body : Task} {scene moment : Scene R}
      (inside : Passes body (scene.enter name) moment) : Passes (.during name body) scene moment
  | first {first second : Task} {scene moment : Scene R} (early : Passes first scene moment) :
      Passes (.andThen first second) scene moment
  | second {first second : Task} {scene between moment : Scene R}
      (ran : first.run scene = (.ok (), between)) (late : Passes second between moment) :
      Passes (.andThen first second) scene moment
  | body {body handler : Task} {scene moment : Scene R} (early : Passes body scene moment) :
      Passes (.rescue body handler) scene moment
  | handler {body handler : Task} {scene between moment : Scene R} {fault : Fault R}
      (failed : body.run scene = (.error fault, between)) (late : Passes handler between moment) :
      Passes (.rescue body handler) scene moment

end Task

end Running

/-! ### Scripts as rows of steps -/

section Steps

variable [Zero R] [Add R] [Sub R]

def Scene.Leads (scene moment : Scene R) : Prop :=
  ∃ steps : List Step, ∀ rest : List Step,
    (script (steps ++ rest) scene.watch scene.clock).2 =
      (script rest moment.watch moment.clock).2

namespace Scene

variable {scene between moment : Scene R}

theorem Leads.refl (scene : Scene R) : scene.Leads scene :=
  ⟨[], fun _ => rfl⟩

theorem Leads.trans (early : scene.Leads between) (late : between.Leads moment) :
    scene.Leads moment := by
  obtain ⟨steps, leads⟩ := early
  obtain ⟨later, goes⟩ := late
  refine ⟨steps ++ later, fun rest => ?_⟩
  rw [List.append_assoc, leads, goes]

private theorem leads_perform (step : Step) (mark? : Option (Mark R)) (scene : Scene R) :
    scene.Leads (scene.perform step mark?).2 := by
  refine ⟨[step], fun rest => ?_⟩
  unfold perform
  rw [List.singleton_append, script]
  obtain ⟨outcome, watch, clock⟩ := scene.watch.perform step scene.clock
  cases outcome with
  | error fault => rfl
  | ok table => rfl

end Scene

private theorem Task.leads_run (task : Task) (scene : Scene R) :
    scene.Leads (task.run scene).2 := by
  induction task generalizing scene with
  | idle | fail => exact .refl scene
  | start | stop | result => exact scene.leads_perform _ _
  | during name body ih =>
      exact (scene.leads_perform _ _).trans ((ih _).trans (Scene.leads_perform _ _ _))
  | andThen first second ihFirst ihSecond =>
      have early := ihFirst scene
      unfold run
      cases ran : first.run scene with
      | mk outcome between =>
          rw [ran] at early
          cases outcome with
          | error fault => exact early
          | ok => exact early.trans (ihSecond between)
  | rescue body handler ihBody ihHandler =>
      have early := ihBody scene
      unfold run
      cases ran : body.run scene with
      | mk outcome between =>
          rw [ran] at early
          cases outcome with
          | ok => exact early
          | error fault => exact early.trans (ihHandler between)

private theorem Task.Passes.leads {task : Task} {scene moment : Scene R}
    (passes : Passes task scene moment) : scene.Leads moment := by
  induction passes with
  | begins task scene => exact .refl scene
  | ends task scene => exact task.leads_run scene
  | within inside ih => exact (Scene.leads_perform _ _ _).trans ih
  | first early ih | body early ih => exact ih
  | @second first _ scene between _ ran late ih =>
      have early := first.leads_run scene
      rw [ran] at early
      exact early.trans ih
  | @handler body _ scene between _ fault failed late ih =>
      have early := body.leads_run scene
      rw [failed] at early
      exact early.trans ih

end Steps

/-! ### Tables of sections -/

private theorem put_of_notMem (change : Option R → R) {name : String} {table : List (String × R)}
    (unknown : name ∉ table.map Prod.fst) :
    put change name table = table ++ [(name, change none)] := by
  induction table with
  | nil => rfl
  | cons entry rest ih =>
      obtain ⟨key, value⟩ := entry
      simp only [List.map_cons, List.mem_cons, not_or] at unknown
      unfold put
      rw [if_neg (Ne.symm unknown.1), ih unknown.2, List.cons_append]

private theorem put_map_of_mem (change : Option R → R) {name : String} (value : String → R)
    {names : List String} (nodup : names.Nodup) (known : name ∈ names) :
    put change name (names.map fun other => (other, value other)) =
      names.map fun other =>
        (other, if other = name then change (some (value name)) else value other) := by
  induction names with
  | nil => cases known
  | cons other rest ih =>
      obtain ⟨fresh, nodup⟩ := List.nodup_cons.mp nodup
      simp only [List.map_cons, put]
      by_cases same : other = name
      · subst same
        rw [if_pos rfl, if_pos rfl]
        congr 1
        apply List.map_congr_left
        intro later member
        rw [if_neg fun same : later = other => fresh (same ▸ member)]
      · have later := (List.mem_cons.mp known).resolve_left (Ne.symm same)
        rw [if_neg same, if_neg same, ih nodup later]

/-- A table that is written into another one without a common name is appended. -/
theorem foldl_put {table sections : List (String × R)}
    (nodup : ((table ++ sections).map Prod.fst).Nodup) :
    sections.foldl (fun table (name, value) => put (fun _ => value) name table) table =
      table ++ sections := by
  induction sections generalizing table with
  | nil => simp
  | cons entry rest ih =>
      obtain ⟨name, value⟩ := entry
      have unknown : name ∉ table.map Prod.fst := by
        rw [List.map_append, List.nodup_append] at nodup
        exact fun known => nodup.2.2 name known name (List.mem_cons_self ..) rfl
      rw [List.foldl_cons]
      dsimp only
      rw [put_of_notMem _ unknown, ih (by simpa using nodup), List.append_assoc]
      rfl

private theorem result_of_stopped {watch : Stopwatch R} {total : R}
    (stopped : watch.total? = some total)
    (nodup : (totalName :: watch.sections.map Prod.fst).Nodup) :
    watch.result = .ok ((totalName, total) :: watch.sections) := by
  unfold result
  rw [stopped]
  have apart : (([(totalName, total)] ++ watch.sections).map Prod.fst).Nodup := nodup
  exact congrArg Except.ok (foldl_put apart)

section Accounts

variable [AddCommGroup R]

/-- A time is booked under its name and changes no other one. -/
theorem map_timeIn_left (past : Timeline R) (name : String) (entry reading : R) :
    let later : Timeline R := .left name entry reading :: past
    put (fun known => known.getD 0 + (reading - entry)) name
        (past.names.map fun other => (other, past.timeIn other)) =
      later.names.map fun other => (other, later.timeIn other) := by
  intro later
  by_cases known : name ∈ past.names
  · rw [put_map_of_mem _ _ past.nodup_names known,
      show later.names = past.names from if_pos known]
    apply List.map_congr_left
    intro other _
    rw [Timeline.timeIn_cons, Mark.durationIn]
    by_cases same : other = name
    · subst same
      rw [if_pos rfl, if_pos rfl, Option.getD_some, add_comm]
    · rw [if_neg same, if_neg (Ne.symm same), zero_add]
  · have unknown :
        name ∉ (past.names.map fun other => (other, past.timeIn other)).map Prod.fst := by
      simpa using known
    rw [put_of_notMem _ unknown, show later.names = past.names ++ [name] from if_neg known,
      List.map_append]
    congr 1
    · apply List.map_congr_left
      intro other member
      rw [Timeline.timeIn_cons, Mark.durationIn,
        if_neg fun same : name = other => known (same ▸ member), zero_add]
    · rw [List.map_singleton, Timeline.timeIn_cons, Mark.durationIn, if_pos rfl,
        Timeline.timeIn_of_notMem known, Option.getD_none, zero_add, add_zero]

private theorem sum_put (time : R) (name : String) (table : List (String × R)) :
    ((put (fun known => known.getD 0 + time) name table).map Prod.snd).sum =
      time + (table.map Prod.snd).sum := by
  induction table with
  | nil => simp [put]
  | cons entry rest ih =>
      obtain ⟨key, value⟩ := entry
      unfold put
      split
      · simp [add_assoc, add_comm]
      · simp [ih, add_left_comm]

structure Books (past : Timeline R) (watch : Stopwatch R) : Prop where
  sections : watch.sections = past.names.map fun name => (name, past.timeIn name)
  sum : (watch.sections.map Prod.snd).sum = past.spent
  unreserved : totalName ∉ past.names

structure Accounts (past : Timeline R) (watch : Stopwatch R) : Prop extends Books past watch where
  started : watch.started? = past.findSome? Mark.start?
  total : watch.total? = past.total?
  stopped : past.total? = none → ∀ mark ∈ past, mark.isStop = false
  nested : past.Nested watch.running

private theorem accounts_unused : Accounts [] ({} : Stopwatch R) :=
  { sections := rfl, sum := rfl, unreserved := List.not_mem_nil
    started := rfl, total := rfl, nested := .nil
    stopped := fun _ _ member => by cases member }

section Steps

variable {past : Timeline R} {watch : Stopwatch R}

theorem Books.stay (books : Books past watch) {mark : Mark R} (stays : mark.isExit = false)
    {next : Stopwatch R} (same : next.sections = watch.sections) : Books (mark :: past) next := by
  obtain ⟨names, timeIn, spent⟩ := Timeline.spent_of_staying stays past
  refine { sections := ?_, sum := ?_, unreserved := ?_ }
  · rw [names, timeIn, same]
    exact books.sections
  · rw [spent, same]
    exact books.sum
  · rw [names]
    exact books.unreserved

private theorem Books.book (books : Books past watch) {name : String} (free : name ≠ totalName)
    (entry reading : R) :
    Books (.left name entry reading :: past) (watch.book name entry reading) := by
  refine { sections := ?_, sum := ?_, unreserved := ?_ }
  · unfold Stopwatch.book
    rw [books.sections]
    exact map_timeIn_left past name entry reading
  · unfold Stopwatch.book
    rw [sum_put, books.sum, Timeline.spent_cons, Mark.duration]
  · rw [Timeline.mem_names_iff]
    rintro ⟨entry', reading', member⟩
    rcases List.mem_cons.mp member with same | member
    · cases same
      exact free rfl
    · exact books.unreserved ((Timeline.mem_names_iff ..).mpr ⟨entry', reading', member⟩)

namespace Accounts

variable (accounts : Accounts past watch)
include accounts

theorem start (reading : R) : Accounts (.started reading :: past) (watch.start reading) :=
  { accounts.toBooks.stay rfl rfl with
    started := rfl
    total := accounts.total
    stopped := fun unstopped => List.forall_mem_cons.mpr ⟨rfl, accounts.stopped unstopped⟩
    nested := .started accounts.nested }

private theorem stop {begun : R} (started : watch.started? = some begun) (reading : R) :
    Accounts (.stopped reading :: past) (watch.stop reading begun) := by
  have total : Timeline.total? (.stopped reading :: past) = some (reading - begun) := by
    rw [Timeline.total?, ← accounts.started, started, Option.map_some]
  exact
    { accounts.toBooks.stay rfl rfl with
      started := accounts.started
      total := total.symm
      stopped := fun unstopped => by rw [total] at unstopped; cases unstopped
      nested := .stopped accounts.nested }

private theorem enter (name : String) (reading : R) :
    Accounts (.entered name reading :: past) (watch.enter name reading) :=
  { accounts.toBooks.stay rfl rfl with
    started := accounts.started
    total := accounts.total
    stopped := fun unstopped => List.forall_mem_cons.mpr ⟨rfl, accounts.stopped unstopped⟩
    nested := .entered accounts.nested }

private theorem leave {name : String} {entry : R} {outer : List (String × R)}
    (running : watch.running = (name, entry) :: outer) (free : name ≠ totalName) (reading : R) :
    Accounts (.left name entry reading :: past)
      ({ watch with running := outer }.book name entry reading) :=
  have books : Books past { watch with running := outer } := { accounts.toBooks with }
  { books.book free entry reading with
    started := accounts.started
    total := accounts.total
    stopped := fun unstopped => List.forall_mem_cons.mpr ⟨rfl, accounts.stopped unstopped⟩
    nested := .left (running ▸ accounts.nested) }

end Accounts

end Steps

/-! ### Scripts -/

/-- An exit closes the innermost section. -/
theorem Scene.leave_eq {scene : Scene R} {name : String} {entry : R} {outer : List (String × R)}
    (running : scene.watch.running = (name, entry) :: outer) :
    scene.leave name entry =
      { watch := { scene.watch with running := outer }.book name entry scene.reading
        clock := scene.clock.tail
        past := .left name entry scene.reading :: scene.past } := by
  unfold leave perform Stopwatch.perform
  rw [running]
  rfl

namespace Task

/-- Whether a script ends or fails, its stopwatch has the state of its time line, and the sections
that were open before are open again. -/
theorem run_accounts {task : Task} (free : totalName ∉ task.names) {scene : Scene R}
    (accounts : Accounts scene.past scene.watch) :
    Accounts (task.run scene).2.past (task.run scene).2.watch ∧
      (task.run scene).2.watch.running = scene.watch.running := by
  induction task generalizing scene with
  | idle | fail => exact ⟨accounts, rfl⟩
  | start => exact ⟨accounts.start scene.reading, rfl⟩
  | stop =>
      unfold run Scene.perform Stopwatch.perform
      cases started : scene.watch.started? with
      | none => exact ⟨accounts, rfl⟩
      | some begun => exact ⟨accounts.stop started scene.reading, rfl⟩
  | result =>
      unfold run Scene.perform Stopwatch.perform
      cases scene.watch.result with
      | error fault => exact ⟨accounts, rfl⟩
      | ok table => exact ⟨accounts, rfl⟩
  | during name body ih =>
      obtain ⟨own, inner⟩ := not_or.mp (List.mem_cons.not.mp free)
      have entered : Accounts (scene.enter name).past (scene.enter name).watch :=
        accounts.enter name scene.reading
      obtain ⟨inside, running⟩ := ih inner entered
      have innermost : ((body.run (scene.enter name)).2).watch.running =
          (name, scene.reading) :: scene.watch.running := running
      show Accounts ((body.run (scene.enter name)).2.leave name scene.reading).past
          ((body.run (scene.enter name)).2.leave name scene.reading).watch ∧
        ((body.run (scene.enter name)).2.leave name scene.reading).watch.running =
          scene.watch.running
      rw [Scene.leave_eq innermost]
      exact ⟨inside.leave innermost (Ne.symm own) _, rfl⟩
  | andThen first second ihFirst ihSecond =>
      obtain ⟨early, late⟩ := not_or.mp (List.mem_append.not.mp free)
      have earlier := ihFirst early accounts
      unfold run
      cases ran : first.run scene with
      | mk outcome between =>
          rw [ran] at earlier
          cases outcome with
          | error fault => exact earlier
          | ok =>
              obtain ⟨later, running⟩ := ihSecond late earlier.1
              exact ⟨later, running.trans earlier.2⟩
  | rescue body handler ihBody ihHandler =>
      obtain ⟨early, late⟩ := not_or.mp (List.mem_append.not.mp free)
      have earlier := ihBody early accounts
      unfold run
      cases ran : body.run scene with
      | mk outcome between =>
          rw [ran] at earlier
          cases outcome with
          | ok => exact earlier
          | error fault =>
              obtain ⟨later, running⟩ := ihHandler late earlier.1
              exact ⟨later, running.trans earlier.2⟩

private theorem Passes.accounts {task : Task} {scene moment : Scene R}
    (passes : Passes task scene moment)
    (free : totalName ∉ task.names) (accounts : Accounts scene.past scene.watch) :
    Accounts moment.past moment.watch := by
  induction passes with
  | begins task scene => exact accounts
  | ends task scene => exact (run_accounts free accounts).1
  | @within name body scene moment inside ih =>
      exact ih (List.mem_cons.not.mp free ∘ .inr) (accounts.enter name scene.reading)
  | first early ih | body early ih => exact ih (free ∘ List.mem_append_left _) accounts
  | second ran late ih =>
      have earlier := (run_accounts (free ∘ List.mem_append_left _) accounts).1
      rw [ran] at earlier
      exact ih (free ∘ List.mem_append_right _) earlier
  | handler failed late ih =>
      have earlier := (run_accounts (free ∘ List.mem_append_left _) accounts).1
      rw [failed] at earlier
      exact ih (free ∘ List.mem_append_right _) earlier

end Task

end Accounts

section Scripts

variable [AddCommGroup R] [LinearOrder R] [IsOrderedAddMonoid R]

/-- At every moment of every script in which no section has the name of the total, the stopwatch is
the one to which a row of steps has led, and it tells what its time line says. After a stop it tells
the reading at the last stop less that at the last start before, and for each name of a section that
has been left the sum of all its times; before, it refuses to tell, and before any start it refuses
to stop, and stays as it is. If the clock never goes back, no section is entered while another one
is open, and all of them lie between the last stop and the last start before it, their times sum up
to the total at most. -/
theorem scripts_are_accounted_for {task : Task} (free : totalName ∉ task.names) (clock : List R)
    {moment : Scene R} (passes : task.Passes (.unused clock) moment) :
    let past := moment.past
    let watch := moment.watch
    (∃ steps, (script steps {} clock).2 = watch) ∧
      (past.names.Nodup ∧ totalName ∉ past.names ∧
        ∀ name, name ∈ past.names ↔ ∃ entry reading, .left name entry reading ∈ past) ∧
      (∀ total, past.total? = some total →
        watch.perform .result moment.clock =
          (.ok (some ((totalName, total) :: past.names.map fun name => (name, past.timeIn name))),
            watch, moment.clock)) ∧
      ((∀ mark ∈ past, mark.isStop = false) ↔ past.total? = none) ∧
      (past.total? = none →
        watch.perform .result moment.clock = (.error .notStopped, watch, moment.clock)) ∧
      ((∀ mark ∈ past, mark.start? = none) →
        watch.perform .stop moment.clock = (.error .notStarted, watch, moment.clock)) ∧
      (past.Forward → past.Apart → past.Framed →
        ∃ total, past.total? = some total ∧ (past.names.map past.timeIn).sum ≤ total) := by
  intro past watch
  have accounts : Accounts past watch := passes.accounts free accounts_unused
  refine ⟨?_, ⟨past.nodup_names, accounts.unreserved, past.mem_names_iff⟩, ?_, ?_, ?_, ?_, ?_⟩
  · obtain ⟨steps, leads⟩ := passes.leads
    refine ⟨steps, ?_⟩
    have whole := leads []
    rw [List.append_nil] at whole
    exact whole
  · intro total stopped
    have nodup : (totalName :: watch.sections.map Prod.fst).Nodup := by
      rw [accounts.sections, List.map_map]
      simpa [Function.comp_def] using ⟨accounts.unreserved, past.nodup_names⟩
    have told := result_of_stopped (accounts.total.trans stopped) nodup
    unfold Stopwatch.perform
    rw [told, accounts.sections]
    rfl
  · refine ⟨fun going => ?_, accounts.stopped⟩
    have silent := Timeline.total?_append going []
    rw [List.append_nil] at silent
    exact silent
  · intro unstopped
    have untold : watch.result = .error .notStopped := by
      unfold Stopwatch.result
      rw [accounts.total.trans unstopped]
    unfold Stopwatch.perform
    rw [untold]
    rfl
  · intro unstarted
    unfold Stopwatch.perform
    rw [accounts.started, List.findSome?_eq_none_iff.mpr unstarted]
  · intro forward apart framed
    obtain ⟨total, told, within⟩ := accounts.nested.spent_le_total apart forward framed
    refine ⟨total, told, ?_⟩
    have sum := accounts.sum
    rw [accounts.sections, List.map_map] at sum
    exact sum.trans_le within

end Scripts

/-- A failure that leaves two sections of one name, and a section after its rescue. -/
def Task.rescued : Task :=
  .andThen .start
    (.andThen (.rescue (.during "fit" (.during "fit" (.fail "no progress"))) .idle)
      (.andThen (.during "report" .idle) .stop))

/-- Two sections of one name, one after the other. -/
def Task.twice : Task :=
  .andThen .start (.andThen (.during "fit" .idle) (.andThen (.during "fit" .idle) .stop))

theorem scripts_are_accounted_for_rescued :
    let rescued : Scene ℤ := (Task.rescued.run (.unused [0, 1, 2, 3, 5, 6, 8, 10])).2
    let twice : Scene ℤ := (Task.twice.run (.unused [0, 1, 3, 4, 5, 10])).2
    rescued.watch.perform .result rescued.clock =
        (.ok (some [(totalName, 10), ("fit", 5), ("report", 2)]), rescued.watch, []) ∧
      (twice.past.names.map twice.past.timeIn).sum = 3 ∧
        ∃ total, twice.past.total? = some total ∧
          (twice.past.names.map twice.past.timeIn).sum ≤ total := by
  refine ⟨?_, rfl, ?_⟩
  · obtain ⟨-, -, told, -⟩ := scripts_are_accounted_for (by decide)
      [0, 1, 2, 3, 5, 6, 8, 10] (.ends Task.rescued (.unused ([0, 1, 2, 3, 5, 6, 8, 10] : List ℤ)))
    exact told 10 rfl
  · obtain ⟨-, -, -, -, -, -, within⟩ := scripts_are_accounted_for (by decide)
      [0, 1, 3, 4, 5, 10] (.ends Task.twice (.unused ([0, 1, 3, 4, 5, 10] : List ℤ)))
    refine within ?forward ?apart ?framed
    case forward =>
      show List.Pairwise _ [Mark.stopped 10, .left "fit" 4 5, .entered "fit" 4, .left "fit" 1 3,
        .entered "fit" 1, .started 0]
      simp [Mark.reading]
    case apart =>
      intro late between early name name' reading reading' split
      replace split : [Mark.stopped 10, .left "fit" 4 5, .entered "fit" 4, .left "fit" 1 3,
        .entered "fit" 1, .started 0] = late ++ _ := split
      rcases late with _ | ⟨_, _ | ⟨_, _ | ⟨_, _ | ⟨_, _ | ⟨_, _ | ⟨_, _⟩⟩⟩⟩⟩⟩ <;> simp at split
      · rcases between with _ | ⟨mark, between⟩
        · simp at split
        · obtain ⟨-, -, -, rfl, -⟩ : _ ∧ _ ∧ _ ∧ Mark.left "fit" 1 3 = mark ∧ _ := by
            simpa using split
          exact ⟨_, List.mem_cons_self .., rfl⟩
      · rcases between with _ | ⟨mark, _ | ⟨_, _⟩⟩ <;> simp at split
    case framed =>
      exact ⟨[], [.left "fit" 4 5, .entered "fit" 4, .left "fit" 1 3, .entered "fit" 1], [], 0, 10,
        rfl, by simp, by simp [Mark.start?], by simp⟩

end Stopwatch

end ConjugateResidual
