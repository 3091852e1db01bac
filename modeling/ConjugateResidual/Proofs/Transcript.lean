import ConjugateResidual.Proofs.Scripts
import ConjugateResidual.Statistics

/-!
The progress output of a solve against its history. The lines that a solve prints are those of the
histories that the same solve records, sampled at multiples of the interval; and whether any are
printed changes nothing else.
-/

namespace ConjugateResidual

open Arithmetic

def Settings.recording (settings : Settings R) : Settings R :=
  { settings with keepsHistory := true }

def Settings.retelling (settings : Settings R) : Retelling :=
  { hidesHistory := !settings.keepsHistory }

private theorem Settings.retelling_recording (settings : Settings R) :
    settings.retelling.settings settings.recording = settings := by
  obtain ⟨ridge, absolute, relative, radius, budget, interval, keepsHistory⟩ := settings
  cases keepsHistory <;> rfl

variable {J R X Y : Type}

/-- In the recorded solve an observer is shown the history only if it would be without the record
as well. -/
def Run.seeing (settings : Settings R) (observer : Run J R X Y Bool) : Run J R X Y Bool :=
  if settings.keepsHistory then observer else Run.unrecorded observer

section Seeing

variable {settings : Settings R} {observer : Run J R X Y Bool}

private theorem Run.KeepsFrame.seeing (keeps : Run.KeepsFrame observer) :
    Run.KeepsFrame (Run.seeing settings observer) := by
  unfold Run.seeing
  split
  · exact keeps
  · exact keeps.unrecorded

private theorem Run.Appends.seeing (appends : Run.Appends observer) :
    Run.Appends (Run.seeing settings observer) := by
  unfold Run.seeing
  split
  · exact appends
  · exact appends.unrecorded

end Seeing

private theorem Run.remarksAt_of_silent {observer : Run J R X Y Bool}
    {asked : List (RunState J R X Y)}
    (silent : ∀ state ∈ asked, Run.remarks observer state = []) (iterations : Nat) :
    Run.remarksAt observer asked iterations = [] := by
  cases iterations with
  | zero => rfl
  | succ before =>
      rw [Run.remarksAt]
      cases found : asked[before]? with
      | none => rfl
      | some state => exact silent state (List.mem_of_getElem? found)

private theorem flatMap_ite {A B : Type} (due : A → Prop) [DecidablePred due] (line : A → B)
    (list : List A) :
    (list.flatMap fun item => if due item then [line item] else []) =
      (list.filter (due ·)).map line := by
  induction list with
  | nil => rfl
  | cons item rest ih =>
      rw [List.flatMap_cons, ih, List.filter_cons]
      by_cases now : due item
      · simp [now]
      · simp [now]

variable [Arithmetic R]

/-- Without remarks there is one line for each multiple of the interval, and no other one. -/
theorem Snapshot.table_of_silent {interval : Nat} (stats : Snapshot R) (completed : Nat)
    {remarks : Nat → List (Line R)} (silent : ∀ iterations, remarks iterations = []) :
    stats.table interval completed remarks =
      if 0 < interval then
        ((List.range (completed + 1)).filter (interval ∣ ·)).map stats.line
      else [] := by
  unfold Snapshot.table Snapshot.sample
  simp only [silent, List.append_nil]
  rw [flatMap_ite fun iterations => 0 < interval ∧ interval ∣ iterations]
  by_cases verbose : 0 < interval
  · simp [verbose]
  · simp [verbose]

variable [VectorArithmetic R Y]

/-- What a solve that returns prints, told by the report of the same solve with its history on
record. The observer may add lines of its own where it is asked. -/
structure Transcript (problem : Problem J R X Y) (interval : Nat) (observer : Run J R X Y Bool)
    (asked : List (RunState J R X Y)) (recorded : Report R) (lines : List (Line R)) : Prop where
  iterations : recorded.stats.iterations = asked.length
  zero : isZero (VectorArithmetic.norm problem.rightHandSide : R) = true →
    lines = if 0 < interval then [.banner problem.rows problem.columns] else []
  optimalities : recorded.stats.optimalities.length = asked.length + 1
  residuals : recorded.stats.residuals.length = asked.length + 1
  nonzero : isZero (VectorArithmetic.norm problem.rightHandSide : R) = false →
    let table := recorded.stats.table interval asked.length (Run.remarksAt observer asked)
    lines =
      if 0 < interval then
        .banner problem.rows problem.columns :: .header :: (table ++ [.blank])
      else table
  silent : isZero (VectorArithmetic.norm problem.rightHandSide : R) = false →
    (∀ state ∈ asked, Run.remarks observer state = []) →
      lines =
        if 0 < interval then
          .banner problem.rows problem.columns :: .header ::
            (((List.range (asked.length + 1)).filter (interval ∣ ·)).map recorded.stats.line ++
              [.blank])
        else []

/-! ### Solves with and without the record -/

variable [VectorArithmetic R X]
variable {problem : Problem J R X Y} {settings : Settings R} {observer : Run J R X Y Bool}
variable {before final : RunState J R X Y} {report : Report R}

/-- A solve that returns does so with its history on record as well. -/
theorem solve_recording (keeps : Run.KeepsFrame observer) (appends : Run.Appends observer)
    (returned : solve problem settings observer before = (.ok report, final)) :
    ∃ recorded final',
      solve problem settings.recording (Run.seeing settings observer) before =
          (.ok recorded, final') ∧
        RetoldEnd settings.retelling (.ok recorded, final') (.ok report, final) := by
  have free : before.workspace.busy = false := by
    cases busy : before.workspace.busy with
    | false => rfl
    | true =>
        rw [solve_of_busy busy] at returned
        cases returned
  have observes : Run.Lockstep (Surroundings.Retold settings.retelling) Eq
      (Vectors.ImagesIn fun _ => True) (Run.seeing settings observer) observer (fun _ => True)
      (Vectors.ImagesIn fun _ => True) := by
    unfold Run.seeing Settings.retelling
    cases settings.keepsHistory with
    | true => exact appends.retold keeps rfl
    | false => exact keeps.retold
  have ends := solve_retold problem settings.recording observes free
  rw [settings.retelling_recording, returned] at ends
  cases solved : solve problem settings.recording (Run.seeing settings observer) before with
  | mk outcome final' =>
      rw [solved] at ends
      cases outcome with
      | error fault => cases ends.outcome
      | ok recorded => exact ⟨recorded, final', rfl, ends⟩

private theorem busy_of_consulted (keeps : Run.KeepsFrame observer) {asked : RunState J R X Y}
    (member : asked ∈ consultations problem settings observer before) :
    asked.workspace.busy = true := by
  have account := solve_account problem settings observer before
  obtain ⟨index, found⟩ := List.mem_iff_getElem?.mp member
  unfold consultations at found
  generalize solveTurns problem settings observer before = turns at account found
  generalize solve problem settings observer before = result at account
  cases account with
  | refused | zero | unopened => cases found
  | broken nonzero opens unfolds | judged nonzero opens unfolds =>
      obtain ⟨_, _, _, chronicle, _⟩ := unfolds.opened keeps opens
      exact (chronicle.shown index asked found).busy

/-- Who overlooks the history may be shown it. -/
theorem solve_overlooked (keeps : Run.KeepsFrame observer) (overlooks : Run.Overlooks observer) :
    solve problem settings.recording observer before =
      solve problem settings.recording (Run.seeing settings observer) before := by
  refine solve_congr fun asked member => ?_
  have busy := busy_of_consulted keeps.seeing member
  unfold Run.seeing
  split
  · rfl
  · exact (overlooks asked busy).symm

omit [Arithmetic R] [VectorArithmetic R X] [VectorArithmetic R Y] in
/-- The observer is asked after full steps only. -/
theorem Turned.unasked {course : Course R} {state : RunState J R X Y} {turn : Turn J R X Y}
    {result : Except (Fault R) (Course R) × RunState J R X Y}
    (turned : Turned settings observer course state turn result)
    (notFull : turn.step? ≠ some .full) : turn.asked? = none := by
  cases turned with
  | alongGradient | toSphere => rfl
  | stuck unasked => exact unasked
  | asked => exact absurd rfl notFull

/-- A last step that is not a full one comes after all completed iterations. -/
theorem length_turns_of_partial
    (returned : solve problem settings observer before = (.ok report, final))
    {last : Turn J R X Y}
    (ends : last ∈ (solveTurns problem settings observer before).getLast?)
    (notFull : last.step? ≠ some .full) :
    (solveTurns problem settings observer before).length =
      (consultations problem settings observer before).length + 1 := by
  have account := solve_account problem settings observer before
  unfold consultations
  rw [returned] at account
  generalize solveTurns problem settings observer before = turns at account ends ⊢
  cases account with
  | zero => cases ends
  | judged nonzero opens unfolds =>
      obtain ⟨rfl, _⟩ | ⟨earlier, turn, _, _, rfl, passes, _, _, turned⟩ := unfolds.ends
      · cases ends
      · rw [List.getLast?_concat, Option.mem_some_iff] at ends
        rw [← ends] at notFull
        rw [Turn.consulted_concat, turned.unasked notFull, Option.toList_none, List.append_nil,
          Turn.length_consulted passes, List.length_append, List.length_singleton]

theorem solve_transcript (keeps : Run.KeepsFrame observer) (appends : Run.Appends observer)
    (kept : settings.keepsHistory = true)
    (returned : solve problem settings observer before = (.ok report, final)) :
    ∃ lines, final.printed = before.printed ++ lines ∧
      Transcript problem settings.interval observer
        (consultations problem settings observer before) report lines := by
  have account := solve_account problem settings observer before
  rw [returned] at account
  obtain ⟨_, agrees⟩ := account.agrees keeps
  have residuals := agrees.residuals
  have optimalities := agrees.optimalities
  rw [if_pos kept] at residuals optimalities
  cases zero : isZero (VectorArithmetic.norm problem.rightHandSide : R) with
  | true =>
      refine ⟨_, printed_solve_zero zero returned, ?_⟩
      exact
        { iterations := agrees.iterations, optimalities, residuals
          zero := fun _ => rfl
          nonzero := fun nonzero => by rw [zero] at nonzero; cases nonzero
          silent := fun nonzero => by rw [zero] at nonzero; cases nonzero }
  | false =>
      refine ⟨_, printed_solve keeps appends kept zero returned, ?_⟩
      refine
        { iterations := agrees.iterations, optimalities, residuals
          zero := fun blank => by rw [zero] at blank; cases blank
          nonzero := fun _ => rfl
          silent := fun _ silent => ?_ }
      rw [report.stats.table_of_silent _ (Run.remarksAt_of_silent silent)]
      split
      · rfl
      · rfl

/-- Another interval between the lines gives the same outcome, the same notes and the same
workspace. -/
theorem solve_interval (keeps : Run.KeepsFrame observer) (appends : Run.Appends observer)
    (before : RunState J R X Y) (interval : Nat) :
    let result := solve problem settings observer before
    let other := solve problem { settings with interval } observer before
    other.1 = result.1 ∧ other.2.journal = result.2.journal ∧
      other.2.workspace = result.2.workspace := by
  intro result other
  cases busy : before.workspace.busy with
  | true =>
      have refused : other = result := by
        rw [show result = _ from solve_of_busy busy, show other = _ from solve_of_busy busy]
      rw [refused]
      exact ⟨rfl, rfl, rfl⟩
  | false =>
      let retelling : Retelling := { interval? := some interval }
      have observes : Run.Lockstep (Surroundings.Retold retelling) Eq
          (Vectors.ImagesIn fun _ => True) observer observer (fun _ => True)
          (Vectors.ImagesIn fun _ => True) := appends.retold keeps rfl
      have ends := solve_retold problem settings observes busy
      have told : retelling.settings settings = { settings with interval } := by
        simp [retelling, Retelling.settings]
      rw [told] at ends
      refine ⟨?_, ends.journal, ends.workspace.trans (Retelling.workspace_of_shown rfl _)⟩
      rw [show other.1 = _ from ends.outcome]
      cases result.1 with
      | error fault => rfl
      | ok report => rfl

/-! ### Texts -/

private theorem Line.output_cons (line : Line Float) (lines : List (Line Float)) :
    Line.output (line :: lines) = line.text ++ "\n" ++ Line.output lines :=
  String.join_cons

private theorem Line.output_append (lines later : List (Line Float)) :
    Line.output (lines ++ later) = Line.output lines ++ Line.output later := by
  unfold Line.output
  rw [List.map_append, String.join_append]

def Snapshot.rows (interval completed : Nat) (stats : Snapshot Float) : List String :=
  ((List.range (completed + 1)).filter (interval ∣ ·)).map fun iterations =>
    tableRow (toString iterations) (shortNorm (stats.optimalities.getD iterations 0))
      (shortNorm (stats.residuals.getD iterations 0)) ++ "\n"

private theorem Line.output_rows (interval completed : Nat) (stats : Snapshot Float) :
    Line.output (((List.range (completed + 1)).filter (interval ∣ ·)).map stats.line) =
      String.join (stats.rows interval completed) := by
  unfold Line.output Snapshot.rows
  rw [List.map_map]
  rfl

section Texts

variable {J X Y : Type} [VectorArithmetic Float Y] {problem : Problem J Float X Y} {interval : Nat}
variable {observer : Run J Float X Y Bool} {asked : List (RunState J Float X Y)}
variable {recorded : Report Float} {lines : List (Line Float)}

private theorem Transcript.output
    (transcript : Transcript problem interval observer asked recorded lines)
    (nonzero : isZero (VectorArithmetic.norm problem.rightHandSide : Float) = false)
    (silent : ∀ state ∈ asked, Run.remarks observer state = []) (verbose : 0 < interval) :
    Line.output lines =
      "CRLS: system of " ++ toString problem.rows ++ " equations in " ++ toString problem.columns ++
        " variables" ++ "\n" ++ (tableRow "k" optimalityLabel residualLabel ++ "\n") ++
        String.join (recorded.stats.rows interval asked.length) ++ "\n" := by
  have told := transcript.silent nonzero silent
  rw [if_pos verbose] at told
  rw [told, Line.output_cons, Line.output_cons, Line.output_append, Line.output_rows,
    show Line.output [.blank] = "\n" from rfl]
  rw [show (Line.banner problem.rows problem.columns : Line Float).text =
    "CRLS: system of " ++ toString problem.rows ++ " equations in " ++ toString problem.columns ++
      " variables" from rfl,
    show (Line.header : Line Float).text = tableRow "k" optimalityLabel residualLabel from rfl]
  simp only [String.append_assoc]

end Texts

/-- In any arithmetic the progress output of a solve that returns is the history that the same solve
records, sampled at the multiples of the interval, between a banner, a header and an empty line; a
last step that is not a full one is no completed iteration and adds no line, nothing is printed at
interval zero, and a right-hand side that is zero gets no more than the banner. The interval changes
nothing but the printed lines, however the solve ends. Scripted observers are of the kind that is
asked for, and to those that do not note what they are shown it makes no difference that a history
is kept. At the machine's floats the lines read as texts. -/
theorem progress_lines_sample_the_history :
    (∀ {J R X Y : Type} [Arithmetic R] [VectorArithmetic R X] [VectorArithmetic R Y]
        (problem : Problem J R X Y) (settings : Settings R) (observer : Run J R X Y Bool)
        (before : RunState J R X Y), Run.KeepsFrame observer → Run.Appends observer →
        let result := solve problem settings observer before
        let observer' := Run.seeing settings observer
        let recording := solve problem settings.recording observer' before
        let asked := consultations problem settings.recording observer' before
        let turns := solveTurns problem settings.recording observer' before
        (∀ report final, result = (.ok report, final) →
          ∃ recorded final' lines, recording = (.ok recorded, final') ∧
            RetoldEnd settings.retelling recording result ∧
            report.stats.iterations = asked.length ∧ final.printed = before.printed ++ lines ∧
            Transcript problem settings.interval observer' asked recorded lines ∧
            ∀ last ∈ turns.getLast?, last.step? ≠ some .full → turns.length = asked.length + 1) ∧
        (Run.Overlooks observer → solve problem settings.recording observer before = recording) ∧
        ∀ interval,
          let other := solve problem { settings with interval } observer before
          other.1 = result.1 ∧ other.2.journal = result.2.journal ∧
            other.2.workspace = result.2.workspace) ∧
      (∀ script : Script, Run.Overlooks script.observe ∧
        ∀ observer ∈ [script.observe, script.observeTraced],
          Run.KeepsFrame observer ∧ Run.Appends observer) ∧
      ∀ {J X Y : Type} [VectorArithmetic Float Y] (problem : Problem J Float X Y) (interval : Nat)
        (observer : Run J Float X Y Bool) (asked : List (RunState J Float X Y))
        (recorded : Report Float) (printed lines : List (Line Float)),
        Transcript problem interval observer asked recorded lines →
        isZero (VectorArithmetic.norm problem.rightHandSide : Float) = false →
        (∀ state ∈ asked, Run.remarks observer state = []) → 0 < interval →
        Line.output (printed ++ lines) =
          Line.output printed ++
            ("CRLS: system of " ++ toString problem.rows ++ " equations in " ++
              toString problem.columns ++ " variables" ++ "\n" ++
              (tableRow "k" optimalityLabel residualLabel ++ "\n") ++
              String.join (recorded.stats.rows interval asked.length) ++ "\n") := by
  refine ⟨?_, ?_, ?_⟩
  · intro J R X Y _ _ _ problem settings observer before keeps appends result observer' recording
      asked turns
    refine ⟨?_, fun overlooks => solve_overlooked keeps overlooks,
      solve_interval keeps appends before⟩
    intro report final returned
    obtain ⟨recorded, final', records, ends⟩ := solve_recording keeps appends returned
    have alike : RetoldEnd settings.retelling recording result := by
      rw [show recording = _ from records, returned]
      exact ends
    obtain ⟨lines, printed, transcript⟩ :=
      solve_transcript keeps.seeing appends.seeing rfl records
    refine ⟨recorded, final', lines, records, alike, ?_, ?_, transcript, fun last =>
      length_turns_of_partial records⟩
    · rw [Except.ok.inj ends.outcome, Retelling.iterations_report]
      exact transcript.iterations
    · rw [show final.printed = final'.printed from ends.printed rfl]
      exact printed
  · exact fun script => ⟨script.overlooks, script.keeps_and_appends⟩
  · intro J X Y _ problem interval observer asked recorded printed lines transcript nonzero silent
      verbose
    rw [Line.output_append, transcript.output nonzero silent verbose]

/-- Every other line is asked for, and no history. -/
def Request.sampled : Request :=
  { Request.tall with keywords := { budget := .integer 2, interval := .integer 2 } }

theorem Request.solves_sampled :
    ∃ options problem before report final,
      Request.sampled.prepare.outcome = .ok (options, problem) ∧
        (options.interval = 2 ∧ options.keepsHistory = false) ∧
        isZero (VectorArithmetic.norm problem.rightHandSide : Float) = false ∧
        solveWith options problem neverExit before = (.ok report, final) ∧
        report.stats.iterations = 2 := by
  have computed : (solveInPlace Request.sampled.prepare neverExit
      (.ofWorkspace .tall)).1.toOption.map (fun report => report.stats.iterations) = some 2 := by
    decide +kernel
  have posed : (Request.sampled.prepare.outcome.toOption.map fun accepted =>
      (accepted.1.interval, accepted.1.keepsHistory,
        isZero (VectorArithmetic.norm accepted.2.rightHandSide : Float))) =
          some (2, false, false) := by
    decide +kernel
  obtain ⟨options, problem, before, report, final, ready, returned, count⟩ :=
    solveWith_of_view computed
  rw [ready] at posed
  simp only [Except.toOption, Option.map_some, Option.some.injEq, Prod.mk.injEq] at posed
  obtain ⟨interval, unkept, nonzero⟩ := posed
  exact ⟨options, problem, before, report, final, ready, ⟨interval, unkept⟩, nonzero, returned,
    count⟩

/-- Two iterations without a history, with a line at the start and one at the end. -/
theorem progress_lines_sample_the_history_tall :
    ∃ options problem before report final recorded final',
      Request.sampled.prepare.outcome = .ok (options, problem) ∧
        solveWith options problem neverExit before = (.ok report, final) ∧
        report.stats.iterations = 2 ∧ report.stats.residuals = [] ∧
        solveWith { options with keepsHistory := true } problem (Run.unrecorded neverExit) before =
          (.ok recorded, final') ∧
        recorded.stats.residuals.length = 3 ∧
        final.printed = before.printed ++
          [.banner problem.rows problem.columns, .header, recorded.stats.line 0,
            recorded.stats.line 2, .blank] ∧
        Line.output final.printed =
          Line.output before.printed ++
            ("CRLS: system of " ++ toString problem.rows ++ " equations in " ++
              toString problem.columns ++ " variables" ++ "\n" ++
              (tableRow "k" optimalityLabel residualLabel ++ "\n") ++
              String.join (recorded.stats.rows 2 2) ++ "\n") ∧
        (solveWith { options with interval := 0 } problem neverExit before).1 = .ok report := by
  obtain ⟨options, problem, before, report, final, ready, ⟨interval, unkept⟩, nonzero, returned,
    count⟩ := Request.solves_sampled
  let settings := options.resolve problem.rows problem.columns problem.tolerance
  have ended : solve problem settings neverExit before = (.ok report, final) := returned
  obtain ⟨generic, -, text⟩ := progress_lines_sample_the_history
  obtain ⟨told, -, others⟩ := generic problem settings neverExit before
    keepsFrame_neverExit .neverExit
  obtain ⟨recorded, final', lines, records, ends, completed, printed, transcript, -⟩ :=
    told report final ended
  have calls : (consultations problem settings.recording (Run.seeing settings neverExit)
      before).length = 2 := Int.ofNat_inj.mp (completed.symm.trans count)
  have blind : Run.seeing settings (neverExit : MachineRun Bool) = Run.unrecorded neverExit := by
    unfold Run.seeing
    exact if_neg (by rw [show settings.keepsHistory = false from unkept]; decide)
  have silent : ∀ state ∈ consultations problem settings.recording
      (Run.seeing settings neverExit) before,
      Run.remarks (Run.seeing settings neverExit) state = [] := by
    rw [blind]
    exact fun _ _ => rfl
  have every : settings.interval = 2 := interval
  have verbose : 0 < settings.interval := by omega
  have sampled := transcript.silent nonzero silent
  have output := text problem settings.interval _ _ recorded before.printed lines transcript
    nonzero silent verbose
  have lengths := transcript.residuals
  have outcome := ends.outcome
  rw [calls] at sampled output lengths
  rw [if_pos verbose, every] at sampled
  rw [every, ← printed] at output
  rw [records, ended] at outcome
  rw [blind] at records
  refine ⟨options, problem, before, report, final, recorded, final', ready, returned, count, ?_,
    records, lengths, ?_, output, ?_⟩
  · rw [Except.ok.inj outcome, Settings.retelling, show settings.keepsHistory = false from unkept]
    rfl
  · rw [printed, sampled]
    rfl
  · have other := (others 0).1
    rw [ended] at other
    exact other

end ConjugateResidual
