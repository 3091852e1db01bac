import ConjugateResidual.Fault

/-!
A stopwatch with named sections. The whole runs from the last start to the last stop; the times of
sections of one name add up, also when they nest or end by a failure.
-/

namespace ConjugateResidual

structure Stopwatch (R : Type) where
  started? : Option R := none
  total? : Option R := none
  /-- Completed sections, in the order of their first completion. -/
  sections : List (String × R) := []
  /-- Open sections with the reading at their entry, innermost first. -/
  running : List (String × R) := []

namespace Stopwatch

variable {R : Type}

inductive Step where
  | start
  | stop
  | enter (name : String)
  | leave
  | fail (name message : String)
  | result

def totalName : String := "total_seconds"

/-- A table with one entry changed in place, or appended where there was none. -/
def put (change : Option R → R) (name : String) : List (String × R) → List (String × R)
  | [] => [(name, change none)]
  | (key, value) :: rest =>
      if key = name then (key, change (some value)) :: rest
      else (key, value) :: put change name rest

section

variable [Zero R] [Add R] [Sub R]

def start (reading : R) (watch : Stopwatch R) : Stopwatch R :=
  { watch with started? := some reading }

def stop (reading begun : R) (watch : Stopwatch R) : Stopwatch R :=
  { watch with total? := some (reading - begun) }

def enter (name : String) (reading : R) (watch : Stopwatch R) : Stopwatch R :=
  { watch with running := (name, reading) :: watch.running }

def book (name : String) (entered reading : R) (watch : Stopwatch R) : Stopwatch R :=
  { watch with
    sections := put (fun known => known.getD 0 + (reading - entered)) name watch.sections }

/-- The times so far; a section under the name of the total replaces it. -/
def result (watch : Stopwatch R) : Except (Fault R) (List (String × R)) :=
  match watch.total? with
  | none => .error .notStopped
  | some total =>
      .ok (watch.sections.foldl
        (fun table (name, value) => put (fun _ => value) name table) [(totalName, total)])

abbrev Outcome (R : Type) := Except (Fault R) (Option (List (String × R)))

/-- One step of a script. A step takes its readings from the front of the clock; a clock without
readings stands at zero. -/
def perform (step : Step) (watch : Stopwatch R) (clock : List R) :
    Outcome R × Stopwatch R × List R :=
  let reading := clock.headD 0
  match step with
  | .start => (.ok none, watch.start reading, clock.tail)
  | .stop =>
      match watch.started? with
      | none => (.error .notStarted, watch, clock)
      | some begun => (.ok none, watch.stop reading begun, clock.tail)
  | .enter name => (.ok none, watch.enter name reading, clock.tail)
  | .leave =>
      match watch.running with
      | [] => (.error .indexOutOfRange, watch, clock)
      | (name, entered) :: outer =>
          (.ok none, { watch with running := outer }.book name entered reading, clock.tail)
  | .fail name message =>
      (.error (.raised message), watch.book name reading (clock.tail.headD 0), clock.tail.tail)
  | .result =>
      (watch.result.map some, watch, clock)

def script : List Step → Stopwatch R → List R → List (Outcome R) × Stopwatch R
  | [], watch, _ => ([], watch)
  | step :: rest, watch, clock =>
      let (outcome, next, remaining) := watch.perform step clock
      let (outcomes, final) := script rest next remaining
      (outcome :: outcomes, final)

end

end Stopwatch

end ConjugateResidual
