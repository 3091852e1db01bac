import Mathlib.Algebra.BigOperators.Group.List.Basic
import Mathlib.Algebra.Order.Group.Defs
import Mathlib.Tactic.Abel
import ConjugateResidual.Stopwatch

/-!
The time line of a stopwatch: what has happened to it, with the readings of the clock. What a
stopwatch should tell is read off its time line alone. If the clock never goes back and no section
is entered while another one is open, the times of the sections fit into the time of the whole.
-/

namespace ConjugateResidual

namespace Stopwatch

variable {R : Type}

inductive Mark (R : Type) where
  | started (reading : R)
  | stopped (reading : R)
  | entered (name : String) (reading : R)
  /-- A section is left, with the reading at its entry and the present one. -/
  | left (name : String) (entry reading : R)

namespace Mark

def reading : Mark R → R
  | .started reading | .stopped reading | .entered _ reading | .left _ _ reading => reading

def start? : Mark R → Option R
  | .started reading => some reading
  | _ => none

def isStop : Mark R → Bool
  | .stopped _ => true
  | _ => false

def isExit : Mark R → Bool
  | .left .. => true
  | _ => false

def ofSection : Mark R → Bool
  | .entered .. | .left .. => true
  | _ => false

def duration [Zero R] [Sub R] : Mark R → R
  | .left _ entry reading => reading - entry
  | _ => 0

/-- What a mark adds to the time of the sections of one name. -/
def durationIn [Zero R] [Sub R] (name : String) : Mark R → R
  | .left other entry reading => if other = name then reading - entry else 0
  | _ => 0

end Mark

abbrev Timeline (R : Type) := List (Mark R)

namespace Timeline

/-- The reading at the last stop minus the reading at the last start before it. -/
def total? [Sub R] : Timeline R → Option R
  | [] => none
  | .stopped reading :: earlier => (earlier.findSome? Mark.start?).map (reading - ·)
  | _ :: earlier => total? earlier

theorem total?_append [Sub R] {late : Timeline R} (going : ∀ mark ∈ late, mark.isStop = false)
    (rest : Timeline R) : total? (late ++ rest) = total? rest := by
  induction late with
  | nil => rfl
  | cons mark late ih =>
      obtain ⟨goes, later⟩ := List.forall_mem_cons.mp going
      cases mark with
      | stopped => cases goes
      | started | entered | left => exact ih later

private theorem findSome?_start {within : Timeline R} (going : ∀ mark ∈ within, mark.start? = none)
    (begun : R) (early : Timeline R) :
    (within ++ .started begun :: early).findSome? Mark.start? = some begun := by
  rw [List.findSome?_append, List.findSome?_eq_none_iff.mpr going]
  rfl

def names : Timeline R → List String
  | [] => []
  | .left name _ _ :: earlier =>
      if name ∈ names earlier then names earlier else names earlier ++ [name]
  | _ :: earlier => names earlier

theorem mem_names_iff (past : Timeline R) (name : String) :
    name ∈ past.names ↔ ∃ entry reading, .left name entry reading ∈ past := by
  induction past with
  | nil => simp [names]
  | cons mark earlier ih =>
      cases mark with
      | left other entry reading =>
          unfold names
          split
          · rename_i known
            rw [ih]
            constructor
            · rintro ⟨entry', reading', member⟩
              exact ⟨entry', reading', List.mem_cons_of_mem _ member⟩
            · rintro ⟨entry', reading', member⟩
              rcases List.mem_cons.mp member with same | member
              · cases same
                exact ih.mp known
              · exact ⟨entry', reading', member⟩
          · rw [List.mem_append, List.mem_singleton, ih]
            constructor
            · rintro (⟨entry', reading', member⟩ | rfl)
              · exact ⟨entry', reading', List.mem_cons_of_mem _ member⟩
              · exact ⟨entry, reading, List.mem_cons_self ..⟩
            · rintro ⟨entry', reading', member⟩
              rcases List.mem_cons.mp member with same | member
              · cases same
                exact .inr rfl
              · exact .inl ⟨entry', reading', member⟩
      | started | stopped | entered => simp [names, ih]

theorem nodup_names (past : Timeline R) : past.names.Nodup := by
  induction past with
  | nil => exact List.nodup_nil
  | cons mark earlier ih =>
      cases mark with
      | left name entry reading =>
          unfold names
          split
          · exact ih
          · rename_i unknown
            rw [List.nodup_append]
            refine ⟨ih, List.pairwise_singleton .., ?_⟩
            intro known member other single
            rw [List.mem_singleton.mp single]
            exact fun same => unknown (same ▸ member)
      | started | stopped | entered => exact ih

/-! ### Time spent in sections -/

section Spent

variable [AddCommGroup R]

/-- The time spent in sections of one name, open ones apart. -/
def timeIn (past : Timeline R) (name : String) : R :=
  (past.map (Mark.durationIn name)).sum

def spent (past : Timeline R) : R :=
  (past.map Mark.duration).sum

theorem timeIn_cons (mark : Mark R) (earlier : Timeline R) (name : String) :
    timeIn (mark :: earlier) name = mark.durationIn name + earlier.timeIn name := by
  simp [timeIn]

theorem spent_cons (mark : Mark R) (earlier : Timeline R) :
    spent (mark :: earlier) = mark.duration + earlier.spent := by
  simp [spent]

/-- Nothing but an exit changes what has been spent. -/
theorem spent_of_staying {mark : Mark R} (stays : mark.isExit = false) (earlier : Timeline R) :
    names (mark :: earlier) = earlier.names ∧ timeIn (mark :: earlier) = earlier.timeIn ∧
      spent (mark :: earlier) = earlier.spent := by
  cases mark with
  | left => cases stays
  | started | stopped | entered =>
      refine ⟨rfl, funext fun name => ?_, ?_⟩
      · rw [timeIn_cons]
        exact zero_add _
      · rw [spent_cons]
        exact zero_add _

theorem timeIn_of_notMem {past : Timeline R} {name : String} (unknown : name ∉ past.names) :
    past.timeIn name = 0 := by
  rw [mem_names_iff] at unknown
  apply List.sum_eq_zero
  intro time member
  obtain ⟨mark, made, rfl⟩ := List.mem_map.mp member
  cases mark with
  | left other entry reading =>
      have foreign : other ≠ name := fun same => unknown ⟨entry, reading, same ▸ made⟩
      exact if_neg foreign
  | started | stopped | entered => rfl

end Spent

/-! ### Sections that are not nested -/

def Forward [LE R] (past : Timeline R) : Prop :=
  past.Pairwise fun later earlier => earlier.reading ≤ later.reading

/-- Between two entries a section is left. -/
def Apart (past : Timeline R) : Prop :=
  ∀ (late between early : Timeline R) (name name' : String) (reading reading' : R),
    past = late ++ .entered name' reading' :: (between ++ .entered name reading :: early) →
      ∃ mark ∈ between, mark.isExit = true

/-- All entries and exits lie between the last stop and the last start before it. -/
def Framed (past : Timeline R) : Prop :=
  ∃ (late within early : Timeline R) (begun ended : R),
    past = late ++ .stopped ended :: (within ++ .started begun :: early) ∧
      (∀ mark ∈ late, mark.isStop = false ∧ mark.ofSection = false) ∧
      (∀ mark ∈ within, mark.start? = none) ∧ ∀ mark ∈ early, mark.ofSection = false

/-- Every exit belongs to the section that was entered last and not left yet. The sections that are
still open are told with the readings at their entries, the innermost one first. -/
inductive Nested : Timeline R → List (String × R) → Prop where
  | nil : Nested [] []
  | started {past : Timeline R} {running : List (String × R)} {reading : R}
      (before : Nested past running) : Nested (.started reading :: past) running
  | stopped {past : Timeline R} {running : List (String × R)} {reading : R}
      (before : Nested past running) : Nested (.stopped reading :: past) running
  | entered {past : Timeline R} {running : List (String × R)} {name : String} {reading : R}
      (before : Nested past running) :
      Nested (.entered name reading :: past) ((name, reading) :: running)
  | left {past : Timeline R} {running : List (String × R)} {name : String} {entry reading : R}
      (before : Nested past ((name, entry) :: running)) :
      Nested (.left name entry reading :: past) running

theorem Apart.tail {mark : Mark R} {past : Timeline R} (apart : Apart (mark :: past)) :
    Apart past := by
  intro late between early name name' reading reading' split
  exact apart (mark :: late) between early name name' reading reading' (congrArg (mark :: ·) split)

/-- Where the sections are not nested, at most one is open, and it was entered after the last
exit. -/
theorem Nested.running_of_apart {past : Timeline R} {running : List (String × R)}
    (nested : Nested past running) (apart : past.Apart) :
    running = [] ∨
      ∃ (name : String) (entry : R) (late early : Timeline R), running = [(name, entry)] ∧
        past = late ++ .entered name entry :: early ∧ ∀ mark ∈ late, mark.isExit = false := by
  induction nested with
  | nil => exact .inl rfl
  | @started past running reading before ih | @stopped past running reading before ih =>
      refine (ih apart.tail).imp_right ?_
      rintro ⟨name, entry, late, early, single, rfl, quiet⟩
      refine ⟨name, entry, _ :: late, early, single, rfl, ?_⟩
      rw [List.forall_mem_cons]
      exact ⟨rfl, quiet⟩
  | @entered past running name reading before ih =>
      rcases ih apart.tail with rfl | ⟨name', entry, late, early, rfl, rfl, quiet⟩
      · exact .inr ⟨name, reading, [], past, rfl, rfl, fun _ member => by cases member⟩
      · obtain ⟨mark, member, exit⟩ := apart [] late early name' name entry reading rfl
        rw [quiet mark member] at exit
        cases exit
  | @left past running name entry reading before ih =>
      rcases ih apart.tail with closed | ⟨name', entry', late, early, single, _⟩
      · cases closed
      · cases single
        exact .inl rfl

section Ordered

variable [AddCommGroup R] [LinearOrder R] [IsOrderedAddMonoid R]

/-- From a reading before all entries on, the times of the sections fit in before the last exit. -/
theorem Nested.spent_le {past : Timeline R} {running : List (String × R)}
    (nested : Nested past running) (apart : past.Apart) (forward : past.Forward) {begun : R}
    (after : ∀ mark ∈ past, mark.ofSection = true → begun ≤ mark.reading) :
    (running = [] → ∀ ended, begun ≤ ended →
      (∀ mark ∈ past, mark.ofSection = true → mark.reading ≤ ended) →
        begun + past.spent ≤ ended) ∧
      ∀ name entry, running = [(name, entry)] → begun + past.spent ≤ entry := by
  induction nested with
  | nil =>
      refine ⟨fun _ ended within _ => ?_, fun _ _ single => by cases single⟩
      simpa [spent] using within
  | @started past running reading before ih | @stopped past running reading before ih =>
      obtain ⟨_, forward⟩ := List.pairwise_cons.mp forward
      obtain ⟨closed, single⟩ := ih apart.tail forward
        fun mark member => after mark (List.mem_cons_of_mem _ member)
      rw [spent_cons, show Mark.duration _ = (0 : R) from rfl, zero_add]
      refine ⟨fun outside ended within bounded => ?_, single⟩
      exact closed outside ended within fun mark member =>
        bounded mark (List.mem_cons_of_mem _ member)
  | @entered past running name reading before ih =>
      obtain ⟨latest, forward⟩ := List.pairwise_cons.mp forward
      obtain ⟨closed, _⟩ := ih apart.tail forward
        fun mark member => after mark (List.mem_cons_of_mem _ member)
      rw [spent_cons, show Mark.duration _ = (0 : R) from rfl, zero_add]
      refine ⟨fun outside => (by cases outside), fun _ _ single => ?_⟩
      cases single
      exact closed rfl reading (after _ (List.mem_cons_self ..) rfl) fun mark member _ =>
        latest mark member
  | @left past running name entry reading before ih =>
      obtain ⟨_, forward⟩ := List.pairwise_cons.mp forward
      obtain ⟨_, single⟩ := ih apart.tail forward
        fun mark member => after mark (List.mem_cons_of_mem _ member)
      obtain rfl : running = [] := by
        rcases before.running_of_apart apart.tail with closed | ⟨_, _, _, _, one, _⟩
        · cases closed
        · cases one
          rfl
      refine ⟨fun _ ended _ bounded => ?_, fun _ _ one => by cases one⟩
      calc begun + spent (.left name entry reading :: past)
          = (begun + past.spent) + (reading - entry) := by
            rw [spent_cons, Mark.duration]
            abel
        _ ≤ entry + (reading - entry) := by gcongr; exact single name entry rfl
        _ = reading := add_sub_cancel ..
        _ ≤ ended := bounded _ (List.mem_cons_self ..) rfl

/-- If the clock never goes back and the sections are not nested, those that lie between a start and
a stop take no more time together than there is between these two. -/
theorem Nested.spent_le_total {past : Timeline R} {running : List (String × R)}
    (nested : Nested past running) (apart : past.Apart) (forward : past.Forward)
    (framed : past.Framed) : ∃ total, past.total? = some total ∧ past.spent ≤ total := by
  obtain ⟨late, within, early, begun, ended, rfl, quiet, going, unopened⟩ := framed
  refine ⟨ended - begun, ?_, ?_⟩
  · rw [total?_append fun mark member => (quiet mark member).1, total?,
      findSome?_start going, Option.map_some]
  · obtain ⟨_, untilStop, _⟩ := List.pairwise_append.mp forward
    obtain ⟨bounded, beforeStop⟩ := List.pairwise_cons.mp untilStop
    obtain ⟨_, _, begins⟩ := List.pairwise_append.mp beforeStop
    have between : ∀ mark ∈ late ++ .stopped ended :: (within ++ .started begun :: early),
        mark.ofSection = true → mark ∈ within := by
      intro mark member inSection
      rcases List.mem_append.mp member with outside | member
      · rw [(quiet mark outside).2] at inSection
        cases inSection
      · rcases List.mem_cons.mp member with rfl | member
        · cases inSection
        · rcases List.mem_append.mp member with inside | member
          · exact inside
          · rcases List.mem_cons.mp member with rfl | outside
            · cases inSection
            · rw [unopened mark outside] at inSection
              cases inSection
    have after : ∀ mark ∈ late ++ .stopped ended :: (within ++ .started begun :: early),
        mark.ofSection = true → begun ≤ mark.reading := fun mark member inSection =>
      begins mark (between mark member inSection) _ (List.mem_cons_self ..)
    have before : ∀ mark ∈ late ++ .stopped ended :: (within ++ .started begun :: early),
        mark.ofSection = true → mark.reading ≤ ended := fun mark member inSection =>
      bounded mark (List.mem_append_left _ (between mark member inSection))
    have whole : begun ≤ ended := bounded _ (List.mem_append_right _ (List.mem_cons_self ..))
    obtain ⟨closed, single⟩ := nested.spent_le apart forward after
    rw [le_sub_iff_add_le']
    rcases nested.running_of_apart apart with outside | ⟨name, entry, later, earlier, one, split, _⟩
    · exact closed outside ended whole before
    · have entered : Mark.entered name entry ∈
          late ++ .stopped ended :: (within ++ .started begun :: early) := by
        rw [split]
        exact List.mem_append_right _ (List.mem_cons_self ..)
      exact (single name entry one).trans (before _ entered rfl)

end Ordered

end Timeline

end Stopwatch

end ConjugateResidual
