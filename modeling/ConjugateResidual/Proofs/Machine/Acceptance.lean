import ConjugateResidual.Proofs.Machine.Building

/-!
Which options and right-hand sides are accepted, and how the others are refused. Numbers are read
before anything is judged: a value that cannot be read at all ends in the fault of its reading, and
only what has been read is refused by name.
-/

namespace ConjugateResidual

/-- The fault with which the reading of a value as a number ends, if it does: an integer may be too
large, a text no numeral, and the rest no number. -/
def Value.unreadable? : Value → Option (Fault Float)
  | .integer value =>
      if Binary64.overflowThreshold ≤ value.natAbs then some .integerTooLarge else none
  | .text value => if (Decimal.readFloat? value).isNone then some .unreadableNumber else none
  | .absent | .list _ | .table _ => some .notNumeric
  | .truth _ | .typedTruth _ | .number _ | .typedInteger _ _ | .typedNumber _ _
  | .typedComplex _ _ => none

private theorem Value.unreadable?_kinds {value : Value} {fault : Fault Float}
    (unreadable : value.unreadable? = some fault) :
    fault = .integerTooLarge ∨ fault = .unreadableNumber ∨ fault = .notNumeric := by
  have kinds : value.unreadable? = none ∨ value.unreadable? = some .integerTooLarge ∨
      value.unreadable? = some .unreadableNumber ∨ value.unreadable? = some .notNumeric := by
    unfold unreadable?
    split
    · split
      · exact .inr (.inl rfl)
      · exact .inl rfl
    · split
      · exact .inr (.inr (.inl rfl))
      · exact .inl rfl
    all_goals simp
  rw [unreadable] at kinds
  simpa using kinds

/-! ### Checks that refuse -/

namespace Check

variable {A B : Type} {allowed : Misuse → Prop}

/-- A check that fails in no other way than by refusing what it was asked about. -/
def Refuses (allowed : Misuse → Prop) (outcome : Outcome A) : Prop :=
  ∀ fault, outcome = .error fault → ∃ cause, fault = .misuse cause ∧ allowed cause

namespace Refuses

theorem ok (value : A) : Refuses allowed (.ok value : Outcome A) := by
  intro fault failed
  cases failed

theorem refuse {cause : Misuse} (allows : allowed cause) :
    Refuses allowed (Check.refuse cause : Outcome A) := by
  intro fault failed
  cases failed
  exact ⟨cause, rfl, allows⟩

theorem bind {outcome : Outcome A} {next : A → Outcome B} (first : Refuses allowed outcome)
    (rest : ∀ value, outcome = .ok value → Refuses allowed (next value)) :
    Refuses allowed (outcome >>= next) := by
  cases outcome with
  | error fault =>
      intro other failed
      cases failed
      exact first fault rfl
  | ok value => exact rest value rfl

theorem branch {condition : Prop} [Decidable condition] {yes no : Outcome A}
    (first : condition → Refuses allowed yes) (second : ¬ condition → Refuses allowed no) :
    Refuses allowed (if condition then yes else no) := by
  split
  · exact first ‹_›
  · exact second ‹_›

end Refuses

def Reads (fault? : Option (Fault Float)) (outcome : Outcome A) : Prop :=
  match fault? with
  | some fault => outcome = .error fault
  | none => ∃ value, outcome = .ok value

private theorem Reads.branch {condition : Prop} [Decidable condition] (fault : Fault Float)
    (value : A) :
    Reads (if condition then some fault else none)
      (if condition then .error fault else .ok value) := by
  by_cases failing : condition
  · rw [if_pos failing, if_pos failing]
    rfl
  · rw [if_neg failing, if_neg failing]
    exact ⟨value, rfl⟩

def EndsIn (fault? : Option (Fault Float)) (outcome : Outcome A) : Prop :=
  match fault? with
  | some fault => outcome = .error fault
  | none => Refuses (·.family = .value) outcome

/-- The first fault counts. -/
theorem Reads.bind {fault? later? : Option (Fault Float)} {outcome : Outcome A}
    {next : A → Outcome B} (first : Reads fault? outcome)
    (rest : ∀ value, EndsIn later? (next value)) :
    EndsIn (fault?.or later?) (outcome >>= next) := by
  cases fault? with
  | some fault =>
      have failed : outcome = .error fault := first
      rw [failed]
      rfl
  | none =>
      obtain ⟨value, read⟩ := first
      rw [read]
      exact rest value

def InRange (number : Float) : Prop :=
  number.isFinite = true ∧ 0.0 ≤ number

private theorem nonnegative_number_eq_ok_iff {name : String} {number : Float} :
    nonnegative name (.number number) = .ok () ↔ InRange number := by
  unfold nonnegative InRange
  dsimp only
  split
  · rename_i accepted
    simpa using accepted
  · rename_i refused
    simpa [refuse] using refused

private theorem nonnegative_number_refuses (name : String) (number : Float) :
    Refuses (·.family = .value) (nonnegative name (.number number)) :=
  .branch (fun _ => .ok _) fun _ => .refuse rfl

private theorem nonnegativeInteger_eq_ok_iff {name : String} {value : Value} {count : Nat} :
    nonnegativeInteger name value = .ok count ↔ value.integer? = some (count : Int) := by
  unfold nonnegativeInteger
  cases value.integer? with
  | none => simp [refuse]
  | some whole =>
      dsimp only
      split
      · simp only [Except.ok.injEq, Option.some.injEq]
        omega
      · simp only [refuse, reduceCtorEq, Option.some.injEq, false_iff]
        omega

private theorem nonnegativeInteger_refuses (name : String) (value : Value) :
    Refuses (·.family = .value) (nonnegativeInteger name value) := by
  unfold nonnegativeInteger
  split
  · exact .refuse rfl
  · exact .branch (fun _ => .ok _) fun _ => .refuse rfl

private theorem mode_eq_ok_iff {value : Value} {mode : Mode} :
    Check.mode value = .ok mode ↔ value = .text mode.name := by
  constructor
  · intro known
    unfold Check.mode at known
    split at known
    · split at known
      · cases known
        exact congrArg Value.text ‹_›
      · split at known
        · cases known
          exact congrArg Value.text ‹_›
        · cases known
    · cases known
  · rintro rfl
    exact mode_name mode

private theorem mode_refuses (value : Value) : Refuses (·.family = .value) (Check.mode value) := by
  unfold Check.mode
  split
  · exact .branch (fun _ => .ok _) fun _ => .branch (fun _ => .ok _) fun _ => .refuse rfl
  · exact .refuse rfl

end Check

private theorem Value.reads_toFloat (value : Value) :
    Check.Reads value.unreadable? value.toFloat := by
  cases value with
  | absent => rfl
  | list items => rfl
  | table items => rfl
  | truth value => exact ⟨_, rfl⟩
  | typedTruth value => exact ⟨_, rfl⟩
  | number value => exact ⟨_, rfl⟩
  | typedInteger elementType value => exact ⟨_, rfl⟩
  | typedNumber precision value => exact ⟨_, rfl⟩
  | typedComplex precision value => exact ⟨_, rfl⟩
  | integer value =>
      dsimp only [unreadable?, toFloat]
      -- The threshold is a number of a thousand binary digits, which is not to be looked at.
      generalize Binary64.overflowThreshold = threshold
      exact .branch _ _
  | text value =>
      dsimp only [unreadable?, toFloat]
      cases Decimal.readFloat? value with
      | none => rfl
      | some number => exact ⟨_, rfl⟩

/-! ### Options -/

namespace Keywords

def toleranceValue (tolerance? : Option Float) : Value :=
  tolerance?.elim .absent .number

def checkObserver : ObserverArgument → Check.Outcome Unit
  | .omitted | .callable | .value .absent => .ok ()
  | .value value => Check.refuse (.notCallable value.kindName)

/-- What is asked once the numbers have been read. -/
def judge (keywords : Keywords) (ridge : Float) (absolute? relative? : Option Float)
    (radius : Float) : Check.Outcome (Options Float) := do
  Check.nonnegative "lam" (.number ridge)
  checkTolerance "atol" (toleranceValue absolute?)
  checkTolerance "rtol" (toleranceValue relative?)
  Check.nonnegative "radius" (.number radius)
  let budget ← Check.nonnegativeInteger "itmax" keywords.budget
  let interval ← Check.nonnegativeInteger "verbose" keywords.interval
  let mode ← Check.mode keywords.mode
  checkObserver keywords.observer
  .ok
    { ridge, absolute?, relative?, radius, budget, interval, mode
      keepsHistory := keywords.keepsHistory.isTrue }

private theorem readTolerance_eq (value : Value) :
    readTolerance value = (Options.readTolerance? value).map toleranceValue := by
  have spelled (reading : Except (Fault Float) Float) :
      reading.map Value.number = (reading.map some).map toleranceValue := by
    cases reading with
    | error fault => rfl
    | ok number => rfl
  unfold readTolerance Options.readTolerance?
  split
  · rfl
  · exact spelled _

private theorem readTolerance?_value (tolerance? : Option Float) :
    Options.readTolerance? (toleranceValue tolerance?) = .ok tolerance? := by
  cases tolerance? with
  | none => rfl
  | some tolerance => rfl

/-- The numbers as values, which are read again when they have been judged. -/
def spelled (keywords : Keywords) (ridge : Float) (absolute? relative? : Option Float)
    (radius : Float) : Keywords :=
  { keywords with
    ridge := .number ridge
    absolute := toleranceValue absolute?
    relative := toleranceValue relative?
    radius := .number radius
    keepsHistory := .truth keywords.keepsHistory.isTrue
    observer :=
      match keywords.observer with
      | .value .absent => .omitted
      | other => other }

private theorem checkObserver_eq (keywords : Keywords) (ridge : Float)
    (absolute? relative? : Option Float)
    (radius : Float) :
    (match (keywords.spelled ridge absolute? relative? radius).observer with
      | .value value => Check.refuse (.notCallable value.kindName)
      | _ => .ok () : Check.Outcome Unit) = checkObserver keywords.observer := by
  unfold spelled
  cases keywords.observer with
  | omitted => rfl
  | callable => rfl
  | value value => cases value <;> rfl

private theorem judge_eq (keywords : Keywords) (ridge : Float) (absolute? relative? : Option Float)
    (radius : Float) :
    (do
      let spelled := keywords.spelled ridge absolute? relative? radius
      spelled.check
      .ok
        { ridge := ← spelled.ridge.toFloat
          absolute? := ← Options.readTolerance? spelled.absolute
          relative? := ← Options.readTolerance? spelled.relative
          radius := ← spelled.radius.toFloat
          budget := ← Check.nonnegativeInteger "itmax" spelled.budget
          interval := ← Check.nonnegativeInteger "verbose" spelled.interval
          keepsHistory := spelled.keepsHistory.isTrue
          mode := ← Check.mode spelled.mode }) =
      keywords.judge ridge absolute? relative? radius := by
  have observer := keywords.checkObserver_eq ridge absolute? relative? radius
  unfold check judge
  dsimp only [spelled] at observer ⊢
  cases Check.nonnegative "lam" (.number ridge) with
  | error fault => rfl
  | ok =>
    cases checkTolerance "atol" (toleranceValue absolute?) with
    | error fault => rfl
    | ok =>
      cases checkTolerance "rtol" (toleranceValue relative?) with
      | error fault => rfl
      | ok =>
        cases Check.nonnegative "radius" (.number radius) with
        | error fault => rfl
        | ok =>
          cases Check.nonnegativeInteger "itmax" keywords.budget with
          | error fault => rfl
          | ok budget =>
            cases Check.nonnegativeInteger "verbose" keywords.interval with
            | error fault => rfl
            | ok interval =>
              cases Check.mode keywords.mode with
              | error fault => rfl
              | ok mode =>
                rw [← observer]
                simp only [readTolerance?_value]
                rfl

theorem ofKeywords_eq (keywords : Keywords) :
    Options.ofKeywords keywords = (do
      let ridge ← keywords.ridge.toFloat
      let absolute? ← Options.readTolerance? keywords.absolute
      let relative? ← Options.readTolerance? keywords.relative
      let radius ← keywords.radius.toFloat
      keywords.judge ridge absolute? relative? radius) := by
  unfold Options.ofKeywords normalized
  rw [readTolerance_eq, readTolerance_eq]
  cases keywords.ridge.toFloat with
  | error fault => rfl
  | ok ridge =>
      cases Options.readTolerance? keywords.absolute with
      | error fault => rfl
      | ok absolute? =>
          cases Options.readTolerance? keywords.relative with
          | error fault => rfl
          | ok relative? =>
              cases keywords.radius.toFloat with
              | error fault => rfl
              | ok radius => exact keywords.judge_eq ridge absolute? relative? radius

private theorem checkTolerance_eq_ok_iff {name : String} {tolerance? : Option Float} :
    checkTolerance name (toleranceValue tolerance?) = .ok () ↔
      ∀ tolerance ∈ tolerance?, Check.InRange tolerance := by
  cases tolerance? with
  | none => simp [toleranceValue, checkTolerance]
  | some tolerance =>
      have given : checkTolerance name (toleranceValue (some tolerance)) =
          Check.nonnegative name (.number tolerance) := rfl
      rw [given, Check.nonnegative_number_eq_ok_iff]
      simp

private theorem checkTolerance_refuses (name : String) (tolerance? : Option Float) :
    Check.Refuses (·.family = .value) (checkTolerance name (toleranceValue tolerance?)) := by
  cases tolerance? with
  | none => exact .ok _
  | some tolerance => exact Check.nonnegative_number_refuses name tolerance

private theorem checkObserver_eq_ok_iff {observer : ObserverArgument} :
    checkObserver observer = .ok () ↔ ∀ value, observer = .value value → value = .absent := by
  cases observer with
  | omitted => simp [checkObserver]
  | callable => simp [checkObserver]
  | value value => cases value <;> simp [checkObserver, Check.refuse]

private theorem checkObserver_refuses (observer : ObserverArgument) :
    Check.Refuses (·.family = .value) (checkObserver observer) := by
  unfold checkObserver
  split
  · exact .ok _
  · exact .ok _
  · exact .ok _
  · exact .refuse rfl

private theorem judge_refuses (keywords : Keywords) (ridge : Float)
    (absolute? relative? : Option Float)
    (radius : Float) :
    Check.Refuses (·.family = .value) (keywords.judge ridge absolute? relative? radius) := by
  unfold judge
  refine .bind (Check.nonnegative_number_refuses _ _) fun _ _ => ?_
  refine .bind (checkTolerance_refuses _ _) fun _ _ => ?_
  refine .bind (checkTolerance_refuses _ _) fun _ _ => ?_
  refine .bind (Check.nonnegative_number_refuses _ _) fun _ _ => ?_
  refine .bind (Check.nonnegativeInteger_refuses _ _) fun _ _ => ?_
  refine .bind (Check.nonnegativeInteger_refuses _ _) fun _ _ => ?_
  refine .bind (Check.mode_refuses _) fun _ _ => ?_
  exact .bind (checkObserver_refuses _) fun _ _ => .ok _

end Keywords

/-- The options are what the keywords say. -/
structure Options.Spells (keywords : Keywords) (options : Options Float) : Prop where
  ridge : keywords.ridge.toFloat = .ok options.ridge
  absolute : readTolerance? keywords.absolute = .ok options.absolute?
  relative : readTolerance? keywords.relative = .ok options.relative?
  radius : keywords.radius.toFloat = .ok options.radius
  budget : keywords.budget.integer? = some (options.budget : Int)
  interval : keywords.interval.integer? = some (options.interval : Int)
  history : keywords.keepsHistory.isTrue = options.keepsHistory
  mode : keywords.mode = .text options.mode.name
  observer : ∀ value, keywords.observer = .value value → value = .absent

structure Options.InRange (options : Options Float) : Prop where
  ridge : Check.InRange options.ridge
  absolute : ∀ tolerance ∈ options.absolute?, Check.InRange tolerance
  relative : ∀ tolerance ∈ options.relative?, Check.InRange tolerance
  radius : Check.InRange options.radius

namespace Keywords

theorem ofKeywords_eq_ok_iff {keywords : Keywords} {options : Options Float} :
    Options.ofKeywords keywords = .ok options ↔ options.Spells keywords ∧ options.InRange := by
  rw [ofKeywords_eq]
  constructor
  · intro accepted
    obtain ⟨ridge, ridge_read, accepted⟩ := of_bind_eq_ok accepted
    obtain ⟨absolute?, absolute_read, accepted⟩ := of_bind_eq_ok accepted
    obtain ⟨relative?, relative_read, accepted⟩ := of_bind_eq_ok accepted
    obtain ⟨radius, radius_read, accepted⟩ := of_bind_eq_ok accepted
    unfold judge at accepted
    obtain ⟨⟨⟩, ridge_range, accepted⟩ := of_bind_eq_ok accepted
    obtain ⟨⟨⟩, absolute_range, accepted⟩ := of_bind_eq_ok accepted
    obtain ⟨⟨⟩, relative_range, accepted⟩ := of_bind_eq_ok accepted
    obtain ⟨⟨⟩, radius_range, accepted⟩ := of_bind_eq_ok accepted
    obtain ⟨budget, budget_known, accepted⟩ := of_bind_eq_ok accepted
    obtain ⟨interval, interval_known, accepted⟩ := of_bind_eq_ok accepted
    obtain ⟨mode, mode_known, accepted⟩ := of_bind_eq_ok accepted
    obtain ⟨⟨⟩, observer_known, accepted⟩ := of_bind_eq_ok accepted
    cases accepted
    exact
      ⟨{ ridge := ridge_read, absolute := absolute_read, relative := relative_read
         radius := radius_read
         budget := Check.nonnegativeInteger_eq_ok_iff.mp budget_known
         interval := Check.nonnegativeInteger_eq_ok_iff.mp interval_known
         history := rfl
         mode := Check.mode_eq_ok_iff.mp mode_known
         observer := checkObserver_eq_ok_iff.mp observer_known },
       { ridge := Check.nonnegative_number_eq_ok_iff.mp ridge_range
         absolute := checkTolerance_eq_ok_iff.mp absolute_range
         relative := checkTolerance_eq_ok_iff.mp relative_range
         radius := Check.nonnegative_number_eq_ok_iff.mp radius_range }⟩
  · rintro ⟨spells, ranges⟩
    unfold judge
    rw [spells.ridge, spells.absolute, spells.relative, spells.radius]
    simp only [bind, Except.bind, Check.nonnegative_number_eq_ok_iff.mpr ranges.ridge,
      checkTolerance_eq_ok_iff.mpr ranges.absolute, checkTolerance_eq_ok_iff.mpr ranges.relative,
      Check.nonnegative_number_eq_ok_iff.mpr ranges.radius,
      Check.nonnegativeInteger_eq_ok_iff.mpr spells.budget,
      Check.nonnegativeInteger_eq_ok_iff.mpr spells.interval,
      Check.mode_eq_ok_iff.mpr spells.mode, checkObserver_eq_ok_iff.mpr spells.observer,
      spells.history]

def unreadableTolerance? : Value → Option (Fault Float)
  | .absent => none
  | value => value.unreadable?

private theorem reads_readTolerance? (value : Value) :
    Check.Reads (unreadableTolerance? value) (Options.readTolerance? value) := by
  by_cases left_out : value = .absent
  · subst left_out
    exact ⟨none, rfl⟩
  · have fault : unreadableTolerance? value = value.unreadable? := by
      unfold unreadableTolerance?
      split
      · exact absurd rfl left_out
      · rfl
    have reads : Options.readTolerance? value = value.toFloat.map some := by
      unfold Options.readTolerance?
      split
      · exact absurd rfl left_out
      · rfl
    have number := value.reads_toFloat
    rw [fault, reads]
    cases found : value.unreadable? with
    | some fault =>
        rw [found] at number
        exact congrArg (Except.map some) number
    | none =>
        rw [found] at number
        obtain ⟨own, read⟩ := number
        exact ⟨some own, congrArg (Except.map some) read⟩

def unreadable? (keywords : Keywords) : Option (Fault Float) :=
  keywords.ridge.unreadable?.or <|
    (unreadableTolerance? keywords.absolute).or <|
      (unreadableTolerance? keywords.relative).or keywords.radius.unreadable?

private theorem unreadable?_kinds {keywords : Keywords} {fault : Fault Float}
    (unreadable : keywords.unreadable? = some fault) :
    fault = .integerTooLarge ∨ fault = .unreadableNumber ∨ fault = .notNumeric := by
  have ofTolerance (value : Value) (found : unreadableTolerance? value = some fault) :
      value.unreadable? = some fault := by
    unfold unreadableTolerance? at found
    split at found
    · cases found
    · exact found
  have some_value : ∃ value : Value, value.unreadable? = some fault := by
    unfold unreadable? at unreadable
    rcases Option.or_eq_some_iff.mp unreadable with found | ⟨_, unreadable⟩
    · exact ⟨_, found⟩
    rcases Option.or_eq_some_iff.mp unreadable with found | ⟨_, unreadable⟩
    · exact ⟨_, ofTolerance _ found⟩
    rcases Option.or_eq_some_iff.mp unreadable with found | ⟨_, found⟩
    · exact ⟨_, ofTolerance _ found⟩
    · exact ⟨_, found⟩
  obtain ⟨value, found⟩ := some_value
  exact value.unreadable?_kinds found

/-- The numbers are read in their order, and then they are judged. -/
theorem endsIn_ofKeywords (keywords : Keywords) :
    Check.EndsIn keywords.unreadable? (Options.ofKeywords keywords) := by
  rw [ofKeywords_eq]
  unfold unreadable?
  rw [← Option.or_none (o := keywords.radius.unreadable?)]
  refine keywords.ridge.reads_toFloat.bind fun ridge => ?_
  refine (reads_readTolerance? keywords.absolute).bind fun absolute? => ?_
  refine (reads_readTolerance? keywords.relative).bind fun relative? => ?_
  refine keywords.radius.reads_toFloat.bind fun radius => ?_
  exact keywords.judge_refuses ridge absolute? relative? radius

end Keywords

/-! ### Right-hand sides -/

namespace Check

def readArray (name : String) : Data → Outcome Tensor
  | .array tensor => .ok tensor
  | .unreadable fault => .error fault
  | .nested value =>
      match Tensor.ofNested value with
      | .ok tensor => .ok tensor
      | .error leading => refuse (.unevenNesting name leading)

def numbers (name : String) (given : Tensor) : Outcome Tensor :=
  if given.elementType = .object then refuse (.objectData name)
  else if given.withoutIntegers.elementType.isInexact then .ok given.withoutIntegers
  else refuse (.nonNumeric name given.withoutIntegers.elementType)

theorem array_eq (name : String) (data : Data) :
    array name data = readArray name data >>= numbers name := by
  unfold array readArray
  cases data with
  | array tensor => rfl
  | unreadable fault => rfl
  | nested value =>
      dsimp only
      cases Tensor.ofNested value with
      | ok tensor => rfl
      | error leading => rfl

private theorem numbers_refuses (name : String) (given : Tensor) :
    Refuses (fun _ => True) (numbers name given) :=
  .branch (fun _ => .refuse trivial) fun _ =>
    .branch (fun _ => .ok _) fun _ => .refuse trivial

private theorem array_refuses (name : String) {data : Data}
    (given : ∀ fault, data ≠ .unreadable fault) :
    Refuses (fun _ => True) (array name data) := by
  rw [array_eq]
  refine .bind ?_ fun tensor _ => numbers_refuses name tensor
  cases data with
  | array tensor => exact .ok _
  | unreadable fault => exact absurd rfl (given fault)
  | nested value =>
      unfold readArray
      dsimp only
      split
      · exact .ok _
      · exact .refuse trivial

private theorem oneDimensional_refuses (name : String) (tensor : Tensor) :
    Refuses (fun _ => True) (oneDimensional name tensor) :=
  .branch (fun _ => .ok _) fun _ => .refuse trivial

private theorem supportedField_refuses (name : String) (elementType : ElementType) :
    Refuses (fun _ => True) (supportedField name elementType) :=
  .branch (fun _ => .ok _) fun _ => .refuse trivial

end Check

namespace Design

private theorem checkRightHandSide_refuses {data : Data}
    (given : ∀ fault, data ≠ .unreadable fault) :
    Check.Refuses (fun _ => True) (checkRightHandSide data) := by
  unfold checkRightHandSide
  refine .bind (Check.array_refuses "b" given) fun tensor _ => ?_
  refine .bind (Check.oneDimensional_refuses "b" tensor) fun _ _ => ?_
  refine .bind (Check.supportedField_refuses "b" tensor.elementType) fun _ supported => ?_
  rw [Check.finite_eq (Check.of_supportedField_eq_ok supported)]
  exact .bind (.branch (fun _ => .ok _) fun _ => .refuse trivial) fun _ _ => .ok _

end Design

/-- Which configurations are accepted, and how the others end. Options are accepted when their
keywords can be read and are in range, and if they can be read then they are accepted or refused
as values. A keyword that stands for a number and cannot be read as one is not refused: it ends in
the fault of its reading. A right-hand side is accepted or refused. -/
theorem configurations_are_accepted_or_refused (keywords : Keywords) (data : Data) :
    (∀ options, Options.ofKeywords keywords = .ok options ↔
      options.Spells keywords ∧ options.InRange) ∧
    (keywords.unreadable? = none →
      Check.Refuses (·.family = .value) (Options.ofKeywords keywords)) ∧
    (∀ fault, keywords.unreadable? = some fault →
      Options.ofKeywords keywords = .error fault ∧
        (fault = .integerTooLarge ∨ fault = .unreadableNumber ∨ fault = .notNumeric)) ∧
    (∀ tensor, Design.checkRightHandSide data = .ok tensor ↔
      Check.array "b" data = .ok tensor ∧ Design.Admits tensor) ∧
    ((∀ fault, data ≠ .unreadable fault) →
      Check.Refuses (fun _ => True) (Design.checkRightHandSide data)) := by
  refine ⟨fun options => Keywords.ofKeywords_eq_ok_iff, fun readable => ?_, fun fault found => ?_,
    fun tensor => Design.checkRightHandSide_eq_ok_iff, Design.checkRightHandSide_refuses⟩
  · have ends := keywords.endsIn_ofKeywords
    rw [readable] at ends
    exact ends
  · have ends := keywords.endsIn_ofKeywords
    rw [found] at ends
    exact ⟨ends, keywords.unreadable?_kinds found⟩

/-- A text that is no numeral is not refused. -/
theorem texts_without_a_numeral_are_not_refused :
    ¬ ∀ keywords : Keywords, (∃ options, Options.ofKeywords keywords = .ok options) ∨
      ∃ cause, Options.ofKeywords keywords = .error (.misuse cause) := by
  intro law
  have read : Options.ofKeywords { ridge := .text "abc" } = .error .unreadableNumber := by
    have unreadable : (Decimal.readFloat? "abc").isNone = true := by decide +kernel
    rw [Keywords.ofKeywords_eq]
    dsimp only [Value.toFloat]
    rw [Option.isNone_iff_eq_none.mp unreadable]
    rfl
  rcases law { ridge := .text "abc" } with ⟨options, accepted⟩ | ⟨cause, refused⟩
  · rw [read] at accepted
    cases accepted
  · rw [read] at refused
    cases refused

end ConjugateResidual
