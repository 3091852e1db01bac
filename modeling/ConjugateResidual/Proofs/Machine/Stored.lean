import ConjugateResidual.Proofs.Machine.Sizes

/-!
Vectors that hold entries of their own element type, as all buffers of a solve do, and a request
beside the one that leaves the preconditioner out.
-/

namespace ConjugateResidual

namespace ElementType

variable {field : ElementType} (supported : field.isSupported = true)
include supported

theorem mem_supported : field ∈ ElementType.supported :=
  List.contains_iff_mem.mp supported

theorem promote_self : field.promote field = field :=
  promote_self_of_supported (mem_supported supported)

end ElementType

namespace Tensor

/-- Entries of which the squares vanish add nothing to a norm. -/
theorem rootOfSquares_replicate {R : Type} [Arithmetic R] {inner outer : R → R}
    {isComplex : Bool} {number : Rectangular R}
    (vanishes : ∀ part ∈ [Rectangular.re, Rectangular.im],
      inner (0 + inner (part number * part number)) = 0) (count : Nat) :
    rootOfSquares inner outer isComplex (List.replicate count number) =
      rootOfSquares inner outer isComplex [] := by
  have stays : ∀ part ∈ [Rectangular.re, Rectangular.im],
      (List.replicate count (part number)).foldl
        (fun total value => inner (total + inner (value * value))) 0 = 0 := by
    intro part member
    induction count with
    | zero => rfl
    | succ count ih => rw [List.replicate_succ, List.foldl_cons, vanishes part member, ih]
  unfold rootOfSquares
  simp only [List.map_replicate, stays _ List.mem_cons_self,
    stays _ (List.mem_cons_of_mem _ List.mem_cons_self), List.map_nil, List.foldl_nil]

theorem norm_zeros {field : ElementType} (supported : field.isSupported = true) (length : Nat) :
    norm (zeros field length) = 0.0 := by
  have vanishes : ∀ field ∈ ElementType.supported, ∀ part ∈ [Rectangular.re, Rectangular.im],
      let square :=
        part (Entry.zero.convert field).toNumber * part (Entry.zero.convert field).toNumber
      field.accumulator.round (0 + field.accumulator.round square) = 0 := by decide +kernel
  have kinds : ∀ field ∈ ElementType.supported,
      field.isIntegral = false ∧ field.isExtended = false ∧
        rootOfSquares field.accumulator.round field.round field.isComplex [] = 0.0 := by
    decide +kernel
  have member := ElementType.mem_supported supported
  obtain ⟨fractional, plain, empty⟩ := kinds field member
  unfold norm withoutIntegers zeros vector
  simp only [fractional, plain, Bool.false_eq_true, if_false, List.map_replicate, ← empty]
  exact rootOfSquares_replicate (vanishes field member) length
structure Stored (field : ElementType) (length : Nat) (tensor : Tensor) : Prop
    extends IsVector field length tensor where
  converted : ∀ entry ∈ tensor.entries, ∃ other, entry = Entry.convert field other

variable {field : ElementType} {length : Nat} {tensor source target result : Tensor}

/-- Whatever is stored in a buffer is converted. -/
theorem Stored.store (stored : tensor.flatten.store field length = .ok result) :
    result.Stored field length := by
  refine { IsVector.store stored with converted := ?_ }
  unfold Tensor.store at stored
  split at stored
  · cases stored
  split at stored
  · cases stored
    intro entry member
    obtain ⟨other, _, rfl⟩ := List.mem_map.mp member
    exact ⟨other, rfl⟩
  · cases stored

private theorem Stored.entry_eq (idempotent : ∀ entry : Entry,
      (entry.convert field).convert field = entry.convert field)
    (stored : tensor.Stored field length) :
    tensor.entries.map (Entry.convert field) = tensor.entries := by
  refine (List.map_congr_left fun entry member => ?_).trans (List.map_id _)
  obtain ⟨other, rfl⟩ := stored.converted entry member
  exact idempotent other

private theorem IsVector.canCast (isVector : tensor.IsVector field length) :
    tensor.flatten.elementType.canCastWithinKind field = true := by
  change tensor.elementType.canCastWithinKind field = true
  unfold ElementType.canCastWithinKind
  rw [isVector.elementType, beq_self_eq_true, Bool.true_or, Bool.true_or]

private theorem IsVector.spread? (isVector : tensor.IsVector field length) :
    tensor.flatten.spread? length = some tensor.entries := by
  unfold Tensor.spread? flatten vector
  rw [isVector.entries]
  by_cases single : length = 1
  · obtain ⟨entry, own⟩ := List.length_eq_one_iff.mp (isVector.entries.trans single)
    rw [single, own]
    rfl
  · rw [List.dropWhile_cons_of_neg (by simpa using single)]
    dsimp only
    rw [if_pos rfl]

/-- A vector fits into a buffer of its type and length. -/
theorem IsVector.store_eq (isVector : tensor.IsVector field length) :
    tensor.flatten.store field length =
      .ok (vector field (tensor.entries.map (Entry.convert field))) := by
  unfold Tensor.store
  rw [isVector.canCast, isVector.spread?]
  rfl

/-- A buffer of its own type and length takes a stored vector as it is. -/
theorem Stored.store_eq (idempotent : ∀ entry : Entry,
      (entry.convert field).convert field = entry.convert field)
    (stored : tensor.Stored field length) : tensor.flatten.store field length = .ok tensor := by
  rw [stored.toIsVector.store_eq, stored.entry_eq idempotent]
  obtain ⟨⟨rfl, shape, entries⟩, _⟩ := stored
  unfold vector
  rw [entries, ← shape]

private theorem converted_of_addScaled {scale : Float}
    (added : source.addScaled scale target = .ok result) :
    ∀ entry ∈ result.entries, ∃ other, entry = Entry.convert target.elementType other := by
  unfold Tensor.addScaled at added
  dsimp only at added
  split at added
  · cases added
  obtain ⟨increments, _, added⟩ := of_bind_eq_ok added
  split at added
  · cases added
  obtain ⟨own, _, added⟩ := of_bind_eq_ok added
  split at added
  · cases added
  split at added
  · cases added
  cases added
  intro entry member
  obtain ⟨other, _, rfl⟩ := List.mem_map.mp member
  exact ⟨other, rfl⟩

/-- Sums of objects are kept as they come. -/
theorem converted_of_added (numeric : target.elementType.promote source.elementType ≠ .object)
    (sum : source.added target = .ok result) :
    ∀ entry ∈ result.entries, ∃ other, entry = Entry.convert target.elementType other := by
  unfold Tensor.added at sum
  dsimp only at sum
  split at sum
  · cases sum
  split at sum
  · cases sum
  cases sum
  intro entry member
  rw [List.mem_iff_getElem] at member
  obtain ⟨index, within, rfl⟩ := member
  rw [List.getElem_zipWith]
  exact ⟨_, rfl⟩

theorem Stored.combine {scale targetScale : Float} (supported : field.isSupported = true)
    (source_stored : source.Stored field length) (target_stored : target.Stored field length)
    (combined : Tensor.combine scale source targetScale target = .ok result) :
    result.Stored field length := by
  refine { source_stored.toIsVector.combine target_stored.toIsVector combined with
    converted := ?_ }
  obtain ⟨scaledTarget, scales, combined⟩ := of_bind_eq_ok combined
  have scaled_vector := target_stored.toIsVector.scaled scales
  rw [← scaled_vector.elementType]
  split at combined
  · refine converted_of_added ?_ combined
    rw [scaled_vector.elementType, source_stored.elementType, ElementType.promote_self supported]
    rintro rfl
    cases supported
  · exact converted_of_addScaled combined

end Tensor

theorem LinearOperator.stored_applyForward {operator : LinearOperator} {field : ElementType}
    {length : Nat} {operand answer : Tensor}
    (applied : (operator.applyForward field length operand).outcome = .ok answer) :
    answer.Stored field length := by
  obtain ⟨product, _, stored⟩ := Reply.of_bind_eq_ok applied
  exact .store stored

private theorem Entry.toPrecision_double (entry : Entry) :
    ∃ number, entry.toPrecision .double = .number number := by
  cases entry with
  | integer value => exact ⟨_, rfl⟩
  | number value => exact ⟨_, rfl⟩
  | extended value => exact ⟨_, rfl⟩
  | given value => exact ⟨_, rfl⟩

theorem Entry.convert_float64_convert (entry : Entry) :
    (entry.convert .float64).convert .float64 = entry.convert .float64 := by
  obtain ⟨number, narrowed⟩ := entry.toPrecision_double
  have converted : entry.convert .float64 = ofReal number.re := congrArg realPart narrowed
  rw [converted]
  rfl

/-! ### A request without its preconditioner -/

def Problem.plain {J R X Y : Type} (problem : Problem J R X Y) : Problem J R X Y :=
  { problem with weight? := none }

def Request.plain (request : Request) : Request :=
  { request with weightSource := .value .absent }

def Design.plain (design : Design) : Design :=
  { design with preconditioner := .identity }

theorem Check.mode_name (mode : Mode) : Check.mode (.text mode.name) = .ok mode := by
  cases mode with
  | multiply => rfl
  | solve => rfl

private theorem Preconditioner.build_absent {name : String} {modeValue : Value} {size : Int}
    {mode : Mode}
    (known : Check.mode modeValue = .ok mode) :
    build name (.value .absent) modeValue size = pure identity := by
  unfold build
  rw [known]
  rfl

/-- What a design is built from apart from its preconditioner is built the same without one, and
the only notes that are missing are those made in building it. -/
theorem Design.build_plain {operatorSource weightSource : Source} {data : Data} {mode : Mode}
    {design : Design} {heard : Event → Bool}
    (unheard : ∀ size,
      (Preconditioner.build "M" weightSource (.text mode.name) size).journal.filter heard = [])
    (built :
      (build operatorSource data weightSource (.text mode.name)).outcome = .ok design) :
    (build operatorSource data (.value .absent) (.text mode.name)).outcome = .ok design.plain ∧
      (build operatorSource data weightSource (.text mode.name)).journal.filter heard =
        (build operatorSource data (.value .absent) (.text mode.name)).journal.filter heard := by
  have known := Check.mode_name mode
  unfold build at built ⊢
  obtain ⟨rightHandSide, checked, built⟩ := Reply.of_bind_eq_ok built
  obtain ⟨operator, formed, built⟩ := Reply.of_bind_eq_ok built
  obtain ⟨_, fits, built⟩ := Reply.of_bind_eq_ok built
  obtain ⟨_, agrees, built⟩ := Reply.of_bind_eq_ok built
  obtain ⟨preconditioner, weighs, built⟩ := Reply.of_bind_eq_ok built
  simp only [Reply.bind_of_ok checked, Reply.bind_of_ok formed, Reply.bind_of_ok fits,
    Reply.bind_of_ok agrees, Reply.bind_of_ok weighs, Preconditioner.build_absent known, pure_bind,
    List.filter_append, unheard, List.nil_append]
  cases declared : preconditioner.elementType? with
  | none =>
      rw [declared] at built
      cases built
      exact ⟨rfl, rfl⟩
  | some elementType =>
      rw [declared] at built
      obtain ⟨_, inField, built⟩ := Reply.of_bind_eq_ok built
      cases built
      refine ⟨rfl, ?_⟩
      dsimp only
      rw [Reply.bind_of_ok inField]
      rfl

theorem Request.prepare_plain {request : Request} {options : Options Float}
    {problem : MachineProblem} {heard : Event → Bool}
    (unheard : ∀ size,
      (Preconditioner.build "M" request.weightSource (.text options.mode.name)
        size).journal.filter heard = [])
    (ready : request.prepare.outcome = .ok (options, problem)) :
    request.plain.prepare.outcome = .ok (options, problem.plain) ∧
      request.prepare.journal.filter heard = request.plain.prepare.journal.filter heard := by
  obtain ⟨chosen, known, posed⟩ := Reply.of_bind_eq_ok ready
  obtain ⟨design, built, same⟩ := Reply.of_bind_eq_ok posed
  cases same
  obtain ⟨built_plain, journal⟩ := Design.build_plain unheard built
  unfold prepare Request.plain
  dsimp only
  simp only [Reply.bind_of_ok known, Reply.bind_of_ok built, Reply.bind_of_ok built_plain,
    List.filter_append, journal]
  exact ⟨rfl, rfl⟩

end ConjugateResidual
