import ConjugateResidual.Session
import ConjugateResidual.Proofs.Course.Upkeep

/-!
The sizes of the arrays that a solve works on. An array that is cleared to the zeros of a field and
a length has that field and that length and no other dimension, and the updates of a solve keep all
three.
-/

namespace ConjugateResidual

private theorem length_mapM {A B E : Type} {change : A → Except E B} {items : List A}
    {results : List B} (changed : items.mapM change = .ok results) :
    results.length = items.length := by
  induction items generalizing results with
  | nil =>
      cases changed
      rfl
  | cons item rest ih =>
      rw [List.mapM_cons] at changed
      cases first : change item with
      | error fault => simp [first, bind, Except.bind] at changed
      | ok result =>
          cases others : rest.mapM change with
          | error fault => simp [first, others, bind, Except.bind] at changed
          | ok results =>
              simp only [first, others, bind, Except.bind, pure, Except.pure,
                Except.ok.injEq] at changed
              rw [← changed, List.length_cons, List.length_cons, ih others]

namespace Tensor

structure IsVector (field : ElementType) (length : Nat) (tensor : Tensor) : Prop where
  elementType : tensor.elementType = field
  shape : tensor.shape = [length]
  entries : tensor.entries.length = length

variable {field : ElementType} {length : Nat}

theorem isVector_zeros (field : ElementType) (length : Nat) :
    (zeros field length).IsVector field length := by
  unfold zeros
  exact
    { elementType := rfl
      shape := by simp only [vector, List.length_replicate]
      entries := by simp only [vector, List.length_replicate] }

theorem cleared_eq_zeros_iff {tensor : Tensor} :
    tensor.cleared = zeros field length ↔ tensor.IsVector field length := by
  constructor
  · intro same
    obtain ⟨elementType, shape, entries⟩ := Tensor.mk.inj same
    refine { elementType, shape := ?_, entries := ?_ }
    · rw [List.length_replicate] at shape
      exact shape
    · have lengths := congrArg List.length entries
      rw [List.length_map, List.length_replicate] at lengths
      exact lengths
  · intro isVector
    obtain ⟨elementType, shape, entries⟩ := isVector
    unfold cleared mapEntries zeros vector
    rw [elementType, shape, List.map_const', entries, List.length_replicate]

private theorem flatten_chunks_one (count : Nat) (entries : List Entry) :
    (chunks 1 count entries).flatten = entries.take count := by
  induction count generalizing entries with
  | zero => rfl
  | succ count ih =>
      rw [chunks, List.flatten_cons, ih]
      cases entries with
      | nil => rw [List.drop_nil, List.take_nil, List.take_nil, List.take_nil, List.append_nil]
      | cons first rest => rfl

namespace IsVector

variable {tensor source target result : Tensor}

theorem size (isVector : tensor.IsVector field length) : tensor.size = length :=
  isVector.entries

private theorem isVoidGrid (isVector : tensor.IsVector field length) :
    tensor.isVoidGrid = false := by
  unfold Tensor.isVoidGrid
  rw [isVector.shape]
  rfl

private theorem mapEntries (isVector : tensor.IsVector field length) (change : Entry → Entry) :
    (tensor.mapEntries change).IsVector field length :=
  { isVector with entries := (List.length_map _).trans isVector.entries }

theorem readAs {common : ElementType} {own : Tensor} (isVector : tensor.IsVector field length)
    (read : tensor.readAs common = .ok own) : own.IsVector common length := by
  obtain ⟨entries, changed, made⟩ := of_bind_eq_ok read
  cases made
  exact
    { elementType := rfl
      shape := isVector.shape
      entries := by
        rw [List.length_map, length_mapM changed]
        exact isVector.entries }

theorem addScaled {scale : Float} (source_vector : source.IsVector field length)
    (target_vector : target.IsVector field length)
    (added : Tensor.addScaled scale source target = .ok result) :
    result.IsVector field length := by
  unfold Tensor.addScaled at added
  simp only [source_vector.isVoidGrid, target_vector.isVoidGrid] at added
  obtain ⟨increments, read, added⟩ := of_bind_eq_ok added
  obtain ⟨own, read', added⟩ := of_bind_eq_ok added
  have own_vector := target_vector.readAs read'
  have increments_vector := source_vector.readAs read
  split at added
  · cases added
  split at added
  · cases added
  cases added
  refine { target_vector with entries := ?_ }
  rw [List.length_map]
  split
  · exact own_vector.entries
  · rw [own_vector.shape, increments_vector.shape]
    simp only [toColumnMajor, ofColumnMajor, List.length_append, List.length_zipWith,
      List.length_drop, own_vector.entries, increments_vector.entries, source_vector.size]
    omega

theorem scaled {scale : Float} (isVector : tensor.IsVector field length)
    (changed : tensor.scaled scale = .ok result) : result.IsVector field length := by
  unfold Tensor.scaled at changed
  dsimp only at changed
  split at changed
  · obtain ⟨products, multiplied, made⟩ := of_bind_eq_ok changed
    cases made
    exact
      { isVector with
        entries := by
          rw [List.length_map, length_mapM multiplied, Tensor.values, List.length_map]
          exact isVector.entries }
  · split at changed
    · cases changed
    · cases changed
      exact isVector.mapEntries _

theorem length_broadcast? {increments : List Entry} (isVector : source.IsVector field length)
    (spread : source.broadcast? [length] = some increments) : increments.length = length := by
  unfold Tensor.broadcast? at spread
  rw [isVector.shape] at spread
  dsimp only at spread
  split at spread
  · cases spread
    change (widen [length] [length] source.entries).length = length
    simp only [widen, volume, List.foldr_nil, if_true, List.map_id']
    rw [flatten_chunks_one, List.length_take, isVector.entries, Nat.min_self]
  · cases spread

private theorem added (source_vector : source.IsVector field length)
    (target_vector : target.IsVector field length) (sum : source.added target = .ok result) :
    result.IsVector field length := by
  unfold Tensor.added at sum
  rw [target_vector.shape] at sum
  dsimp only at sum
  split at sum
  · cases sum
  split at sum
  · cases sum
  rename_i increments spread
  have increments_length := source_vector.length_broadcast? spread
  split at sum
  · obtain ⟨sums, summed, made⟩ := of_bind_eq_ok sum
    cases made
    refine { elementType := target_vector.elementType, shape := rfl, entries := ?_ }
    rw [List.length_map, length_mapM summed, List.length_zip, Tensor.values, List.length_map,
      List.length_map, target_vector.entries, increments_length, Nat.min_self]
  · cases sum
    refine { elementType := target_vector.elementType, shape := rfl, entries := ?_ }
    rw [List.length_zipWith, target_vector.entries, increments_length, Nat.min_self]

theorem combine {scale targetScale : Float} (source_vector : source.IsVector field length)
    (target_vector : target.IsVector field length)
    (combined : Tensor.combine scale source targetScale target = .ok result) :
    result.IsVector field length := by
  obtain ⟨scaledTarget, scales, combined⟩ := of_bind_eq_ok combined
  have scaled_vector := target_vector.scaled scales
  split at combined
  · exact source_vector.added scaled_vector combined
  · exact source_vector.addScaled scaled_vector combined

/-- A buffer of a length stays one, whatever array is stored in it. -/
theorem store (stored : tensor.flatten.store field length = .ok result) :
    result.IsVector field length := by
  have size := size_store stored (by simp only [flatten, vector, Tensor.size, volume,
    List.foldr_cons, List.foldr_nil, Nat.mul_one])
  unfold Tensor.store at stored
  split at stored
  · cases stored
  split at stored
  · cases stored
    exact { elementType := rfl, shape := congrArg (fun count => [count]) size, entries := size }
  · cases stored

end IsVector

def blank (sizes : Sizes) : Tensor :=
  zeros sizes.field sizes.columns

theorem lawful_blank : LawfulBlank blank :=
  { cleared := fun _ => cleared_eq_zeros_iff.mpr (isVector_zeros _ _)
    addScaled := fun source target added =>
      cleared_eq_zeros_iff.mpr
        ((cleared_eq_zeros_iff.mp source).addScaled (cleared_eq_zeros_iff.mp target) added)
    combine := fun source target combined =>
      cleared_eq_zeros_iff.mpr
        ((cleared_eq_zeros_iff.mp source).combine (cleared_eq_zeros_iff.mp target) combined) }

end Tensor

theorem LinearOperator.isVector_applyAdjoint {operator : LinearOperator} {field : ElementType}
    {length : Nat} {operand answer : Tensor}
    (applied : (operator.applyAdjoint field length operand).outcome = .ok answer) :
    answer.IsVector field length := by
  obtain ⟨product, _, stored⟩ := Reply.of_bind_eq_ok applied
  exact .store stored

/-- The adjoint of a checked design fills a buffer of the length of the solution. -/
theorem Design.sized (design : Design) : design.toProblem.Sized Tensor.blank :=
  fun _ _ applied => Tensor.cleared_eq_zeros_iff.mpr (LinearOperator.isVector_applyAdjoint applied)

theorem Request.of_prepare_eq_ok {request : Request} {options : Options Float}
    {problem : MachineProblem} (ready : request.prepare.outcome = .ok (options, problem)) :
    ∃ design,
      (Design.build request.operatorSource request.data request.weightSource
        (.text options.mode.name)).outcome = .ok design ∧ problem = design.toProblem := by
  obtain ⟨chosen, _, posed⟩ := Reply.of_bind_eq_ok ready
  obtain ⟨design, built, same⟩ := Reply.of_bind_eq_ok posed
  cases same
  exact ⟨design, built, rfl⟩

theorem Request.sized {request : Request} {options : Options Float} {problem : MachineProblem}
    (ready : request.prepare.outcome = .ok (options, problem)) : problem.Sized Tensor.blank := by
  obtain ⟨design, _, rfl⟩ := request.of_prepare_eq_ok ready
  exact design.sized

theorem MachineWorkspace.of_allocate_eq_ok {rows columns : Int} {field : ElementType}
    {own : MachineWorkspace} (allocated : allocate rows columns field = .ok own) :
    own = .fresh rows.toNat columns.toNat field (.zeros field columns.toNat)
      (.zeros field rows.toNat) := by
  obtain ⟨_, _, allocated⟩ := of_bind_eq_ok allocated
  split at allocated
  · cases allocated
  · cases allocated
    rfl

theorem Design.of_build_eq_ok {operatorSource weightSource : Source} {data : Data}
    {modeValue : Value} {design : Design}
    (built : (build operatorSource data weightSource modeValue).outcome = .ok design) :
    checkRightHandSide data = .ok design.rightHandSide ∧
      (operatorSource.toOperator "A").outcome = .ok design.operator := by
  obtain ⟨rightHandSide, checked, built⟩ := Reply.of_bind_eq_ok built
  obtain ⟨operator, formed, built⟩ := Reply.of_bind_eq_ok built
  obtain ⟨_, _, built⟩ := Reply.of_bind_eq_ok built
  obtain ⟨_, _, built⟩ := Reply.of_bind_eq_ok built
  obtain ⟨preconditioner, _, built⟩ := Reply.of_bind_eq_ok built
  cases found : preconditioner.elementType? with
  | none =>
      rw [found] at built
      cases built
      exact ⟨checked, formed⟩
  | some elementType =>
      rw [found] at built
      obtain ⟨_, _, built⟩ := Reply.of_bind_eq_ok built
      cases built
      exact ⟨checked, formed⟩

theorem Design.of_checkRightHandSide_eq_ok {data : Data} {tensor : Tensor}
    (checked : checkRightHandSide data = .ok tensor) :
    Check.array "b" data = .ok tensor ∧ tensor.elementType.isSupported = true := by
  obtain ⟨read, arrayed, checked⟩ := of_bind_eq_ok checked
  obtain ⟨_, _, checked⟩ := of_bind_eq_ok checked
  obtain ⟨_, supported, checked⟩ := of_bind_eq_ok checked
  obtain ⟨_, _, checked⟩ := of_bind_eq_ok checked
  cases checked
  refine ⟨arrayed, ?_⟩
  unfold Check.supportedField at supported
  split at supported
  · assumption
  · cases supported

private theorem MachineWorkspace.allocate_of_isSupported (rows columns : Nat) {field : ElementType}
    (supported : field.isSupported = true) :
    allocate rows columns field =
      .ok (.fresh rows columns field (.zeros field columns) (.zeros field rows)) := by
  unfold allocate Check.supportedField
  rw [if_pos supported]
  have sizes : ¬ ((rows : Int) < 0 ∨ (columns : Int) < 0) := by omega
  simp only [bind, Except.bind, if_neg sizes, Int.toNat_natCast]

/-- What has been accepted for a solve is accepted for a workspace, which is the one that a solve
would make for itself. -/
theorem MachineWorkspace.outcome_forProblem {request : Request} {options : Options Float}
    {problem : MachineProblem} (ready : request.prepare.outcome = .ok (options, problem)) :
    (forProblem request.operatorSource request.data).outcome = .ok problem.freshWorkspace := by
  obtain ⟨design, built, rfl⟩ := request.of_prepare_eq_ok ready
  obtain ⟨checked, formed⟩ := Design.of_build_eq_ok built
  obtain ⟨arrayed, supported⟩ := Design.of_checkRightHandSide_eq_ok checked
  unfold forProblem
  rw [Reply.outcome_bind_of_ok arrayed, Reply.outcome_bind_of_ok formed]
  dsimp only
  rw [if_pos supported]
  exact allocate_of_isSupported _ _ supported

end ConjugateResidual
