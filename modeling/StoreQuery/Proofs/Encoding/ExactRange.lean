import StoreQuery.Proofs.Encoding.Leaf
import StoreQuery.Proofs.Predicate.Valid

namespace StoreQuery

def Comparison.Relates : Comparison → Int64 → Int64 → Prop
  | .eq, x, bound => x = bound
  | .ne, x, bound => x ≠ bound
  | .ineq i, x, bound => i.Relates x bound

theorem Inequality.atLimit_iff {i : Inequality} {bound : Int64} :
    i.AtLimit bound ↔ ∀ x, ¬i.Relates x bound := by
  constructor
  · rintro (⟨rfl, rfl⟩ | ⟨rfl, rfl⟩) x beyond
    · exact Int64.not_le.2 beyond (Int64.le_maxValue x)
    · exact Int64.not_le.2 beyond (Int64.minValue_le x)
  · intro none
    cases i with
    | ge | le => exact absurd (Int64.le_refl bound) (none bound)
    | gt =>
      refine .inl ⟨rfl, Classical.byContradiction fun inside => none (bound + 1) ?_⟩
      exact (Int64.add_one_le_iff inside).1 (Int64.le_refl _)
    | lt =>
      refine .inr ⟨rfl, Classical.byContradiction fun inside => none (bound - 1) ?_⟩
      exact (Int64.le_sub_one_iff inside).1 (Int64.le_refl _)

section Range

variable {op : Operation} {c : Comparison} {bound first last : Int64}

theorem indexRange_of_atLimit {i : Inequality} (h : i.AtLimit bound) :
    indexRange op (.ineq i) bound = .error (.rangeOverflow op bound) := by
  obtain ⟨rfl, rfl⟩ | ⟨rfl, rfl⟩ := h <;> simp [indexRange]

theorem mem_indexRange_iff (h : indexRange op c bound = .ok (first, last)) (x : Int64) :
    first ≤ x ∧ x ≤ last ↔ c.Relates x bound := by
  cases c with
  | eq =>
    cases h
    exact and_comm.trans Int64.le_antisymm_iff.symm
  | ne => cases h
  | ineq i => exact mem_indexRange h x

theorem indexRange_eq_error_iff (ranged : c ≠ .ne) {err : QueryError} :
    indexRange op c bound = .error err ↔
      err = .rangeOverflow op bound ∧ ∀ x, ¬c.Relates x bound := by
  cases c with
  | eq => simp [indexRange, Comparison.Relates]
  | ne => exact absurd rfl ranged
  | ineq i =>
    constructor
    · intro refused
      obtain ⟨overflow, limit⟩ := indexRange_eq_error refused
      exact ⟨overflow, Inequality.atLimit_iff.1 limit⟩
    · rintro ⟨rfl, none⟩
      exact indexRange_of_atLimit (Inequality.atLimit_iff.2 none)

theorem indexRange_ordered (h : indexRange op c bound = .ok (first, last)) : first ≤ last := by
  have ranged : c ≠ .ne := by
    rintro rfl
    cases h
  obtain ⟨x, related⟩ : ∃ x, c.Relates x bound := by
    by_contra none
    have refused : indexRange op c bound = .error (.rangeOverflow op bound) :=
      (indexRange_eq_error_iff ranged).2 ⟨rfl, not_exists.1 none⟩
    cases h.symm.trans refused
  obtain ⟨low, high⟩ := (mem_indexRange_iff h x).2 related
  exact Int64.le_trans low high

theorem exists_indexRange (op : Operation) (ranged : c ≠ .ne) (met : ∃ x, c.Relates x bound) :
    ∃ first last, indexRange op c bound = .ok (first, last) ∧ first ≤ last ∧
      ∀ x, first ≤ x ∧ x ≤ last ↔ c.Relates x bound := by
  obtain ⟨x, related⟩ := met
  cases range : indexRange op c bound with
  | ok ends => exact ⟨ends.1, ends.2, rfl, indexRange_ordered range, mem_indexRange_iff range⟩
  | error err => exact absurd related (((indexRange_eq_error_iff ranged).1 range).2 x)

end Range

/-- The part of a bin that an index must be on to help with an operation. -/
def Operation.coverage : Operation → Coverage
  | .element op => .elements op.elements
  | .keyed _ => .elements .mapValues
  | _ => .whole

def rangeFilter (op : Operation) (i : Inequality) (bound : Int64) (bin : String) (path : Path) :
    Except QueryError (Option IndexFilter) := do
  let (first, last) ← indexRange op (.ineq i) bound
  return some { bin, coverage := op.coverage, path, kind := .range first last }

variable {l : Leaf} {e : Encoder} {bin : String} {i : Inequality} {bound : Int64}

theorem Operation.inequality?_eq_some_iff {op : Operation} :
    op.inequality? = some i ↔ op = .scalar (.compare (.ineq i)) ∨ op = .element (.listValue i) ∨
      op = .keyed (.compare (.ineq i)) := by
  unfold inequality?
  split <;> simp_all

theorem ScalarOp.indexFilter_ineq (op : l.op = .scalar (.compare (.ineq i)))
    (value : l.requireValue = .ok (.int64 bound)) :
    indexFilter l bin (.compare (.ineq i)) = rangeFilter l.op i bound bin [] := by
  have ordered : l.checkOrdering (.int64 bound) = .ok () := rfl
  simp only [indexFilter, value, ordered, Except.ok_bind, Json.int64?_int64]
  simp only [rangeFilter, op, Operation.coverage]

namespace ElementOp

/-- The selector may refuse the bound before the range does. -/
theorem selector_listValue_cases (plain : l.ignoreCase = false)
    (value : l.requireValue = .ok (.int64 bound)) :
    (∃ s, selector l e (.listValue i) = .ok s) ∨
      selector l e (.listValue i) = .error (.rangeOverflow l.op bound) ∧ i.AtLimit bound := by
  have orderable : checkOrderable l.op (.int64 bound) = .ok () := rfl
  simp only [selector, plain, value, Except.ok_bind, Bool.false_eq_true, if_false]
  cases i with
  | ge | lt => exact .inl ⟨_, by rw [orderable]; rfl⟩
  | le =>
    left
    rw [successor_int64, Except.ok_bind]
    cases next? bound <;> exact ⟨_, rfl⟩
  | gt =>
    by_cases limit : bound = .maxValue
    · subst limit
      exact .inr ⟨rfl, .inl ⟨rfl, rfl⟩⟩
    · left
      rw [requireSuccessor, successor_int64, next?, if_neg limit]
      exact ⟨_, rfl⟩

theorem indexFilter_listValue (op : l.op = .element (.listValue i)) (plain : l.ignoreCase = false)
    (value : l.requireValue = .ok (.int64 bound)) :
    indexFilter l e bin (.listValue i) = rangeFilter l.op i bound bin l.path := by
  obtain ⟨s, selects⟩ | ⟨refused, limit⟩ := selector_listValue_cases (e := e) (i := i) plain value
  · simp only [indexFilter, selects, value, filterKind, Except.ok_bind, Json.int64?_int64]
    rw [rangeFilter]
    cases indexRange l.op (.ineq i) bound with
    | ok ends => simp [op, Operation.coverage]
    | error err => rfl
  · rw [indexFilter, refused, rangeFilter, indexRange_of_atLimit limit]
    rfl

end ElementOp

theorem KeyedOp.indexFilter_ineq (op : l.op = .keyed (.compare (.ineq i)))
    (plain : l.ignoreCase = false) {key : Json} (keyed : l.requireKey = .ok key)
    (value : l.requireValue = .ok (.int64 bound)) :
    indexFilter l bin (.compare (.ineq i)) = rangeFilter l.op i bound bin l.path := by
  have compared : l.comparedValue (.ineq i) = .ok (.int64 bound) := by
    have orderable : checkOrderable l.op (.int64 bound) = .ok () := rfl
    simp [Leaf.comparedValue, Leaf.rejectIgnoreCase, plain, value, orderable]
  simp only [indexFilter, keyed, filterKind, compared, Except.ok_bind, Json.int64?_int64]
  rw [rangeFilter]
  cases indexRange l.op (.ineq i) bound with
  | ok ends => simp [op, Operation.coverage]
  | error err => rfl

namespace Leaf

theorem exists_requireKey (valid : l.WellFormed) (noId : l.id? = none) (keyed : l.op.isKeyed) :
    ∃ key, l.requireKey = .ok key := by
  apply exists_require_eq_ok_iff.2
  intro absent
  refine valid.operands .key ⟨noId, ?_, absent⟩
  rw [RoleSet.has, Operation.needs_key, keyed]

theorem indexFilter_of_inequality (valid : l.WellFormed) (target : l.target = .field bin)
    (orders : l.op.inequality? = some i) (operand : l.value = some (.int64 bound))
    (plain : l.ignoreCase = false ∨ ∃ op, l.op = .scalar op) :
    l.indexFilter e = rangeFilter l.op i bound bin l.path := by
  have value : l.requireValue = .ok (.int64 bound) := requireValue_eq_ok_iff.2 operand
  obtain op | op | op := Operation.inequality?_eq_some_iff.1 orders
  · have path : l.path = [] := valid.path.resolve_right (by simp [op, Operation.acceptsPath])
    rw [path, ← ScalarOp.indexFilter_ineq op value]
    simp only [indexFilter, target, op]
  · have plain : l.ignoreCase = false := plain.resolve_right (by simp [op])
    rw [← ElementOp.indexFilter_listValue (e := e) op plain value]
    simp only [indexFilter, target, op]
  · have plain : l.ignoreCase = false := plain.resolve_right (by simp [op])
    obtain ⟨key, keyed⟩ := exists_requireKey valid (by rw [id?, target]) (by rw [op]; rfl)
    rw [← KeyedOp.indexFilter_ineq op plain keyed value]
    simp only [indexFilter, target, op]

/-- A range for an index holds just the integers in the relation to its bound, and it is refused
just where there are none. So it is with the filter of any condition that orders integers. -/
theorem integer_range_exact :
    (∀ op c bound, c ≠ .ne →
      (∀ err, indexRange op c bound = .error err ↔
        err = .rangeOverflow op bound ∧ ∀ x, ¬c.Relates x bound) ∧
      ((∃ x, c.Relates x bound) → ∃ first last, indexRange op c bound = .ok (first, last) ∧
        first ≤ last ∧ ∀ x, first ≤ x ∧ x ≤ last ↔ c.Relates x bound)) ∧
    ∀ (e : Encoder) (l : Leaf) (bin : String) (i : Inequality) (bound : Int64),
      l.validate = .ok () → l.target = .field bin → l.op.inequality? = some i →
      l.value = some (.int64 bound) → (l.ignoreCase = false ∨ ∃ op, l.op = .scalar op) →
      (∀ err, l.indexFilter e = .error err ↔
        err = .rangeOverflow l.op bound ∧ ∀ x, ¬i.Relates x bound) ∧
      ((∃ x, i.Relates x bound) → ∃ first last,
        l.indexFilter e = .ok (some ⟨bin, l.op.coverage, l.path, .range first last⟩) ∧
        first ≤ last ∧ ∀ x, first ≤ x ∧ x ≤ last ↔ i.Relates x bound) := by
  constructor
  · intro op c bound ranged
    exact ⟨fun err => indexRange_eq_error_iff ranged, exists_indexRange op ranged⟩
  · intro e l bin i bound valid target orders operand plain
    rw [indexFilter_of_inequality (validate_eq_ok_iff.1 valid) target orders operand plain]
    constructor
    · intro err
      rw [rangeFilter, Except.bind_pure_eq_error_iff]
      exact indexRange_eq_error_iff (c := .ineq i) nofun
    · intro met
      obtain ⟨first, last, range, related⟩ := exists_indexRange (c := .ineq i) l.op nofun met
      refine ⟨first, last, ?_, related⟩
      rw [rangeFilter, range, Except.ok_bind]
      rfl

theorem integer_range_exact_of_limits :
    let above := Leaf.onBin "years" (.element (.listValue .gt)) (.int64 .maxValue)
    let least : Leaf := {
      target := .field "scores", op := .keyed (.compare (.ineq .le)), value1 := some (.str "k"),
      value2 := some (.int64 .minValue), path := [.listIndex 0] }
    above.indexFilter .json = .error (.rangeOverflow (.element (.listValue .gt)) .maxValue) ∧
      ∃ first last,
        least.indexFilter .json =
          .ok (some ⟨"scores", .elements .mapValues, [.listIndex 0], .range first last⟩) ∧
        ∀ x, first ≤ x ∧ x ≤ last ↔ x ≤ .minValue := by
  intro above least
  obtain ⟨-, filters⟩ := integer_range_exact
  obtain ⟨refused, -⟩ := filters .json above "years" .gt .maxValue rfl rfl rfl rfl (.inl rfl)
  obtain ⟨-, found⟩ := filters .json least "scores" .le .minValue rfl rfl rfl rfl (.inl rfl)
  have none : ∀ x, ¬Inequality.gt.Relates x .maxValue :=
    Inequality.atLimit_iff.1 (.inl ⟨rfl, rfl⟩)
  obtain ⟨first, last, range, -, related⟩ := found ⟨.minValue, Int64.le_refl _⟩
  exact ⟨(refused _).2 ⟨rfl, none⟩, first, last, range, related⟩

end Leaf

end StoreQuery
