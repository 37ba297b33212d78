import StoreQuery.Proofs.Encoding.Fault

/-!
The two encodings of a leaf against each other where one of them fails. Both make the same checks of
operands in the same order, so what the expression refuses the filter refuses with the same error,
or there is no filter at all; and all that the filter alone refuses is a strict comparison with a
bound that has no integer beyond it.
-/

namespace StoreQuery

variable {l : Leaf} {e : Encoder} {bin : String} {err : QueryError}

def MirrorsFailure (filter : Except QueryError (Option α)) (expression : Except QueryError β) :
    Prop :=
  ∀ err, expression = .error err → filter = .error err ∨ filter = .ok none

namespace MirrorsFailure

variable {filter : Except QueryError (Option α)} {expression : Except QueryError β}

theorem of_ok (x : β) : MirrorsFailure filter (.ok x : Except QueryError β) := by
  intro err h
  cases h

theorem of_none : MirrorsFailure (.ok none : Except QueryError (Option α)) expression :=
  fun _ _ => .inr rfl

theorem bind {check : Except QueryError γ} {f : γ → Except QueryError (Option α)}
    {g : γ → Except QueryError β} (next : ∀ a, check = .ok a → MirrorsFailure (f a) (g a)) :
    MirrorsFailure (check >>= f) (check >>= g) := by
  intro err h
  cases check with
  | error other =>
    cases h
    exact .inl rfl
  | ok a => exact next a rfl err h

theorem map {f : α → γ} (h : MirrorsFailure filter expression) :
    MirrorsFailure (do return (← filter).map f) expression := by
  intro err failed
  obtain refused | nothing := h err failed
  · rw [refused]
    exact .inl rfl
  · rw [nothing]
    exact .inr rfl

end MirrorsFailure

theorem exists_type_of_orderable {op : Operation} {v : Json} (h : checkOrderable op v = .ok ()) :
    ∃ ty, ValueType.of? v = some ty := by
  apply ValueType.of?_isSome_iff.2
  rintro rfl
  cases h

theorem checkOrderable_of_checkBounds {op : Operation} {low high : Json}
    (h : checkBounds op low high = .ok ()) : checkOrderable op low = .ok () := by
  obtain ⟨⟨⟩, orderable, -⟩ := Except.bind_eq_ok_iff.1 h
  exact orderable

theorem Leaf.checkOrderable_of_checkOrdering {v : Json} (h : l.checkOrdering v = .ok ()) :
    checkOrderable l.op v = .ok () := by
  obtain ⟨⟨⟩, orderable, -⟩ := Except.bind_eq_ok_iff.1 h
  exact orderable

theorem Leaf.checkOrderable_of_comparedValue {i : Inequality} {v : Json}
    (h : l.comparedValue (.ineq i) = .ok v) : checkOrderable l.op v = .ok () := by
  obtain ⟨_, -, h⟩ := Except.bind_eq_ok_iff.1 h
  obtain ⟨w, -, h⟩ := Except.bind_eq_ok_iff.1 h
  obtain ⟨⟨⟩, orderable, h⟩ := Except.bind_eq_ok_iff.1 h
  cases h
  exact orderable

theorem Leaf.checkOrderable_of_boundsByKey {low high : Json}
    (h : l.boundsByKey = .ok (low, high)) : checkOrderable l.op low = .ok () := by
  obtain ⟨_, -, h⟩ := Except.bind_eq_ok_iff.1 h
  obtain ⟨v, -, h⟩ := Except.bind_eq_ok_iff.1 h
  obtain ⟨w, -, h⟩ := Except.bind_eq_ok_iff.1 h
  obtain ⟨⟨⟩, bounds, h⟩ := Except.bind_eq_ok_iff.1 h
  cases h
  exact checkOrderable_of_checkBounds bounds

theorem Leaf.exists_equality {negated : Bool} {v : Json} (h : v ≠ .null) :
    ∃ x, l.equality e bin negated v = .ok x := by
  obtain ⟨s, rfl, ignoreCase⟩ | compared := l.equality_cases e bin negated v
  · simp only [equality, ignoreCase]
    exact ⟨_, rfl⟩
  · obtain ⟨ty, type⟩ := ValueType.of?_isSome_iff.2 h
    rw [compared, compareBin_eq_ok type]
    exact ⟨_, rfl⟩

namespace ScalarOp

theorem mirrorsFailure (op : ScalarOp) :
    MirrorsFailure (op.indexFilter l bin) (op.expression l e bin) := by
  match op with
  | .compare .eq =>
    apply MirrorsFailure.bind
    intro v value
    by_cases isNull : v = .null
    · -- Nothing equals null, and no index lists it.
      subst isNull
      exact .of_none
    · obtain ⟨x, compiled⟩ := Leaf.exists_equality isNull
      rw [compiled]
      exact .of_ok x
  | .compare (.ineq i) =>
    apply MirrorsFailure.bind
    intro v value
    apply MirrorsFailure.bind
    intro _ ordered
    obtain ⟨ty, type⟩ := exists_type_of_orderable (Leaf.checkOrderable_of_checkOrdering ordered)
    rw [Leaf.compareBin_eq_ok type]
    exact .of_ok _
  | .between =>
    apply MirrorsFailure.bind
    intro low value
    apply MirrorsFailure.bind
    intro high upper
    apply MirrorsFailure.bind
    intro _ bounds
    apply MirrorsFailure.bind
    intro _ ordered
    obtain ⟨ty, type⟩ := exists_type_of_orderable (Leaf.checkOrderable_of_checkOrdering ordered)
    rw [requireType_eq_ok type]
    exact .of_ok _
  | .compare .ne | .isIn | .notIn | .isNull | .isNotNull => exact .of_none

end ScalarOp

theorem PatternOp.mirrorsFailure (op : PatternOp) :
    MirrorsFailure (PatternOp.indexFilter l) (op.expression l bin) := by
  apply MirrorsFailure.bind
  intro v value
  apply MirrorsFailure.bind
  intro text isText
  exact .of_none

theorem ElementOp.mirrorsFailure (op : ElementOp) :
    MirrorsFailure (op.indexFilter l e bin) (op.expression l e bin) := by
  apply MirrorsFailure.bind
  intro s selects
  cases op <;> exact .of_ok _

theorem KeyedOp.mirrorsFailure (op : KeyedOp) :
    MirrorsFailure (op.indexFilter l bin) (op.expression l e bin) := by
  apply MirrorsFailure.bind
  intro key requireKey
  apply MirrorsFailure.map
  match op with
  | .compare .eq =>
    apply MirrorsFailure.bind
    intro v compared
    by_cases isNull : v = .null
    · subst isNull
      exact .of_none
    · obtain ⟨ty, type⟩ := ValueType.of?_isSome_iff.2 isNull
      rw [requireType_eq_ok type]
      exact .of_ok _
  | .compare .ne =>
    -- Only the expression looks at the value.
    simp only [Leaf.comparedValue, bind_assoc]
    apply MirrorsFailure.bind
    intro _ plain
    exact .of_none
  | .compare (.ineq i) =>
    apply MirrorsFailure.bind
    intro v compared
    obtain ⟨ty, type⟩ := exists_type_of_orderable (Leaf.checkOrderable_of_comparedValue compared)
    rw [requireType_eq_ok type]
    exact .of_ok _
  | .between =>
    apply MirrorsFailure.bind
    intro bounds compared
    obtain ⟨ty, type⟩ := exists_type_of_orderable (Leaf.checkOrderable_of_boundsByKey compared)
    simp only [requireType_eq_ok type]
    exact .of_ok _
  | .startsWith | .endsWith | .containing =>
    apply MirrorsFailure.bind
    intro v value
    apply MirrorsFailure.bind
    intro text isText
    exact .of_none
  | .present | .absent => exact .of_none

namespace Leaf

theorem mirrorsFailure (l : Leaf) (e : Encoder) :
    MirrorsFailure (l.indexFilter e) (l.expression e) := by
  cases target : l.target with
  | id | metadata =>
    simp only [indexFilter, target]
    exact .of_none
  | field bin =>
    cases op : l.op with
    | scalar s =>
      simp only [indexFilter, expression, target, op]
      exact ScalarOp.mirrorsFailure s
    | pattern p =>
      simp only [indexFilter, expression, target, op]
      exact PatternOp.mirrorsFailure p
    | element e =>
      simp only [indexFilter, expression, target, op]
      exact ElementOp.mirrorsFailure e
    | keyed k =>
      simp only [indexFilter, expression, target, op]
      exact KeyedOp.mirrorsFailure k
    | geoWithin =>
      simp only [indexFilter, expression, target, op]
      apply MirrorsFailure.bind
      intro region isRegion
      exact .of_ok _

end Leaf

/-- No bound of a list comparison upwards overflows in the filter that has not done so in the
selector. -/
theorem ElementOp.expression_error_of_listValue_gt
    (h : (ElementOp.listValue .gt).indexFilter l e bin = .error err) :
    (ElementOp.listValue .gt).expression l e bin = .error err := by
  obtain refused | ⟨i, n, same, overflow⟩ := ElementOp.error h
  · exact refused
  obtain ⟨rfl⟩ := same
  obtain ⟨-, rfl⟩ | ⟨⟨⟩, -⟩ := overflow.atLimit
  obtain failed | ⟨s, selects, -⟩ := Except.bind_eq_error_iff.1 h
  · rw [expression, failed, Except.error_bind]
  · simp only [selector, ignoreCase_of_selector selects, Bool.false_eq_true, if_false,
      overflow.value, Except.ok_bind] at selects
    obtain ⟨next, found, -⟩ := Except.bind_eq_ok_iff.1 selects
    exact absurd rfl (requireSuccessor_int64 found).1

namespace Leaf

theorem expression_error_of_listValue_gt (op : l.op = .element (.listValue .gt))
    (h : l.indexFilter e = .error err) : l.expression e = .error err := by
  cases target : l.target with
  | id | metadata =>
    simp only [indexFilter, target] at h
    cases h
  | field bin =>
    simp only [indexFilter, expression, target, op] at h ⊢
    exact ElementOp.expression_error_of_listValue_gt h

theorem exists_expression_of_overflow {op : Operation} {v : Int64}
    (h : l.indexFilter e = .error (.rangeOverflow op v))
    (other : l.op ≠ .element (.listValue .gt)) : ∃ x, l.expression e = .ok x := by
  cases compiled : l.expression e with
  | ok x => exact ⟨x, rfl⟩
  | error err =>
    obtain refused | nothing := l.mirrorsFailure e err compiled
    · obtain rfl : _ = err := Except.error.inj (h.symm.trans refused)
      cases l.expression_failsOnly e _ compiled with
      | noneAbove isGreater => exact absurd isGreater other
    · cases h.symm.trans nothing

/-- The two encodings of a leaf, valid or not, agree on what they refuse. An operand that is refused
as a filter is refused in the expression with the same error, unless only the index overflows; and
what the expression refuses is refused as a filter too or has none. -/
theorem encodings_agree_on_failure (l : Leaf) (e : Encoder) :
    (∀ f, l.indexFilter e = .ok (some f) → ∃ x, l.expression e = .ok x) ∧
    (∀ err, l.indexFilter e = .error err → (∀ op v, err ≠ .rangeOverflow op v) →
      l.expression e = .error err) ∧
    (∀ op v, l.indexFilter e = .error (.rangeOverflow op v) →
      (l.op = .element (.listValue .gt) → l.expression e = .error (.rangeOverflow op v)) ∧
      (l.op ≠ .element (.listValue .gt) → ∃ x, l.expression e = .ok x)) ∧
    ∀ err, l.expression e = .error err →
      l.indexFilter e = .error err ∨ l.indexFilter e = .ok none := by
  refine ⟨fun f h => ?_, fun err h notOverflow => ?_, fun op v h => ?_, l.mirrorsFailure e⟩
  · obtain ⟨x, compiled, -⟩ := answers_of_filter h
    exact ⟨x, compiled⟩
  · obtain refused | ⟨-, v, overflow⟩ := expression_error_of_filter_error h
    · exact refused
    · exact absurd overflow (notOverflow l.op v)
  · constructor
    · intro isGreater
      exact expression_error_of_listValue_gt isGreater h
    · intro other
      exact exists_expression_of_overflow h other

theorem encodings_agree_on_failure_of_bounds :
    let above (bound : Json) := Leaf.onBin "age" (.scalar (.compare (.ineq .gt))) bound
    let anyAbove := Leaf.onBin "years" (.element (.listValue .gt)) (.int64 .maxValue)
    let isNull := Leaf.onBin "age" (.scalar (.compare .eq)) .null
    (∃ x, (above (.int 17)).expression .json = .ok x) ∧
      (above (.bool true)).expression .json =
        .error (.valueTypeMismatch (.scalar (.compare (.ineq .gt))) .orderable .bool) ∧
      (∃ x, (above (.int64 .maxValue)).expression .json = .ok x) ∧
      anyAbove.expression .json =
        .error (.rangeOverflow (.element (.listValue .gt)) .maxValue) ∧
      (isNull.indexFilter .json =
          .error (.valueTypeMismatch (.scalar (.compare .eq)) .nonNull .null) ∨
        isNull.indexFilter .json = .ok none) := by
  intro above anyAbove isNull
  obtain ⟨ofFilter, -, -, -⟩ := encodings_agree_on_failure (above (.int 17)) .json
  obtain ⟨-, ofError, -, -⟩ := encodings_agree_on_failure (above (.bool true)) .json
  obtain ⟨-, -, ofOverflow, -⟩ := encodings_agree_on_failure (above (.int64 .maxValue)) .json
  obtain ⟨-, -, ofGreater, -⟩ := encodings_agree_on_failure anyAbove .json
  obtain ⟨-, -, -, ofExpression⟩ := encodings_agree_on_failure isNull .json
  exact ⟨ofFilter _ rfl, ofError _ rfl fun _ _ => nofun, (ofOverflow _ _ rfl).2 nofun,
    (ofGreater _ _ rfl).1 rfl, ofExpression _ rfl⟩

end Leaf

end StoreQuery
