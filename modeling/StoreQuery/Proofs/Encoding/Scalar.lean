import StoreQuery.Encoding.Scalar
import StoreQuery.Proofs.Encoding.Typed
import StoreQuery.Proofs.Except

namespace StoreQuery

variable {l : Leaf} {e : Encoder} {bin : String} {f : IndexFilter}

theorem requireType_eq_ok {op : Operation} {expected : Expectation} {v : Json} {ty : ValueType}
    (h : ValueType.of? v = some ty) : requireType op expected v = .ok ty := by
  rw [requireType, h]

namespace Leaf

theorem literal_key (key : IndexKey) : l.literal e key.value = .literal key.value := by
  rw [literal, Encoder.operand_key]

theorem literal_int64 (n : Int64) : l.literal e (.int64 n) = .literal (.int64 n) := rfl

theorem compareBin_eq_ok {c : Comparison} {v : Json} {ty : ValueType}
    (h : ValueType.of? v = some ty) :
    l.compareBin e bin c v = .ok (.compare c (.bin bin ty) (l.literal e v)) := by
  rw [compareBin, requireType_eq_ok h]
  rfl

theorem equality_eq_compareBin {negated : Bool} {v : Json}
    (h : ∀ s, v = .str s → l.ignoreCase = true → False) :
    l.equality e bin negated v = l.compareBin e bin (if negated then .ne else .eq) v := by
  rw [equality]
  exact h

theorem equality_cases (l : Leaf) (e : Encoder) (bin : String) (negated : Bool) (v : Json) :
    (∃ s, v = .str s ∧ l.ignoreCase = true) ∨
      l.equality e bin negated v = l.compareBin e bin (if negated then .ne else .eq) v := by
  by_cases folded : ∃ s, v = .str s ∧ l.ignoreCase = true
  · exact .inl folded
  · exact .inr (equality_eq_compareBin fun s isText ignoreCase => folded ⟨s, isText, ignoreCase⟩)

end Leaf

namespace ScalarOp

variable {r : Record}

theorem resolve_bin (bin : String) (ty : ValueType) (r : Record) :
    (Operand.bin bin ty).resolve r = (r.bin? bin).bind ty.read? := rfl

theorem answer_of_eq (h : indexFilter l bin (.compare .eq) = .ok (some f)) :
    ∃ x, expression l e bin (.compare .eq) = .ok x ∧
      ∀ read r, f.Admits read r ↔ x.evaluate r = .holds := by
  obtain ⟨v, value, h⟩ := Except.bind_eq_ok_iff.1 h
  split at h
  · cases h
  · rename_i plain
    obtain ⟨key, isKey, rfl⟩ := Option.map_eq_some_iff.1 (Except.ok.inj h)
    obtain rfl := IndexKey.of?_eq_some_iff.1 isKey
    obtain ⟨ty, type⟩ := ValueType.of?_isSome_iff.2 key.value_ne_null
    have compiled : expression l e bin (.compare .eq) =
        .ok (.compare .eq (.bin bin ty) (.literal key.value)) := by
      rw [expression, value, Except.ok_bind, Leaf.equality_eq_compareBin plain,
        Leaf.compareBin_eq_ok type, Leaf.literal_key]
      rfl
    refine ⟨_, compiled, fun read r => ?_⟩
    rw [IndexFilter.admits_whole_iff]
    exact (Expr.evaluate_equal_iff (resolve_bin bin ty r) type).symm

theorem answer_of_ineq {i : Inequality}
    (h : indexFilter l bin (.compare (.ineq i)) = .ok (some f)) :
    ∃ x, expression l e bin (.compare (.ineq i)) = .ok x ∧
      ∀ read r, f.Admits read r ↔ x.evaluate r = .holds := by
  obtain ⟨v, value, h⟩ := Except.bind_eq_ok_iff.1 h
  obtain ⟨⟨⟩, ordered, h⟩ := Except.bind_eq_ok_iff.1 h
  split at h
  · cases h
  · rename_i n isInt
    obtain ⟨⟨first, last⟩, range, h⟩ := Except.bind_eq_ok_iff.1 h
    cases h
    obtain rfl := Json.int64?_eq_some_iff.1 isInt
    have compiled : expression l e bin (.compare (.ineq i)) =
        .ok (.compare (.ineq i) (.bin bin .int) (.literal (.int64 n))) := by
      rw [expression, value, Except.ok_bind, ordered, Except.ok_bind,
        Leaf.compareBin_eq_ok (ValueType.of?_int64 n), Leaf.literal_int64]
    refine ⟨_, compiled, fun read r => ?_⟩
    rw [IndexFilter.admits_whole_iff]
    exact (Expr.evaluate_range_iff (resolve_bin bin .int r) range).symm

theorem answer_of_between (h : indexFilter l bin .between = .ok (some f)) :
    ∃ x, expression l e bin .between = .ok x ∧
      ∀ read r, f.Admits read r ↔ x.evaluate r = .holds := by
  obtain ⟨low, value, h⟩ := Except.bind_eq_ok_iff.1 h
  obtain ⟨high, upper, h⟩ := Except.bind_eq_ok_iff.1 h
  obtain ⟨⟨⟩, bounds, h⟩ := Except.bind_eq_ok_iff.1 h
  obtain ⟨⟨⟩, ordered, h⟩ := Except.bind_eq_ok_iff.1 h
  split at h
  · rename_i first last lowInt highInt
    cases h
    obtain rfl := Json.int64?_eq_some_iff.1 lowInt
    obtain rfl := Json.int64?_eq_some_iff.1 highInt
    have compiled : expression l e bin .between =
        .ok (.allOf [.compare (.ineq .ge) (.bin bin .int) (.literal (.int64 first)),
          .compare (.ineq .le) (.bin bin .int) (.literal (.int64 last))]) := by
      rw [expression, value, Except.ok_bind, upper, Except.ok_bind, bounds, Except.ok_bind, ordered,
        Except.ok_bind, requireType_eq_ok (ValueType.of?_int64 first)]
      rfl
    refine ⟨_, compiled, fun read r => ?_⟩
    rw [IndexFilter.admits_whole_iff]
    exact (Expr.evaluate_between_iff (resolve_bin bin .int r)).symm
  · cases h

theorem answer {op : ScalarOp} (h : op.indexFilter l bin = .ok (some f)) :
    ∃ x, op.expression l e bin = .ok x ∧ ∀ read r, f.Admits read r ↔ x.evaluate r = .holds := by
  match op with
  | .compare .eq => exact answer_of_eq h
  | .compare (.ineq i) => exact answer_of_ineq h
  | .between => exact answer_of_between h
  | .compare .ne | .isIn | .notIn | .isNull | .isNotNull => cases h

theorem error {op : ScalarOp} {err : QueryError} (h : op.indexFilter l bin = .error err) :
    op.expression l e bin = .error err ∨
      ∃ i n, op = .compare (.ineq i) ∧ l.OverflowsAt i n err := by
  match op with
  | .compare .eq =>
    obtain failed | ⟨v, value, h⟩ := Except.bind_eq_error_iff.1 h
    · left
      rw [expression, failed, Except.error_bind]
    · split at h <;> cases h
  | .compare (.ineq i) =>
    obtain failed | ⟨v, value, h⟩ := Except.bind_eq_error_iff.1 h
    · left
      rw [expression, failed, Except.error_bind]
    obtain failed | ⟨⟨⟩, ordered, h⟩ := Except.bind_eq_error_iff.1 h
    · left
      rw [expression, value, Except.ok_bind, failed, Except.error_bind]
    split at h
    · cases h
    · rename_i n isInt
      obtain failed | ⟨range, -, h⟩ := Except.bind_eq_error_iff.1 h
      · obtain rfl := Json.int64?_eq_some_iff.1 isInt
        exact .inr ⟨i, n, rfl, Leaf.overflowsAt_of_indexRange value failed⟩
      · cases h
  | .between =>
    obtain failed | ⟨low, value, h⟩ := Except.bind_eq_error_iff.1 h
    · left
      rw [expression, failed, Except.error_bind]
    obtain failed | ⟨high, upper, h⟩ := Except.bind_eq_error_iff.1 h
    · left
      rw [expression, value, Except.ok_bind, failed, Except.error_bind]
    obtain failed | ⟨⟨⟩, bounds, h⟩ := Except.bind_eq_error_iff.1 h
    · left
      rw [expression, value, Except.ok_bind, upper, Except.ok_bind, failed, Except.error_bind]
    obtain failed | ⟨⟨⟩, ordered, h⟩ := Except.bind_eq_error_iff.1 h
    · left
      rw [expression, value, Except.ok_bind, upper, Except.ok_bind, bounds, Except.ok_bind, failed,
        Except.error_bind]
    split at h <;> cases h
  | .compare .ne | .isIn | .notIn | .isNull | .isNotNull => cases h

end ScalarOp

end StoreQuery
