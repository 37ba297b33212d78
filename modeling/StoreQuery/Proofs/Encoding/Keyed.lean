import StoreQuery.Encoding.Keyed
import StoreQuery.Proofs.Encoding.Scalar

namespace StoreQuery

theorem Record.exists_entry_of_mapValue? {r : Record} {bin : String} {path : Path} {key v : Json}
    (h : r.mapValue? bin path key = some v) :
    ∃ fields, (r.bin? bin).bind path.resolve = some (.obj fields) ∧
      ∃ name, key.keyText? = some name ∧ (name, v) ∈ fields := by
  simp only [mapValue?, Option.bind_eq_bind, Option.bind_eq_some_iff] at h
  obtain ⟨root, stored, target, resolved, h⟩ := h
  cases target with
  | obj fields =>
    obtain ⟨name, text, looked⟩ := Option.bind_eq_some_iff.1 h
    obtain ⟨before, after, rfl, -⟩ := List.lookup_eq_some_iff.1 looked
    exact ⟨_, Option.bind_eq_some_iff.2 ⟨root, stored, resolved⟩, name, text, by simp⟩
  | _ => cases h

namespace KeyedOp

variable {l : Leaf} {e : Encoder} {bin : String} {f : IndexFilter}

theorem resolve_mapValue (bin : String) (path : Path) (key : Json) (ty : ValueType) (r : Record) :
    (Operand.mapValue bin path key ty).resolve r = (r.mapValue? bin path key).bind ty.read? :=
  rfl

theorem admits_of_mapValue? {read : RegionReader} {path : Path} {key v : Json}
    {kind : FilterKind} {r : Record} (h : r.mapValue? bin path key = some v)
    (found : kind.Matches read v) :
    IndexFilter.Admits read { bin, coverage := .elements .mapValues, path, kind } r := by
  obtain ⟨fields, resolved, name, -, mem⟩ := Record.exists_entry_of_mapValue? h
  exact ⟨_, resolved, v, List.mem_map.2 ⟨(name, v), mem, rfl⟩, found⟩

theorem expression_compare_eq_ok {c : Comparison} {key v : Json} {ty : ValueType}
    (requireKey : l.requireKey = .ok key) (compared : l.comparedValue c = .ok v)
    (type : ValueType.of? v = some ty) :
    expression l e bin (.compare c) = .ok (.compare c
      (.mapValue bin l.path (e.encodeKey key l.settings) ty) (l.literal e v)) := by
  simp only [expression, requireKey, Except.ok_bind, compared, requireType_eq_ok type]
  rfl

theorem answer_of_eq {key : Json} {kind : FilterKind} (requireKey : l.requireKey = .ok key)
    (h : filterKind l (.compare .eq) = .ok (some kind)) :
    ∃ x, expression l e bin (.compare .eq) = .ok x ∧ ∀ read r, x.evaluate r = .holds →
      ∃ v, r.mapValue? bin l.path (e.encodeKey key l.settings) = some v ∧ kind.Matches read v := by
  obtain ⟨v, compared, h⟩ := Except.bind_eq_ok_iff.1 h
  obtain ⟨operand, isKey, rfl⟩ := Option.map_eq_some_iff.1 (Except.ok.inj h)
  obtain rfl := IndexKey.of?_eq_some_iff.1 isKey
  obtain ⟨ty, type⟩ := ValueType.of?_isSome_iff.2 operand.value_ne_null
  refine ⟨_, expression_compare_eq_ok requireKey compared type, fun read r holds => ?_⟩
  rw [Leaf.literal_key] at holds
  exact (Expr.evaluate_equal_iff (resolve_mapValue ..) type).1 holds

theorem answer_of_ineq {i : Inequality} {key : Json} {kind : FilterKind}
    (requireKey : l.requireKey = .ok key)
    (h : filterKind l (.compare (.ineq i)) = .ok (some kind)) :
    ∃ x, expression l e bin (.compare (.ineq i)) = .ok x ∧ ∀ read r, x.evaluate r = .holds →
      ∃ v, r.mapValue? bin l.path (e.encodeKey key l.settings) = some v ∧ kind.Matches read v := by
  obtain ⟨v, compared, h⟩ := Except.bind_eq_ok_iff.1 h
  split at h
  · cases h
  · rename_i n isInt
    obtain ⟨⟨first, last⟩, range, h⟩ := Except.bind_eq_ok_iff.1 h
    cases h
    obtain rfl := Json.int64?_eq_some_iff.1 isInt
    have type := ValueType.of?_int64 n
    refine ⟨_, expression_compare_eq_ok requireKey compared type, fun read r holds => ?_⟩
    rw [Leaf.literal_int64] at holds
    exact (Expr.evaluate_range_iff (resolve_mapValue ..) range).1 holds

theorem answer_of_between {key : Json} {kind : FilterKind} (requireKey : l.requireKey = .ok key)
    (h : filterKind l .between = .ok (some kind)) :
    ∃ x, expression l e bin .between = .ok x ∧ ∀ read r, x.evaluate r = .holds →
      ∃ v, r.mapValue? bin l.path (e.encodeKey key l.settings) = some v ∧ kind.Matches read v := by
  obtain ⟨⟨low, high⟩, bounds, h⟩ := Except.bind_eq_ok_iff.1 h
  simp only at h
  split at h
  · rename_i first last lowInt highInt
    cases h
    obtain rfl := Json.int64?_eq_some_iff.1 lowInt
    obtain rfl := Json.int64?_eq_some_iff.1 highInt
    have compiled : expression l e bin .between = .ok (.allOf
        [.compare (.ineq .ge) (.mapValue bin l.path (e.encodeKey key l.settings) .int)
          (.literal (.int64 first)),
        .compare (.ineq .le) (.mapValue bin l.path (e.encodeKey key l.settings) .int)
          (.literal (.int64 last))]) := by
      simp only [expression, requireKey, Except.ok_bind, bounds,
        requireType_eq_ok (ValueType.of?_int64 first)]
      rfl
    refine ⟨_, compiled, fun read r holds => ?_⟩
    exact (Expr.evaluate_between_iff (resolve_mapValue ..)).1 holds
  · cases h

theorem answer {op : KeyedOp} (h : op.indexFilter l bin = .ok (some f)) :
    (Operation.keyed op).isDual ∧ ∃ x, op.expression l e bin = .ok x ∧
      ∀ read r, x.evaluate r = .holds → f.Admits read r := by
  obtain ⟨key, requireKey, h⟩ := Except.bind_eq_ok_iff.1 h
  obtain ⟨_, isKind, h⟩ := Except.bind_eq_ok_iff.1 h
  obtain ⟨kind, rfl, rfl⟩ := Option.map_eq_some_iff.1 (Except.ok.inj h)
  have dual_and_answer : (Operation.keyed op).isDual ∧ ∃ x, op.expression l e bin = .ok x ∧
      ∀ read r, x.evaluate r = .holds → ∃ v,
        r.mapValue? bin l.path (e.encodeKey key l.settings) = some v ∧ kind.Matches read v := by
    match op with
    | .compare .eq => exact ⟨rfl, answer_of_eq requireKey isKind⟩
    | .compare (.ineq i) => exact ⟨rfl, answer_of_ineq requireKey isKind⟩
    | .between => exact ⟨rfl, answer_of_between requireKey isKind⟩
    | .compare .ne =>
      obtain ⟨_, -, isKind⟩ := Except.bind_eq_ok_iff.1 isKind
      cases isKind
    | .startsWith | .endsWith | .containing =>
      obtain ⟨_, -, isKind⟩ := Except.bind_eq_ok_iff.1 isKind
      obtain ⟨_, -, isKind⟩ := Except.bind_eq_ok_iff.1 isKind
      cases isKind
    | .present | .absent => cases isKind
  obtain ⟨dual, x, compiled, reaches⟩ := dual_and_answer
  refine ⟨dual, x, compiled, fun read r holds => ?_⟩
  obtain ⟨v, stored, found⟩ := reaches read r holds
  exact admits_of_mapValue? stored found

theorem expression_compare_eq_error {c : Comparison} {key : Json} {err : QueryError}
    (requireKey : l.requireKey = .ok key) (failed : l.comparedValue c = .error err) :
    expression l e bin (.compare c) = .error err := by
  simp only [expression, requireKey, Except.ok_bind, failed, Except.error_bind]

theorem comparedValue_eq_error_of_rejected {c : Comparison} {err : QueryError}
    (h : l.rejectIgnoreCase = .error err) : l.comparedValue c = .error err := by
  rw [Leaf.comparedValue, h, Except.error_bind]

theorem requireValue_of_comparedValue {c : Comparison} {v : Json}
    (h : l.comparedValue c = .ok v) : l.requireValue = .ok v := by
  obtain ⟨_, -, h⟩ := Except.bind_eq_ok_iff.1 h
  obtain ⟨w, value, h⟩ := Except.bind_eq_ok_iff.1 h
  cases c with
  | ineq i =>
    obtain ⟨_, -, h⟩ := Except.bind_eq_ok_iff.1 h
    cases h
    exact value
  | eq | ne =>
    cases h
    exact value

theorem error {op : KeyedOp} {err : QueryError} (h : op.indexFilter l bin = .error err) :
    op.expression l e bin = .error err ∨
      ∃ i n, op = .compare (.ineq i) ∧ l.OverflowsAt i n err := by
  obtain failed | ⟨key, requireKey, h⟩ := Except.bind_eq_error_iff.1 h
  · left
    rw [expression, failed, Except.error_bind]
  obtain failed | ⟨_, -, h⟩ := Except.bind_eq_error_iff.1 h
  · match op with
    | .compare .eq =>
      obtain failed | ⟨v, -, failed⟩ := Except.bind_eq_error_iff.1 failed
      · exact .inl (expression_compare_eq_error requireKey failed)
      · cases failed
    | .compare .ne =>
      obtain failed | ⟨_, -, failed⟩ := Except.bind_eq_error_iff.1 failed
      · left
        exact expression_compare_eq_error requireKey (comparedValue_eq_error_of_rejected failed)
      · cases failed
    | .compare (.ineq i) =>
      obtain failed | ⟨v, compared, failed⟩ := Except.bind_eq_error_iff.1 failed
      · exact .inl (expression_compare_eq_error requireKey failed)
      split at failed
      · cases failed
      · rename_i n isInt
        obtain overflow | ⟨range, -, failed⟩ := Except.bind_eq_error_iff.1 failed
        · obtain rfl := Json.int64?_eq_some_iff.1 isInt
          have value := requireValue_of_comparedValue compared
          exact .inr ⟨i, n, rfl, Leaf.overflowsAt_of_indexRange value overflow⟩
        · cases failed
    | .between =>
      obtain failed | ⟨⟨low, high⟩, -, failed⟩ := Except.bind_eq_error_iff.1 failed
      · left
        simp only [expression, requireKey, Except.ok_bind, failed, Except.error_bind]
      · simp only at failed
        split at failed <;> cases failed
    | .startsWith | .endsWith | .containing =>
      left
      obtain failed | ⟨v, value, failed⟩ := Except.bind_eq_error_iff.1 failed
      · simp only [expression, requireKey, Except.ok_bind, failed, Except.error_bind]
      obtain failed | ⟨text, -, failed⟩ := Except.bind_eq_error_iff.1 failed
      · simp only [expression, requireKey, Except.ok_bind, value, failed, Except.error_bind]
      · cases failed
    | .present | .absent => cases failed
  · cases h

end KeyedOp

end StoreQuery
