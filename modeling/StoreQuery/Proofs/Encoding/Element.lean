import StoreQuery.Proofs.Encoding.Selector

namespace StoreQuery.ElementOp

variable {l : Leaf} {e : Encoder} {bin : String} {f : IndexFilter}
  {op : ElementOp} {s : Selector}

theorem ignoreCase_of_selector (h : op.selector l e = .ok s) : l.ignoreCase = false := by
  cases ignoreCase : l.ignoreCase with
  | false => rfl
  | true =>
    rw [selector, ignoreCase, if_pos rfl] at h
    cases h

theorem selector_listValue {i : Inequality} {n : Int64}
    (h : selector l e (.listValue i) = .ok s) (value : l.requireValue = .ok (.int64 n)) :
    ∃ lower upper : Option Int64,
      s = .range (lower.map .int64) (upper.map .int64) ∧ lower.or upper ≠ none ∧
        ∀ m, (∀ a ∈ lower, a ≤ m) ∧ (∀ b ∈ upper, m < b) ↔ i.Relates m n := by
  simp only [selector, ignoreCase_of_selector h, Bool.false_eq_true, if_false, value,
    Except.ok_bind] at h
  cases i with
  | gt =>
    obtain ⟨b, next, h⟩ := Except.bind_eq_ok_iff.1 h
    obtain ⟨inside, rfl⟩ := requireSuccessor_int64 next
    cases h
    refine ⟨some (n + 1), none, rfl, by simp, fun m => ?_⟩
    simp [Inequality.Relates, Int64.add_one_le_iff inside]
  | ge =>
    cases h
    exact ⟨some n, none, rfl, by simp, fun m => by simp [Inequality.Relates]⟩
  | lt =>
    cases h
    exact ⟨none, some n, rfl, by simp, fun m => by simp [Inequality.Relates]⟩
  | le =>
    simp only [successor_int64, Except.ok_bind] at h
    cases next : next? n with
    | none =>
      -- Every integer is at most the greatest one, and the selector takes them all.
      rw [next] at h
      cases h
      refine ⟨some .minValue, none, rfl, by simp, fun m => ?_⟩
      rw [Inequality.Relates, ← lt_next?_iff, next]
      simp [m.minValue_le]
    | some b =>
      rw [next] at h
      cases h
      refine ⟨none, some b, rfl, by simp, fun m => ?_⟩
      rw [Inequality.Relates, ← lt_next?_iff, next]
      simp

theorem selector_contains {es : Elements} {v : Json} (h : selector l e (.contains es) = .ok s)
    (value : l.requireValue = .ok v) : s = .value (member l e v es) := by
  simp only [selector, ignoreCase_of_selector h, Bool.false_eq_true, if_false, value,
    Except.ok_bind] at h
  cases h
  rfl

theorem selector_lacks (es : Elements) :
    selector l e (.lacks es) = selector l e (.contains es) := rfl

theorem selector_between {es : Elements} {low high : Int64}
    (h : selector l e (.between es) = .ok s) (value : l.requireValue = .ok (.int64 low))
    (upper : l.requireUpper = .ok (.int64 high)) :
    s = .range ((some low).map .int64) ((next? high).map .int64) := by
  simp only [selector, ignoreCase_of_selector h, Bool.false_eq_true, if_false, value, upper,
    Except.ok_bind] at h
  obtain ⟨⟨⟩, -, h⟩ := Except.bind_eq_ok_iff.1 h
  rw [successor_int64] at h
  cases h
  rfl

theorem agrees_of_indexFilter (h : op.indexFilter l e bin = .ok (some f)) :
    f.bin = bin ∧ f.path = l.path ∧ f.coverage = .elements op.elements ∧
      (∀ es, op ≠ .lacks es) ∧ ∃ s, op.selector l e = .ok s ∧ ∀ read, s.Agrees read f := by
  obtain ⟨s, selects, h⟩ := Except.bind_eq_ok_iff.1 h
  obtain ⟨v, value, h⟩ := Except.bind_eq_ok_iff.1 h
  obtain ⟨_, isKind, h⟩ := Except.bind_eq_ok_iff.1 h
  obtain ⟨kind, rfl, rfl⟩ := Option.map_eq_some_iff.1 (Except.ok.inj h)
  match op with
  | .contains es =>
    obtain ⟨key, isKey, rfl⟩ := Option.map_eq_some_iff.1 (Except.ok.inj isKind)
    refine ⟨rfl, rfl, rfl, fun _ => nofun, s, selects, fun read => ?_⟩
    rw [selector_contains selects value, IndexKey.of?_eq_some_iff.1 isKey]
    exact Selector.agrees_value rfl
  | .lacks _ => cases isKind
  | .between es =>
    obtain ⟨high, upper, isKind⟩ := Except.bind_eq_ok_iff.1 isKind
    split at isKind
    · rename_i first last lowInt highInt
      cases isKind
      obtain rfl := Json.int64?_eq_some_iff.1 lowInt
      obtain rfl := Json.int64?_eq_some_iff.1 highInt
      refine ⟨rfl, rfl, rfl, fun _ => nofun, s, selects, fun read => ?_⟩
      rw [selector_between selects value upper]
      refine Selector.agrees_range rfl (by simp) fun m => ?_
      rw [lt_next?_iff]
      simp
    · cases isKind
  | .listValue i =>
    simp only [filterKind] at isKind
    split at isKind
    · cases isKind
    · rename_i n isInt
      obtain ⟨⟨first, last⟩, range, isKind⟩ := Except.bind_eq_ok_iff.1 isKind
      cases isKind
      obtain rfl := Json.int64?_eq_some_iff.1 isInt
      obtain ⟨lower, upper, rfl, bounded, related⟩ := selector_listValue selects value
      refine ⟨rfl, rfl, rfl, fun _ => nofun, _, selects, fun read => ?_⟩
      refine Selector.agrees_range rfl bounded fun m => ?_
      rw [related, mem_indexRange range]

theorem expression_eq (selects : op.selector l e = .ok s) :
    op.expression l e bin =
      .ok (.compare op.test (.count bin l.path op.elements s) (.literal (.int 0))) := by
  rw [expression, selects, Except.ok_bind]
  rfl

theorem test_of_ne_lacks (positive : ∀ es, op ≠ .lacks es) : op.test = .ineq .gt := by
  cases op with
  | lacks es => exact absurd rfl (positive es)
  | contains | between | listValue => rfl

theorem answer (h : op.indexFilter l e bin = .ok (some f)) :
    ∃ x, op.expression l e bin = .ok x ∧
      ∀ read r, f.Int64Only r → (f.Admits read r ↔ x.evaluate r = .holds) := by
  obtain ⟨rfl, path, coverage, positive, s, selects, agrees⟩ := agrees_of_indexFilter h
  refine ⟨_, expression_eq selects, fun read r int64Only => ?_⟩
  rw [test_of_ne_lacks positive]
  rw [← path]
  exact ((agrees read).evaluate_count_iff coverage int64Only).symm

theorem requireValue_of_selector (h : op.selector l e = .ok s) : ∃ v, l.requireValue = .ok v := by
  simp only [selector, ignoreCase_of_selector h, Bool.false_eq_true, if_false] at h
  obtain ⟨v, value, -⟩ := Except.bind_eq_ok_iff.1 h
  exact ⟨v, value⟩

theorem requireUpper_of_selector {es : Elements} (h : selector l e (.between es) = .ok s) :
    ∃ v, l.requireUpper = .ok v := by
  simp only [selector, ignoreCase_of_selector h, Bool.false_eq_true, if_false] at h
  obtain ⟨_, -, h⟩ := Except.bind_eq_ok_iff.1 h
  obtain ⟨v, upper, -⟩ := Except.bind_eq_ok_iff.1 h
  exact ⟨v, upper⟩

theorem error {err : QueryError} (h : op.indexFilter l e bin = .error err) :
    op.expression l e bin = .error err ∨ ∃ i n, op = .listValue i ∧ l.OverflowsAt i n err := by
  obtain failed | ⟨s, selects, h⟩ := Except.bind_eq_error_iff.1 h
  · left
    rw [expression, failed, Except.error_bind]
  obtain ⟨v, value⟩ := requireValue_of_selector selects
  rw [value, Except.ok_bind] at h
  obtain failed | ⟨_, -, h⟩ := Except.bind_eq_error_iff.1 h
  · match op with
    | .contains _ | .lacks _ => cases failed
    | .between _ =>
      obtain ⟨high, upper⟩ := requireUpper_of_selector selects
      rw [filterKind, upper, Except.ok_bind] at failed
      split at failed <;> cases failed
    | .listValue i =>
      simp only [filterKind] at failed
      split at failed
      · cases failed
      · rename_i n isInt
        obtain overflow | ⟨range, -, failed⟩ := Except.bind_eq_error_iff.1 failed
        · obtain rfl := Json.int64?_eq_some_iff.1 isInt
          exact .inr ⟨i, n, rfl, Leaf.overflowsAt_of_indexRange value overflow⟩
        · cases failed
  · cases h

end StoreQuery.ElementOp
