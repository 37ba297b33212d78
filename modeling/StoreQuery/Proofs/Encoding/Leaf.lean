import StoreQuery.Encoding.Leaf
import StoreQuery.Proofs.Encoding.Element
import StoreQuery.Proofs.Encoding.Keyed

/-!
The two encodings of any leaf. A filter finds every record on which the expression holds, and no
other one unless the leaf is to be checked again. Both encodings refuse the same operands, but for
strict comparisons with a bound that has no integer beyond it.
-/

namespace StoreQuery.Leaf

variable {l : Leaf} {e : Encoder} {f : IndexFilter} {x : Expr} {read : RegionReader}

/-- What an index finds for the leaf, against the records on which its expression holds. -/
structure Answers (l : Leaf) (read : RegionReader) (f : IndexFilter) (x : Expr) : Prop where
  finds_all : ∀ r, f.Int64Only r → x.evaluate r = .holds → f.Admits read r
  finds_only : ¬l.op.isDual → ∀ r, f.Int64Only r → f.Admits read r → x.evaluate r = .holds

namespace Answers

theorem of_iff (h : ∀ r, f.Int64Only r → (f.Admits read r ↔ x.evaluate r = .holds)) :
    l.Answers read f x where
  finds_all r int64Only := (h r int64Only).2
  finds_only _ r int64Only := (h r int64Only).1

theorem of_dual (dual : l.op.isDual) (h : ∀ r, x.evaluate r = .holds → f.Admits read r) :
    l.Answers read f x where
  finds_all r _ := h r
  finds_only notDual := absurd dual notDual

end Answers

/-- The store reads the region of the leaf back from the text that stands for it in a filter. -/
def ReadsBack (read : RegionReader) (l : Leaf) : Prop :=
  l.op = .geoWithin → ∀ region, l.region = .ok region → read region.toText = some region

theorem matches_geoWithin_iff {text : String} {region v : Json} (h : read text = some region) :
    (FilterKind.geoWithin text).Matches read v ↔ v.LiesIn region := by
  simp [FilterKind.Matches, h]

theorem evaluateGeo_eq_holds_iff {region : Json} {point : Option Json} :
    Expr.evaluateGeo region point = .holds ↔ ∃ v, point = some v ∧ v.LiesIn region := by
  cases point with
  | none => simp [Expr.evaluateGeo]
  | some v =>
    simp only [Expr.evaluateGeo, Option.bind_some, Option.some.injEq, exists_eq_left', Json.LiesIn]
    cases Geometry.ofJson? v <;> cases Geometry.ofJson? region <;> simp

theorem evaluate_geoWithin_iff {bin : String} {region : Json} {r : Record} :
    (Expr.geoWithin (.bin bin .geo) region).evaluate r = .holds ↔
      ∃ v, r.bin? bin = some v ∧ v.LiesIn region := by
  simp only [Expr.evaluate, evaluateGeo_eq_holds_iff, Operand.resolve, Option.bind_eq_bind,
    Option.bind_eq_some_iff, ValueType.read?_geo_eq_some_iff]
  constructor
  · rintro ⟨_, ⟨v, stored, -, rfl⟩, inside⟩
    exact ⟨v, stored, inside⟩
  · rintro ⟨v, stored, point, area, isPoint, isArea, inside⟩
    exact ⟨v, ⟨v, stored, ⟨point, isPoint⟩, rfl⟩, point, area, isPoint, isArea, inside⟩

theorem answers_of_geoWithin {bin : String} (target : l.target = .field bin)
    (op : l.op = .geoWithin) (h : l.indexFilter e = .ok (some f)) :
    ∃ x, l.expression e = .ok x ∧ ∀ read, l.ReadsBack read → l.Answers read f x := by
  simp only [indexFilter, target, op] at h
  obtain ⟨region, isRegion, h⟩ := Except.bind_eq_ok_iff.1 h
  have compiled : l.expression e = .ok (.geoWithin (.bin bin .geo) region) := by
    simp only [expression, target, op, isRegion, Except.ok_bind, Except.pure_eq_ok]
  split at h
  · cases h
    refine ⟨_, compiled, fun read readsBack => .of_iff fun r _ => ?_⟩
    rw [IndexFilter.admits_whole_iff, evaluate_geoWithin_iff]
    simp only [matches_geoWithin_iff (readsBack op region isRegion)]
  · cases h

theorem answers_of_filter (h : l.indexFilter e = .ok (some f)) :
    ∃ x, l.expression e = .ok x ∧ ∀ read, l.ReadsBack read → l.Answers read f x := by
  cases target : l.target with
  | id | metadata =>
    simp only [indexFilter, target] at h
    cases h
  | field bin =>
    cases op : l.op with
    | geoWithin => exact answers_of_geoWithin target op h
    | scalar =>
      simp only [indexFilter, expression, target, op] at h ⊢
      obtain ⟨x, compiled, admits_iff⟩ := ScalarOp.answer h
      exact ⟨x, compiled, fun read _ => .of_iff fun r _ => admits_iff read r⟩
    | pattern =>
      simp only [indexFilter, target, op] at h
      obtain ⟨_, -, h⟩ := Except.bind_eq_ok_iff.1 h
      obtain ⟨_, -, h⟩ := Except.bind_eq_ok_iff.1 h
      cases h
    | element =>
      simp only [indexFilter, expression, target, op] at h ⊢
      obtain ⟨x, compiled, admits_iff⟩ := ElementOp.answer h
      exact ⟨x, compiled, fun read _ => .of_iff (admits_iff read)⟩
    -- The index does not know under which key it found a value.
    | keyed =>
      simp only [indexFilter, expression, target, op] at h ⊢
      obtain ⟨dual, x, compiled, admits⟩ := KeyedOp.answer h
      exact ⟨x, compiled, fun read _ => .of_dual (op ▸ dual) (admits read)⟩

def AtLimit (l : Leaf) : Prop :=
  ∃ i bound, l.op.inequality? = some i ∧ l.value = some (.int64 bound) ∧ i.AtLimit bound

theorem requireValue_eq_ok_iff {v : Json} : l.requireValue = .ok v ↔ l.value = some v := by
  cases value : l.value <;> simp [requireValue, require, value]

theorem requireUpper_eq_ok_iff {v : Json} : l.requireUpper = .ok v ↔ l.upper = some v := by
  cases upper : l.upper <;> simp [requireUpper, require, upper]

theorem OverflowsAt.atLimit_and_eq {i : Inequality} {bound : Int64} {err : QueryError}
    (h : l.OverflowsAt i bound err) (op : l.op.inequality? = some i) :
    l.AtLimit ∧ ∃ v, err = .rangeOverflow l.op v :=
  ⟨⟨i, bound, op, requireValue_eq_ok_iff.1 h.value, h.atLimit⟩, bound, h.error⟩

theorem expression_error_of_filter_error {err : QueryError} (h : l.indexFilter e = .error err) :
    l.expression e = .error err ∨ l.AtLimit ∧ ∃ v, err = .rangeOverflow l.op v := by
  cases target : l.target with
  | id | metadata =>
    simp only [indexFilter, target] at h
    cases h
  | field bin =>
    cases op : l.op with
    | geoWithin =>
      left
      simp only [indexFilter, expression, target, op] at h ⊢
      obtain failed | ⟨region, -, h⟩ := Except.bind_eq_error_iff.1 h
      · rw [failed, Except.error_bind]
      · split at h <;> cases h
    | scalar =>
      simp only [indexFilter, expression, target, op] at h ⊢
      refine (ScalarOp.error h).imp_right ?_
      rintro ⟨i, n, rfl, overflow⟩
      exact op ▸ overflow.atLimit_and_eq (by rw [op]; rfl)
    | pattern =>
      left
      simp only [indexFilter, expression, target, op] at h ⊢
      obtain failed | ⟨v, value, h⟩ := Except.bind_eq_error_iff.1 h
      · rw [PatternOp.expression, failed, Except.error_bind]
      obtain failed | ⟨text, -, h⟩ := Except.bind_eq_error_iff.1 h
      · rw [PatternOp.expression, value, Except.ok_bind, failed, Except.error_bind]
      · cases h
    | element =>
      simp only [indexFilter, expression, target, op] at h ⊢
      refine (ElementOp.error h).imp_right ?_
      rintro ⟨i, n, rfl, overflow⟩
      exact op ▸ overflow.atLimit_and_eq (by rw [op]; rfl)
    | keyed =>
      simp only [indexFilter, expression, target, op] at h ⊢
      refine (KeyedOp.error h).imp_right ?_
      rintro ⟨i, n, rfl, overflow⟩
      exact op ▸ overflow.atLimit_and_eq (by rw [op]; rfl)

end StoreQuery.Leaf
