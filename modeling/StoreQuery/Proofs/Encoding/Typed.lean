import StoreQuery.Encoding.Operand
import StoreQuery.Proofs.Encoding.Range
import StoreQuery.Proofs.Expr.Holds
import StoreQuery.Proofs.Index.Admission

namespace StoreQuery

namespace IndexKey

theorem of?_eq_some_iff {v : Json} {key : IndexKey} : of? v = some key ↔ v = key.value := by
  cases v with
  | num n =>
    cases key with
    | int i => simpa [of?, value, Json.int64?] using Json.int64?_eq_some_iff (v := .num n)
    | string s => simp [of?, value]
  | str s => cases key <;> simp [of?, value, Json.int64, Json.int]
  | _ => cases key <;> simp [of?, value, Json.int64, Json.int]

theorem value_ne_null (key : IndexKey) : key.value ≠ .null := by
  cases key <;> simp [value, Json.int64, Json.int]

theorem indexable_of_type {v : Json} {key : IndexKey}
    (h : ValueType.of? v = ValueType.of? key.value) : v.Indexable := by
  cases key with
  | int n =>
    rw [value, ValueType.of?_int64] at h
    exact fun _ => ValueType.of?_eq_int_iff.1 h
  | string s =>
    rw [value, ValueType.of?_str] at h
    obtain ⟨t, rfl⟩ := ValueType.of?_eq_string_iff.1 h
    exact fun number => by cases number

theorem equal_iff {v : Json} {key : IndexKey} (h : v.Indexable) :
    v.equal key.value ↔ v = key.value := by
  cases key with
  | int n => exact Json.equal_int64_iff h
  | string s => exact Json.equal_str_iff

end IndexKey

namespace Encoder

@[simp] theorem operand_key (e : Encoder) (key : IndexKey) (s : Settings) :
    e.operand key.value s = key.value := by
  cases key <;> rfl

end Encoder

def Comparison.Finds (c : Comparison) (v operand : Json) : Prop :=
  ValueType.of? v = ValueType.of? operand ∧ c.evaluate v operand = .holds

namespace Comparison

theorem finds_eq_iff {v : Json} {key : IndexKey} :
    Comparison.eq.Finds v key.value ↔ v = key.value := by
  rw [Finds, evaluate_eq_holds_iff]
  constructor
  · rintro ⟨type, same⟩
    exact (IndexKey.equal_iff (IndexKey.indexable_of_type type)).1 same
  · rintro rfl
    exact ⟨rfl, (IndexKey.equal_iff (IndexKey.indexable_of_type rfl)).2 rfl⟩

theorem finds_ineq_iff {i : Inequality} {v : Json} {n : Int64} :
    (Comparison.ineq i).Finds v (.int64 n) ↔ ∃ m, v = .int64 m ∧ i.Relates m n := by
  rw [Finds, evaluate_ineq_eq_holds_iff, ValueType.of?_int64, ValueType.of?_eq_int_iff]
  constructor
  · rintro ⟨⟨m, rfl⟩, o, order, admitted⟩
    rw [Json.compare?_int64] at order
    cases order
    exact ⟨m, rfl, Inequality.admits_compare_iff.1 admitted⟩
  · rintro ⟨m, rfl, related⟩
    exact ⟨⟨m, rfl⟩, _, Json.compare?_int64 m n, Inequality.admits_compare_iff.2 related⟩

end Comparison

namespace Expr

variable {source : Operand} {stored : Option Json} {ty : ValueType} {r : Record}
  {read : RegionReader}

theorem evaluate_typed_iff {c : Comparison} {v : Json}
    (reads : source.resolve r = stored.bind ty.read?) (type : ValueType.of? v = some ty) :
    (compare c source (.literal v)).evaluate r = .holds ↔ ∃ w, stored = some w ∧ c.Finds w v := by
  rw [evaluate_compare_literal_eq_holds_iff, reads]
  simp only [Option.bind_eq_some_iff, ValueType.read?_eq_some_iff type, Comparison.Finds, type]
  grind

theorem evaluate_equal_iff {key : IndexKey} (reads : source.resolve r = stored.bind ty.read?)
    (type : ValueType.of? key.value = some ty) :
    (compare .eq source (.literal key.value)).evaluate r = .holds ↔
      ∃ w, stored = some w ∧ (FilterKind.equal key).Matches read w := by
  rw [evaluate_typed_iff reads type]
  simp only [Comparison.finds_eq_iff, FilterKind.Matches]

theorem evaluate_range_iff {op : Operation} {i : Inequality} {n first last : Int64}
    (reads : source.resolve r = stored.bind ValueType.int.read?)
    (range : indexRange op (.ineq i) n = .ok (first, last)) :
    (compare (.ineq i) source (.literal (.int64 n))).evaluate r = .holds ↔
      ∃ w, stored = some w ∧ (FilterKind.range first last).Matches read w := by
  rw [evaluate_typed_iff reads (ValueType.of?_int64 n)]
  simp only [Comparison.finds_ineq_iff, FilterKind.Matches, mem_indexRange range]

theorem evaluate_between_iff {low high : Int64}
    (reads : source.resolve r = stored.bind ValueType.int.read?) :
    (allOf [compare (.ineq .ge) source (.literal (.int64 low)),
        compare (.ineq .le) source (.literal (.int64 high))]).evaluate r = .holds ↔
      ∃ w, stored = some w ∧ (FilterKind.range low high).Matches read w := by
  rw [evaluate_allOf_pair_eq_holds_iff, evaluate_typed_iff reads (ValueType.of?_int64 low),
    evaluate_typed_iff reads (ValueType.of?_int64 high)]
  simp only [Comparison.finds_ineq_iff]
  cases stored with
  | none => simp
  | some w =>
    simp only [Option.some.injEq, exists_eq_left', FilterKind.Matches]
    constructor
    · rintro ⟨⟨m, rfl, above⟩, m', eq, below⟩
      obtain rfl := Json.int64_inj.1 eq
      exact ⟨m, rfl, above, below⟩
    · rintro ⟨m, rfl, above, below⟩
      exact ⟨⟨m, rfl, above⟩, m, rfl, below⟩

end Expr

end StoreQuery
