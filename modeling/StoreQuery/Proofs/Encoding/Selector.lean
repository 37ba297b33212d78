import Mathlib.Logic.Basic
import StoreQuery.Encoding.Element
import StoreQuery.Proofs.Encoding.Typed
import StoreQuery.Proofs.Except

/-!
Counting the elements that a selector looks for, against finding a record in an index on the
elements. The bounds of a selector are half open and those of a filter are not, and an upper bound
that cannot be moved up is left out.
-/

namespace StoreQuery

theorem next?_eq_none_iff {n : Int64} : next? n = none ↔ n = .maxValue := by simp [next?]

theorem lt_next?_iff {m n : Int64} : (∀ b ∈ next? n, m < b) ↔ m ≤ n := by
  rw [next?]
  split
  · rename_i atMax
    simp [atMax, m.le_maxValue]
  · rename_i inside
    simp [Int64.lt_add_one_iff inside]

theorem successor_int64 (op : Operation) (n : Int64) :
    successor op (.int64 n) = .ok ((next? n).map .int64) := by
  have inRange : (Number.int n.toInt).int64? = some n := int64?_toInt n
  simp only [successor, Json.int64, Json.int, inRange]

theorem requireSuccessor_int64 {op : Operation} {n : Int64} {v : Json}
    (h : requireSuccessor op (.int64 n) = .ok v) : n ≠ .maxValue ∧ v = .int64 (n + 1) := by
  rw [requireSuccessor, successor_int64, Except.ok_bind, next?] at h
  split at h
  · rename_i next found
    split at found
    · cases found
    · rename_i inside
      cases found
      cases h
      exact ⟨inside, rfl⟩
  · cases h

theorem Json.count_eq_int64 (n : Nat) : ∃ m : Int64, count n = .int64 m ∧ (0 < m ↔ 0 < n) := by
  refine ⟨Int64.ofInt (min n (1 <<< 63 - 1) : Nat), ?_, ?_⟩
  · rw [count, nat, int64, Int64.toInt_ofInt_of_le (by omega) (by omega)]
  · rw [Int64.lt_iff_toInt_lt, Int64.toInt_ofInt_of_le (by omega) (by omega), Int64.toInt_zero]
    omega

theorem Comparison.evaluate_count_gt (n : Nat) :
    (Comparison.ineq .gt).evaluate (.count n) (.int 0) = .ofBool (decide (0 < n)) := by
  obtain ⟨m, eq, pos_iff⟩ := Json.count_eq_int64 n
  rw [eq, show Json.int 0 = .int64 0 from rfl, evaluate, Json.compare?_int64]
  change Truth.ofBool (Inequality.gt.admits (compare m.toInt (0 : Int64).toInt)) = _
  congr 1
  rw [Bool.eq_iff_iff, Inequality.admits_compare_iff, decide_eq_true_iff]
  exact pos_iff

theorem Operand.resolve_count (bin : String) (path : Path) (es : Elements) (s : Selector)
    (r : Record) :
    (Operand.count bin path es s).resolve r =
      (((r.bin? bin).bind path.resolve).bind (s.count es)).map .count := by
  simp only [resolve, Option.bind_eq_bind]
  cases r.bin? bin with
  | none => rfl
  | some root =>
    simp only [Option.bind_some]
    cases path.resolve root with
    | none => rfl
    | some v =>
      simp only [Option.bind_some]
      cases s.count es v <;> rfl

theorem Expr.evaluate_count {r : Record} {c : Comparison} {bin : String} {path : Path}
    {es : Elements} {s : Selector} :
    (compare c (.count bin path es s) (.literal (.int 0))).evaluate r =
      match ((r.bin? bin).bind path.resolve).bind (s.count es) with
      | some n => c.evaluate (.count n) (.int 0)
      | none => .unknown := by
  rw [evaluate, Operand.resolve_count]
  cases ((r.bin? bin).bind path.resolve).bind (s.count es) <;> rfl

theorem Expr.evaluate_count_pos_iff {r : Record} {bin : String} {path : Path} {es : Elements}
    {s : Selector} :
    (compare (.ineq .gt) (.count bin path es s) (.literal (.int 0))).evaluate r = .holds ↔
      ∃ v, (r.bin? bin).bind path.resolve = some v ∧ ∃ n, s.count es v = some n ∧ 0 < n := by
  rw [evaluate_count]
  cases (r.bin? bin).bind path.resolve with
  | none => simp
  | some v => cases counted : s.count es v <;> simp [counted, Comparison.evaluate_count_gt]

structure Selector.Agrees (read : RegionReader) (s : Selector) (f : IndexFilter) : Prop where
  selects_iff : ∀ {v : Json}, v.Indexable → (s.selects v ↔ f.kind.Matches read v)
  numeric_iff : s.isNumeric ↔ f.indexType = .numeric

namespace Selector

variable {read : RegionReader} {s : Selector} {f : IndexFilter}

theorem agrees_value {key : IndexKey} (kind : f.kind = .equal key) :
    (value key.value).Agrees read f where
  selects_iff := by
    intro v indexable
    rw [kind, FilterKind.Matches, selects, IndexKey.equal_iff indexable]
  numeric_iff := by
    cases key <;>
      simp [isNumeric, IndexKey.value, Json.isNumber, Json.int64, Json.int, IndexFilter.indexType,
        kind]

theorem selects_range_iff {lower upper : Option Int64} {v : Json} (bounded : lower.or upper ≠ none)
    (indexable : v.Indexable) :
    (range (lower.map .int64) (upper.map .int64)).selects v ↔
      ∃ m, v = .int64 m ∧ (∀ a ∈ lower, a ≤ m) ∧ ∀ b ∈ upper, m < b := by
  by_cases number : v.isNumber
  · obtain ⟨m, rfl⟩ := indexable number
    cases lower <;> cases upper <;>
      simp_all [selects, Std.isGE_compare, Std.compare_eq_lt, Int64.le_iff_toInt_le,
        Int64.lt_iff_toInt_lt]
  · have notInt : ¬∃ m, v = .int64 m := by
      rintro ⟨m, rfl⟩
      exact number rfl
    cases lower <;> cases upper <;>
      simp_all [selects, Json.compare?_int64_right_eq_none number]

theorem agrees_range {lower upper : Option Int64} {first last : Int64}
    (kind : f.kind = .range first last) (bounded : lower.or upper ≠ none)
    (bounds : ∀ m, (∀ a ∈ lower, a ≤ m) ∧ (∀ b ∈ upper, m < b) ↔ first ≤ m ∧ m ≤ last) :
    (range (lower.map .int64) (upper.map .int64)).Agrees read f where
  selects_iff := by
    intro v indexable
    simp only [selects_range_iff bounded indexable, bounds, kind, FilterKind.Matches]
  numeric_iff := by
    cases lower <;> cases upper <;>
      simp_all [isNumeric, Json.isNumber, Json.int64, Json.int, IndexFilter.indexType]

theorem not_matches_str (numeric : f.indexType = .numeric) (t : String) :
    ¬f.kind.Matches read (.str t) := by
  rw [IndexFilter.indexType] at numeric
  split at numeric
  all_goals simp_all [FilterKind.Matches, IndexKey.value, Json.int64, Json.int]

theorem Agrees.selects_key_iff (h : s.Agrees read f) (key : String) :
    s.selects (s.keyValue key) ↔
      ∃ entry, f.indexType.keyEntry? key = some entry ∧ f.kind.Matches read entry := by
  have text : s.selects (.str key) ↔ f.kind.Matches read (.str key) :=
    h.selects_iff fun number => by cases number
  by_cases numeric : f.indexType = .numeric
  · have byNumber : s.isNumeric = true := h.numeric_iff.2 numeric
    rw [keyValue, numeric, IndexType.keyEntry?]
    cases Text.readInt64? key.toList with
    -- Such a key is looked at as a text, which no selector of numbers takes.
    | none => simp [text, not_matches_str numeric]
    | some n => simp [byNumber, h.selects_iff (Json.indexable_int64 n)]
  · have byText : s.isNumeric = false := by simpa [← h.numeric_iff] using numeric
    have asText : s.keyValue key = .str key := by
      rw [keyValue, byText]
      split <;> rfl
    have entry : f.indexType.keyEntry? key = some (.str key) := by
      cases type : f.indexType with
      | numeric => exact absurd type numeric
      | _ => rfl
    simp [asText, entry, text]

theorem Agrees.count_pos_iff {es : Elements} {v : Json} (h : s.Agrees read f)
    (coverage : f.coverage = .elements es) (indexable : ∀ entry ∈ f.entries v, entry.Indexable) :
    (∃ n, s.count es v = some n ∧ 0 < n) ↔ ∃ entry ∈ f.entries v, f.kind.Matches read entry := by
  rw [IndexFilter.entries, coverage] at indexable ⊢
  cases es with
  | list =>
    cases v with
    | arr items =>
      simp only [Coverage.entries] at indexable ⊢
      simp only [count, Option.some.injEq, exists_eq_left', List.countP_pos_iff]
      exact exists_congr fun item => and_congr_right fun mem => h.selects_iff (indexable item mem)
    | _ => simp [count, Coverage.entries]
  | mapValues =>
    cases v with
    | obj fields =>
      simp only [Coverage.entries, List.forall_mem_map] at indexable
      simp only [count, Coverage.entries, Option.some.injEq, exists_eq_left', List.countP_pos_iff,
        List.mem_map, exists_exists_and_eq_and]
      exact exists_congr fun field => and_congr_right fun mem => h.selects_iff (indexable field mem)
    | _ => simp [count, Coverage.entries]
  | mapKeys =>
    cases v with
    | obj fields =>
      simp only [count, Coverage.entries, Option.some.injEq, exists_eq_left', List.countP_pos_iff,
        h.selects_key_iff, List.mem_filterMap]
      grind
    | _ => simp [count, Coverage.entries]

theorem Agrees.evaluate_count_iff {es : Elements} {r : Record} (h : s.Agrees read f)
    (coverage : f.coverage = .elements es) (int64Only : f.Int64Only r) :
    (Expr.compare (.ineq .gt) (.count f.bin f.path es s) (.literal (.int 0))).evaluate r = .holds ↔
      f.Admits read r := by
  rw [Expr.evaluate_count_pos_iff]
  refine exists_congr fun v => and_congr_right fun target => h.count_pos_iff coverage ?_
  exact int64Only (by simp [coverage]) v target

end Selector

end StoreQuery
