import StoreQuery.Proofs.Encoding.Bounds
import StoreQuery.Wire.Plan

namespace StoreQuery

open Wire
open Except (Yields)

theorem Coverage.ofJson_wireName (c : Coverage) : Coverage.ofJson (.str c.wireName) = .ok c := by
  cases c with
  | elements es => cases es <;> rfl
  | whole => rfl

theorem IndexKey.ofJson_toJson (key : IndexKey) : IndexKey.ofJson key.toJson = .ok key := by
  cases key with
  | int n => simp [ofJson, toJson, choice, int64_int64]
  | string s => rfl

theorem FilterKind.ofJson_toJson (kind : FilterKind) :
    FilterKind.ofJson kind.toJson = .ok kind := by
  cases kind with
  | equal key => simp [ofJson, toJson, choice, key.ofJson_toJson]
  | range first last =>
    simp [ofJson, toJson, choice, fields_obj, Fields.required_cons, int64_int64]
  | geoWithin region => simp [ofJson, toJson, choice, fields_obj, Fields.required_cons, string]

namespace IndexFilter

def slots (f : IndexFilter) : List (String × Option Json) :=
  [("bin", some (.str f.bin)),
    ("collection", some (.str f.coverage.wireName)),
    ("ctx", if f.path.isEmpty then none else some f.path.toJson),
    ("kind", some f.kind.toJson)]

theorem toJson_eq_object (f : IndexFilter) : f.toJson = object (f.slots.map slot) := by
  simp only [toJson, slots, omitIf_eq_slot, present_eq_slot, List.map_cons, List.map_nil]

theorem ofJson_toJson (f : IndexFilter) : IndexFilter.ofJson f.toJson = .ok f := by
  have distinct : (f.slots.map Prod.fst).Nodup := by simp [slots]
  have found {name : String} {v : Option Json} (mem : (name, v) ∈ f.slots) :
      (written f.slots).lookup name = v := lookup_written distinct mem
  have bin : (written f.slots).required "bin" string = .ok f.bin :=
    Fields.required_eq (v := .str f.bin) (found (by simp [slots])) rfl
  have coverage : (written f.slots).required "collection" Coverage.ofJson = .ok f.coverage :=
    Fields.required_eq (found (by simp [slots])) f.coverage.ofJson_wireName
  have path : (written f.slots).withDefault "ctx" [] Path.ofJson = .ok f.path :=
    Fields.withDefault_eq_of_holds
      (Fields.holds_of_omitIf f.path.isEmpty (found (by simp [slots])) (by simp))
      f.path.ofJson_toJson
  have kind : (written f.slots).required "kind" FilterKind.ofJson = .ok f.kind :=
    Fields.required_eq (found (by simp [slots])) f.kind.ofJson_toJson
  simp only [ofJson, toJson_eq_object, fields_object _ distinct, bin, coverage, path, kind,
    Except.ok_bind]
  rfl

theorem toJson_ne_null (f : IndexFilter) : f.toJson ≠ .null := nofun

end IndexFilter

theorem Expr.toJson_ne_null (x : Expr) : x.toJson ≠ .null := by
  cases x <;> nofun

theorem option_ofJson_indexFilter (f : Option IndexFilter) :
    option IndexFilter.ofJson (.ofOption IndexFilter.toJson f) = .ok f := by
  rw [option_ofOption f IndexFilter.toJson_ne_null]
  cases f with
  | none => rfl
  | some f => simp [f.ofJson_toJson]

theorem option_ofJson_expression_iff {x : Option Expr} :
    option Expr.ofJson (.ofOption Expr.toJson x) = .ok x ↔ ∀ y ∈ x, y.BoundsNonNull := by
  rw [option_ofOption x Expr.toJson_ne_null]
  cases x with
  | none => simp
  | some y =>
    rw [Except.bind_pure_eq_ok_iff]
    simp [← y.ofJson_toJson_iff]

namespace Plan

def expression : Plan → Option Expr
  | .keys lookup => lookup.expression
  | .query scan => scan.expression

theorem ofJson_toJson_keys (lookup : KeyLookup) : ofJson (toJson (.keys lookup)) = do
    let x ← option Expr.ofJson (.ofOption Expr.toJson lookup.expression)
    return .keys { lookup with expression := x } := by
  rw [ofJson, toJson, parts_obj _ (by simp)]
  simp only [Fields.required_cons, Fields.optional_cons, String.reduceEq, if_true, if_false,
    string, KeyLookup.ofFields, list_any, Except.ok_bind]
  cases option Expr.ofJson (.ofOption Expr.toJson lookup.expression) <;> rfl

theorem ofJson_toJson_query (scan : Scan) : ofJson (toJson (.query scan)) = do
    let x ← option Expr.ofJson (.ofOption Expr.toJson scan.expression)
    return .query { scan with expression := x } := by
  rw [ofJson, toJson, parts_obj _ (by simp)]
  simp only [Fields.required_cons, Fields.optional_cons, String.reduceEq, if_true, if_false,
    string, Scan.ofFields, uint64_nat, option_ofJson_indexFilter, Except.ok_bind]
  cases option Expr.ofJson (.ofOption Expr.toJson scan.expression) <;> rfl

theorem ofJson_toJson_iff (plan : Plan) :
    ofJson plan.toJson = .ok plan ↔ ∀ x ∈ plan.expression, x.BoundsNonNull := by
  cases plan with
  | keys lookup =>
    rw [ofJson_toJson_keys, Except.bind_pure_eq_ok_iff, expression, ← option_ofJson_expression_iff]
    constructor
    · rintro ⟨x, back, same⟩
      have same : _ = x := congrArg expression same
      rwa [← same] at back
    · intro back
      exact ⟨_, back, rfl⟩
  | query scan =>
    rw [ofJson_toJson_query, Except.bind_pure_eq_ok_iff, expression, ← option_ofJson_expression_iff]
    constructor
    · rintro ⟨x, back, same⟩
      have same : _ = x := congrArg expression same
      rwa [← same] at back
    · intro back
      exact ⟨_, back, rfl⟩

end Plan

theorem residualExpression_yields (e : Encoder) (p : Option Predicate) :
    (residualExpression e p).Yields fun x => ∀ y ∈ x, y.BoundsNonNull := by
  cases p with
  | none => exact .ok (by simp)
  | some p => exact p.expression_yields e

namespace Query

theorem compile_yields (q : Query) (d : Directory) (config : Config) (e : Encoder) :
    (q.compile d config e).Yields fun plan => ∀ x ∈ plan.expression, x.BoundsNonNull := by
  rw [compile]
  split
  · exact .ok nofun
  apply Yields.bind
  intro split _
  cases split with
  | some split =>
    apply Yields.bind
    intro x compiled
    exact .ok (residualExpression_yields e split.rest x compiled)
  | none =>
    apply Yields.bind
    intro selection _
    apply Yields.bind
    intro x compiled
    exact .ok (residualExpression_yields e selection.residual x compiled)

theorem withoutIndex_yields (q : Query) (config : Config) (e : Encoder) :
    (q.withoutIndex config e).Yields fun scan => ∀ x ∈ scan.expression, x.BoundsNonNull := by
  apply Yields.bind
  intro x compiled
  exact .ok (residualExpression_yields e q.predicate x compiled)

/-- What a query is compiled to comes back from its JSON form, with an index or without. -/
theorem plan_survives_json (q : Query) (d : Directory) (config : Config) (e : Encoder) :
    (∀ plan, q.compile d config e = .ok plan → Plan.ofJson plan.toJson = .ok plan) ∧
    ∀ scan, q.withoutIndex config e = .ok scan →
      Plan.ofJson (Plan.query scan).toJson = .ok (.query scan) := by
  constructor
  · intro plan compiled
    exact plan.ofJson_toJson_iff.2 (q.compile_yields d config e plan compiled)
  · intro scan compiled
    exact (Plan.query scan).ofJson_toJson_iff.2 (q.withoutIndex_yields config e scan compiled)

theorem plan_survives_json_of_open_range :
    let path : Path := [.mapKey (.str "years"), .listIndex (-1)]
    let within : Leaf := { Leaf.onBin "trips" (.element (.between .list)) (.int 1990)
      (some (.int64 .maxValue)) with path }
    let q : Query := { ns := "ns", predicate := some <| .and [.leaf within,
      .or [.pattern .like "name" "^a", .isIn "name" [.str "b", .bool false]]] }
    let d := Catalog.directory
      ⟨[{ Index.onBin .numeric "ns" "" "trips" with coverage := .elements .list, path }]⟩
    ∃ scan full, q.compile d {} .json = .ok (.query scan) ∧ scan.indexFilter.isSome ∧
      Plan.ofJson (Plan.query scan).toJson = .ok (.query scan) ∧
      q.withoutIndex {} .json = .ok full ∧
      Plan.ofJson (Plan.query full).toJson = .ok (.query full) := by
  intro path within q d
  obtain ⟨scan, compiled, filter⟩ :
      ∃ scan, q.compile d {} .json = .ok (.query scan) ∧ scan.indexFilter.isSome := ⟨_, rfl, rfl⟩
  obtain ⟨full, without⟩ : ∃ full, q.withoutIndex {} .json = .ok full := ⟨_, rfl⟩
  obtain ⟨indexed, unindexed⟩ := plan_survives_json q d {} .json
  exact ⟨scan, full, compiled, filter, indexed _ compiled, without, unindexed _ without⟩

end Query

end StoreQuery
