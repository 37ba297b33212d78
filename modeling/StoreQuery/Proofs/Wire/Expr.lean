import StoreQuery.Proofs.Wire.Predicate
import StoreQuery.Wire.Expr

/-!
Expressions written as JSON and read back. All parts of an expression come back as they were, but
for the bounds of a selector: one that is null comes back as missing. So an expression comes back as
it was just where no selector in it has such a bound.
-/

namespace StoreQuery

open Wire

theorem Wire.parts_obj (names : List String) {fs : Fields} (distinct : (fs.map Prod.fst).Nodup) :
    parts names (.obj fs) = .ok fs :=
  fields_obj names distinct

theorem Comparison.ofJson_wireName (c : Comparison) :
    Comparison.ofJson (.str c.wireName) = .ok c := by
  cases c with
  | ineq i => cases i <;> rfl
  | eq | ne => rfl

theorem ValueType.ofJson_name (ty : ValueType) : ValueType.ofJson (.str ty.name) = .ok ty := by
  cases ty <;> rfl

theorem Elements.ofJson_name (es : Elements) : Elements.ofJson (.str es.name) = .ok es := by
  cases es <;> rfl

namespace Selector

def BoundsNonNull : Selector → Prop
  | .value _ => True
  | .range lower upper => lower ≠ some .null ∧ upper ≠ some .null

theorem ofJson_toJson_iff (s : Selector) : ofJson s.toJson = .ok s ↔ s.BoundsNonNull := by
  cases s with
  | value v => exact iff_of_true rfl trivial
  | range lower upper =>
    have back : ofJson (toJson (.range lower upper)) =
        .ok (.range (lower.filter (!·.isNull)) (upper.filter (!·.isNull))) := by
      simp [ofJson, toJson, choice, parts_obj, Fields.optional_cons, option_any_ofOption]
    rw [back, BoundsNonNull]
    simp only [Except.ok.injEq, range.injEq, Leaf.filter_isNull_eq_self_iff]

end Selector

namespace Operand

def selectors : Operand → List Selector
  | .count _ _ _ s => [s]
  | _ => []

theorem ofJson_toJson_iff (o : Operand) :
    ofJson o.toJson = .ok o ↔ ∀ s ∈ o.selectors, s.BoundsNonNull := by
  cases o with
  | bin name ty =>
    simp [ofJson, toJson, selectors, choice, parts_obj, Fields.required_cons, string,
      ty.ofJson_name]
  | metadata m => simp [ofJson, toJson, selectors, choice, m.ofJson_name]
  | key ty =>
    simp [ofJson, toJson, selectors, choice, parts_obj, Fields.required_cons, ty.ofJson_name]
  | literal v => simp [ofJson, toJson, selectors, choice]
  | mapValue bin path key ty =>
    simp [ofJson, toJson, selectors, choice, parts_obj, Fields.required_cons, string, any,
      path.ofJson_toJson, ty.ofJson_name]
  | count bin path es s =>
    have back : ofJson (toJson (.count bin path es s)) =
        do return .count bin path es (← Selector.ofJson s.toJson) := by
      simp [ofJson, toJson, choice, parts_obj, Fields.required_cons, string, path.ofJson_toJson,
        es.ofJson_name]
    rw [back, Except.bind_pure_eq_ok_iff]
    simp [selectors, Selector.ofJson_toJson_iff]

end Operand

theorem PatternFlags.ofJson_toJson (f : PatternFlags) : PatternFlags.ofJson f.toJson = .ok f := rfl

namespace Expr

mutual

def selectors : Expr → List Selector
  | .const _ => []
  | .compare _ left right => left.selectors ++ right.selectors
  | .regex source _ _ => source.selectors
  | .binExists _ => []
  | .geoWithin source _ => source.selectors
  | .and es => selectorsOf es
  | .or es => selectorsOf es
  | .not e => selectors e

def selectorsOf : List Expr → List Selector
  | [] => []
  | e :: rest => selectors e ++ selectorsOf rest

end

def BoundsNonNull (e : Expr) : Prop := ∀ s ∈ e.selectors, s.BoundsNonNull

mutual

theorem ofJson_toJson_iff : (x : Expr) → (ofJson x.toJson = .ok x ↔ x.BoundsNonNull)
  | .const b => iff_of_true rfl (by simp [BoundsNonNull, selectors])
  | .compare c left right => by
    have back : ofJson (toJson (.compare c left right)) = do
        let a ← Operand.ofJson left.toJson
        return .compare c a (← Operand.ofJson right.toJson) := by
      simp [ofJson, toJson, simpleOfJson, parts_obj, Fields.required_cons, c.ofJson_wireName]
    rw [back, BoundsNonNull, selectors, List.forall_mem_append, ← left.ofJson_toJson_iff,
      ← right.ofJson_toJson_iff]
    simp [Except.bind_eq_ok_iff]
  | .regex source pattern flags => by
    have back : ofJson (toJson (.regex source pattern flags)) =
        do return .regex (← Operand.ofJson source.toJson) pattern flags := by
      simp [ofJson, toJson, simpleOfJson, parts_obj, Fields.required_cons, string,
        flags.ofJson_toJson]
    rw [back, Except.bind_pure_eq_ok_iff, BoundsNonNull, selectors, ← source.ofJson_toJson_iff]
    simp
  | .binExists bin => iff_of_true rfl (by simp [BoundsNonNull, selectors])
  | .geoWithin source region => by
    have back : ofJson (toJson (.geoWithin source region)) =
        do return .geoWithin (← Operand.ofJson source.toJson) region := by
      simp [ofJson, toJson, simpleOfJson, parts_obj, Fields.required_cons, any]
    rw [back, Except.bind_pure_eq_ok_iff, BoundsNonNull, selectors, ← source.ofJson_toJson_iff]
    simp
  | .and es => by
    have back : ofJson (toJson (.and es)) = do return .and (← itemsOfJson (itemsToJson es)) := rfl
    rw [back, Except.bind_pure_eq_ok_iff, BoundsNonNull, selectors,
      ← itemsOfJson_itemsToJson_iff es]
    simp
  | .or es => by
    have back : ofJson (toJson (.or es)) = do return .or (← itemsOfJson (itemsToJson es)) := rfl
    rw [back, Except.bind_pure_eq_ok_iff, BoundsNonNull, selectors,
      ← itemsOfJson_itemsToJson_iff es]
    simp
  | .not x => by
    have back : ofJson (toJson (.not x)) = do return .not (← ofJson x.toJson) := rfl
    rw [back, Except.bind_pure_eq_ok_iff, BoundsNonNull, selectors, ← BoundsNonNull,
      ← ofJson_toJson_iff x]
    simp

theorem itemsOfJson_itemsToJson_iff : (es : List Expr) →
    (itemsOfJson (itemsToJson es) = .ok es ↔ ∀ s ∈ selectorsOf es, s.BoundsNonNull)
  | [] => by simp [itemsToJson, itemsOfJson, selectorsOf]
  | x :: rest => by
    rw [itemsToJson, itemsOfJson, selectorsOf, List.forall_mem_append, ← BoundsNonNull,
      ← ofJson_toJson_iff x, ← itemsOfJson_itemsToJson_iff rest]
    simp [Except.bind_eq_ok_iff]

end

end Expr

end StoreQuery
