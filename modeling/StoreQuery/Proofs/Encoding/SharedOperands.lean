import StoreQuery.Encoding.Keyed
import StoreQuery.Proofs.Encoding.Scalar

namespace StoreQuery

open Except (Parallel)

def QueryError.SameKind (a b : QueryError) : Prop := a.code = b.code

structure Leaf.SharesOperands (e : Encoder) (l m : Leaf) : Prop where
  value : l.value = m.value
  upper : l.upper = m.upper
  ignoreCase : l.ignoreCase = m.ignoreCase
  literal : ∀ v, l.literal e v = m.literal e v

section Checks

variable (op op' : Operation)

theorem checkOrderable_parallel (v : Json) :
    Parallel QueryError.SameKind Eq (checkOrderable op v) (checkOrderable op' v) := by
  cases v with
  | null | bool => exact .error rfl
  | num | str | arr | obj => exact .ok rfl

theorem checkBounds_parallel (low high : Json) :
    Parallel QueryError.SameKind Eq (checkBounds op low high) (checkBounds op' low high) := by
  apply Parallel.bind_eq (checkOrderable_parallel op op' low)
  intro _
  apply Parallel.bind_eq (checkOrderable_parallel op op' high)
  intro _
  cases low <;> cases high <;> first | exact .ok rfl | exact .error rfl

theorem requireString_parallel (v : Json) :
    Parallel QueryError.SameKind Eq (requireString op v) (requireString op' v) := by
  cases v with
  | str s => exact .ok rfl
  | _ => exact .error rfl

theorem requireList_parallel (v : Json) :
    Parallel QueryError.SameKind Eq (requireList op v) (requireList op' v) := by
  cases v with
  | arr items => exact .ok rfl
  | _ => exact .error rfl

theorem requireType_parallel (expected : Expectation) (v : Json) :
    Parallel QueryError.SameKind Eq (requireType op expected v) (requireType op' expected v) := by
  rw [requireType, requireType]
  cases ValueType.of? v with
  | some ty => exact .ok rfl
  | none => exact .error rfl

end Checks

namespace Leaf

variable {l m : Leaf} {e : Encoder}

theorem require_parallel (role : Role) (v : Option Json) :
    Parallel QueryError.SameKind Eq (l.require role v) (m.require role v) := by
  cases v with
  | some v => exact .ok rfl
  | none => exact .error rfl

namespace SharesOperands

variable (same : l.SharesOperands e m)
include same

theorem requireValue_parallel :
    Parallel QueryError.SameKind Eq l.requireValue m.requireValue := by
  rw [requireValue, same.value]
  exact require_parallel .value m.value

theorem requireUpper_parallel :
    Parallel QueryError.SameKind Eq l.requireUpper m.requireUpper := by
  rw [requireUpper, same.upper]
  exact require_parallel .upper m.upper

theorem rejectIgnoreCase_parallel :
    Parallel QueryError.SameKind Eq l.rejectIgnoreCase m.rejectIgnoreCase := by
  rw [rejectIgnoreCase, rejectIgnoreCase, same.ignoreCase]
  cases m.ignoreCase with
  | false => exact .ok rfl
  | true => exact .error rfl

theorem checkOrdering_parallel (v : Json) :
    Parallel QueryError.SameKind Eq (l.checkOrdering v) (m.checkOrdering v) := by
  apply Parallel.bind_eq (checkOrderable_parallel l.op m.op v)
  intro _
  cases v with
  | str s =>
    simp only [same.ignoreCase]
    cases m.ignoreCase with
    | false => exact .ok rfl
    | true => exact .error rfl
  | _ => exact .ok rfl

end SharesOperands

end Leaf

end StoreQuery
