import StoreQuery.Plan.Conjuncts
import StoreQuery.Error

/-!
A predicate that pins the record key is served by reading these keys, with what is left of it as
the expression. The key must be pinned by the predicate itself or by a leaf within reach of an AND.
-/

namespace StoreQuery

structure KeySplit where
  keys : List Json
  rest : Option Predicate

def Predicate.idConjuncts (children : List Predicate) : List (Slot × List Json) :=
  (conjuncts children).filterMap fun (slot, l) => l.id?.map fun target => (slot, target.keys)

def Predicate.keySplit : Predicate → Except QueryError (Option KeySplit)
  | .leaf l => .ok (l.id?.map fun target => ⟨target.keys, none⟩)
  | .node .or _ _ => .ok none
  | .node .and children settings =>
    match idConjuncts children with
    | [] => .ok none
    | [(slot, keys)] => .ok (some ⟨keys, without .and children settings [slot]⟩)
    | ids => .error (.multipleIdQualifiers ids.length)

end StoreQuery
