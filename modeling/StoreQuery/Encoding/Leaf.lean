import StoreQuery.Encoding.Scalar
import StoreQuery.Encoding.Pattern
import StoreQuery.Encoding.Element
import StoreQuery.Encoding.Keyed
import StoreQuery.Json.Parse

namespace StoreQuery

namespace Leaf

def region (l : Leaf) : Except QueryError Json := do
  let v ← l.requireValue
  match v with
  | .obj _ => return v
  | .str text =>
    match Json.ofText? text with
    | some (.obj fields) => return .obj fields
    | _ => throw (.mismatch l.op .region v)
  | _ => throw (.mismatch l.op .region v)

def keyCheck (l : Leaf) (key : Json) : Except QueryError Expr := do
  return .compare .eq (.key (← requireType l.op .nonNullKey key)) (.literal key)

/-- A condition on the record key, for where no lookup by key can serve it. -/
def idExpression (l : Leaf) : Ids → Except QueryError Expr
  | .one key => do return .allOf [← l.keyCheck key]
  | .many keys => do return .anyOf (← keys.mapM l.keyCheck)

def expression (l : Leaf) (e : Encoder) : Except QueryError Expr :=
  match l.target with
  | .id target => l.idExpression target
  | .metadata field =>
    match l.op with
    | .scalar op => op.metadataExpression l field
    | _ => .error (.malformed (.notOnMetadata l.op field))
  | .field bin =>
    match l.op with
    | .scalar op => op.expression l e bin
    | .pattern op => op.expression l bin
    | .element op => op.expression l e bin
    | .keyed op => op.expression l e bin
    | .geoWithin => do return .geoWithin (.bin bin .geo) (← l.region)

def indexFilter (l : Leaf) (e : Encoder) : Except QueryError (Option IndexFilter) :=
  match l.target with
  | .id _ => .ok none
  | .metadata _ => .ok none
  | .field bin =>
    match l.op with
    | .scalar op => op.indexFilter l bin
    | .pattern _ => PatternOp.indexFilter l
    | .element op => op.indexFilter l e bin
    | .keyed op => op.indexFilter l bin
    | .geoWithin => do
      let region ← l.region
      if l.path.isEmpty then return some { bin, kind := .geoWithin region.toText } else return none

end Leaf

end StoreQuery
