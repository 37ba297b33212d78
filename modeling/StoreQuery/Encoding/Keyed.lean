import StoreQuery.Encoding.Scalar

/-!
Conditions on the map value under a key. An index on map values finds records with such a value
under any key, so it only narrows the candidates and the expression looks at the key again.
-/

namespace StoreQuery

namespace Leaf

def rejectIgnoreCase (l : Leaf) : Except QueryError Unit :=
  if l.ignoreCase then .error (.ignoreCaseUnsupported l.op) else .ok ()

def comparedValue (l : Leaf) (c : Comparison) : Except QueryError Json := do
  l.rejectIgnoreCase
  let v ← l.requireValue
  match c with
  | .ineq _ => checkOrderable l.op v
  | _ => pure ()
  return v

def boundsByKey (l : Leaf) : Except QueryError (Json × Json) := do
  l.rejectIgnoreCase
  let low ← l.requireValue
  let high ← l.requireUpper
  checkBounds l.op low high
  return (low, high)

end Leaf

namespace KeyedOp

def expression (l : Leaf) (e : Encoder) (bin : String) (op : KeyedOp) :
    Except QueryError Expr := do
  let key := e.encodeKey (← l.requireKey) l.settings
  let source := Operand.mapValue bin l.path key
  let matchText : Except QueryError Expr := do
    let text ← requireString l.op (← l.requireValue)
    return .regex (source .string) (l.op.patternFor text) { icase := l.ignoreCase }
  let count : Operand := .count bin l.path .mapKeys (.value key)
  match op with
  | .compare c =>
    let v ← l.comparedValue c
    return .compare c (source (← requireType l.op .nonNull v)) (l.literal e v)
  | .between =>
    let (low, high) ← l.boundsByKey
    let source := source (← requireType l.op .nonNull low)
    return .allOf [.compare (.ineq .ge) source (l.literal e low),
      .compare (.ineq .le) source (l.literal e high)]
  | .startsWith => matchText
  | .endsWith => matchText
  | .containing => matchText
  | .present => return .compare (.ineq .gt) count (.literal (.int 0))
  | .absent => return .compare .eq count (.literal (.int 0))

def filterKind (l : Leaf) : KeyedOp → Except QueryError (Option FilterKind)
  | .compare .eq => do
    let v ← l.comparedValue .eq
    return (IndexKey.of? v).map .equal
  | .compare .ne => do
    l.rejectIgnoreCase
    return none
  | .compare (.ineq i) => do
    let v ← l.comparedValue (.ineq i)
    match v.int64? with
    | none => return none
    | some n =>
      let (first, last) ← indexRange l.op (.ineq i) n
      return some (.range first last)
  | .between => do
    let (low, high) ← l.boundsByKey
    match low.int64?, high.int64? with
    | some first, some last => return some (.range first last)
    | _, _ => return none
  | .present => .ok none
  | .absent => .ok none
  | _ => do
    let _ ← requireString l.op (← l.requireValue)
    return none

def indexFilter (l : Leaf) (bin : String) (op : KeyedOp) :
    Except QueryError (Option IndexFilter) := do
  let _ ← l.requireKey
  let kind ← op.filterKind l
  return kind.map fun kind => { bin, coverage := .elements .mapValues, path := l.path, kind }

end KeyedOp

end StoreQuery
