import StoreQuery.Encoding.Operand

namespace StoreQuery

namespace Leaf

def literal (l : Leaf) (e : Encoder) (v : Json) : Operand := .literal (e.operand v l.settings)

def compareBin (l : Leaf) (e : Encoder) (bin : String) (c : Comparison) (v : Json) :
    Except QueryError Expr := do
  return .compare c (.bin bin (← requireType l.op .nonNull v)) (l.literal e v)

def checkOrdering (l : Leaf) (v : Json) : Except QueryError Unit := do
  checkOrderable l.op v
  match v with
  | .str _ => if l.ignoreCase then throw (.ignoreCaseUnsupported l.op)
  | _ => return

def equality (l : Leaf) (e : Encoder) (bin : String) (negated : Bool) (v : Json) :
    Except QueryError Expr :=
  match v, l.ignoreCase with
  | .str s, true =>
    let same : Expr :=
      .regex (.bin bin .string) (Operation.patternFor (.scalar (.compare .eq)) s) { icase := true }
    .ok (if negated then .not same else same)
  | v, _ => l.compareBin e bin (if negated then .ne else .eq) v

end Leaf

namespace ScalarOp

def expression (l : Leaf) (e : Encoder) (bin : String) : ScalarOp → Except QueryError Expr
  | .compare .eq => do l.equality e bin false (← l.requireValue)
  | .compare .ne => do l.equality e bin true (← l.requireValue)
  | .compare (.ineq i) => do
    let v ← l.requireValue
    l.checkOrdering v
    l.compareBin e bin (.ineq i) v
  | .between => do
    let low ← l.requireValue
    let high ← l.requireUpper
    checkBounds l.op low high
    l.checkOrdering low
    let source : Operand := .bin bin (← requireType l.op .nonNull low)
    return .allOf [.compare (.ineq .ge) source (l.literal e low),
      .compare (.ineq .le) source (l.literal e high)]
  | .isIn => do
    let values ← requireList l.op (← l.requireValue)
    return .anyOf (← values.mapM (l.equality e bin false))
  | .notIn => do
    let values ← requireList l.op (← l.requireValue)
    return .allOf (← values.mapM (l.equality e bin true))
  | .isNull => .ok (.not (.binExists bin))
  | .isNotNull => .ok (.binExists bin)

def indexFilter (l : Leaf) (bin : String) : ScalarOp → Except QueryError (Option IndexFilter)
  | .compare .eq => do
    match ← l.requireValue, l.ignoreCase with
    | .str _, true => return none
    | v, _ => return (IndexKey.of? v).map fun key => { bin, kind := .equal key }
  | .compare (.ineq i) => do
    let v ← l.requireValue
    l.checkOrdering v
    match v.int64? with
    | none => return none
    | some n =>
      let (first, last) ← indexRange l.op (.ineq i) n
      return some { bin, kind := .range first last }
  | .between => do
    let low ← l.requireValue
    let high ← l.requireUpper
    checkBounds l.op low high
    l.checkOrdering low
    match low.int64?, high.int64? with
    | some first, some last => return some { bin, kind := .range first last }
    | _, _ => return none
  | _ => .ok none

def metadataOperand (l : Leaf) (v : Json) : Except QueryError Operand :=
  match v.int64? with
  | some n => .ok (.literal (.int64 n))
  | none => .error (.mismatch l.op .int v)

def metadataComparisons (l : Leaf) (field : MetadataField) (c : Comparison) (values : List Json) :
    Except QueryError (List Expr) :=
  values.mapM fun v => return .compare c (.metadata field) (← metadataOperand l v)

def metadataExpression (l : Leaf) (field : MetadataField) : ScalarOp → Except QueryError Expr
  | .compare c => do return .compare c (.metadata field) (← metadataOperand l (← l.requireValue))
  | .between => do
    let low ← metadataOperand l (← l.requireValue)
    let high ← metadataOperand l (← l.requireUpper)
    return .allOf [.compare (.ineq .ge) (.metadata field) low,
      .compare (.ineq .le) (.metadata field) high]
  | .isIn => do
    let values ← requireList l.op (← l.requireValue)
    return .anyOf (← metadataComparisons l field .eq values)
  | .notIn => do
    let values ← requireList l.op (← l.requireValue)
    return .allOf (← metadataComparisons l field .ne values)
  | _ => .error (.malformed (.notOnMetadata l.op field))

end ScalarOp

end StoreQuery
