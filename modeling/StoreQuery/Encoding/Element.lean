import StoreQuery.Encoding.Operand

/-!
Conditions on the elements of a list or map. The expression counts the elements selected; ranges of
a selector leave out their upper bound, so an inclusive bound moves to the next integer or string.
-/

namespace StoreQuery

def next? (n : Int64) : Option Int64 := if n = .maxValue then none else some (n + 1)

def successor (op : Operation) (v : Json) : Except QueryError (Option Json) :=
  match v with
  | .num n =>
    match n.int64? with
    | some n => .ok ((next? n).map .int64)
    | none => .error (.mismatch op .intOrString v)
  | .str s => .ok (some (.str (s ++ "\x00")))
  | _ => .error (.mismatch op .intOrString v)

def requireSuccessor (op : Operation) (v : Json) : Except QueryError Json := do
  match ← successor op v with
  | some next => return next
  | none => throw (.rangeOverflow op .maxValue)

namespace ElementOp

def elements : ElementOp → Elements
  | .contains e => e
  | .lacks e => e
  | .between e => e
  | .listValue _ => .list

def member (l : Leaf) (e : Encoder) (v : Json) : Elements → Json
  | .mapKeys => e.encodeKey v l.settings
  | _ => e.operand v l.settings

def selector (l : Leaf) (e : Encoder) (op : ElementOp) : Except QueryError Selector := do
  if l.ignoreCase then throw (.ignoreCaseUnsupported l.op)
  let v ← l.requireValue
  match op with
  | .contains elements => return .value (member l e v elements)
  | .lacks elements => return .value (member l e v elements)
  | .between _ =>
    let upper ← l.requireUpper
    checkBounds l.op v upper
    return .range (some v) (← successor l.op upper)
  | .listValue .gt => return .range (some (← requireSuccessor l.op v)) none
  | .listValue .ge =>
    checkOrderable l.op v
    return .range (some v) none
  | .listValue .lt =>
    checkOrderable l.op v
    return .range none (some v)
  | .listValue .le =>
    match ← successor l.op v with
    | some upper => return .range none (some upper)
    | none => return .range (some (.int64 .minValue)) none

def test : ElementOp → Comparison
  | .lacks _ => .eq
  | _ => .ineq .gt

def expression (l : Leaf) (e : Encoder) (bin : String) (op : ElementOp) :
    Except QueryError Expr := do
  let selector ← op.selector l e
  return .compare op.test (.count bin l.path op.elements selector) (.literal (.int 0))

def filterKind (l : Leaf) (e : Encoder) (v : Json) :
    ElementOp → Except QueryError (Option FilterKind)
  | .contains elements => .ok ((IndexKey.of? (member l e v elements)).map .equal)
  | .lacks _ => .ok none
  | .between _ => do
    match v.int64?, (← l.requireUpper).int64? with
    | some first, some last => return some (.range first last)
    | _, _ => return none
  | .listValue i => do
    match v.int64? with
    | none => return none
    | some n =>
      let (first, last) ← indexRange l.op (.ineq i) n
      return some (.range first last)

def indexFilter (l : Leaf) (e : Encoder) (bin : String) (op : ElementOp) :
    Except QueryError (Option IndexFilter) := do
  let _ ← op.selector l e
  let kind ← op.filterKind l e (← l.requireValue)
  return kind.map fun kind => { bin, coverage := .elements op.elements, path := l.path, kind }

end ElementOp

end StoreQuery
