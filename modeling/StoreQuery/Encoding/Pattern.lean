import StoreQuery.Encoding.Operand

namespace StoreQuery.PatternOp

def expression (l : Leaf) (bin : String) (op : PatternOp) : Except QueryError Expr := do
  let text ← requireString l.op (← l.requireValue)
  let source : Operand := .bin bin .string
  let found : Expr := .regex source (l.op.patternFor text) { icase := l.ignoreCase }
  match op with
  | .like => return .regex source text { extended := true, icase := l.ignoreCase }
  | .notContaining => return .not found
  | _ => return found

def indexFilter (l : Leaf) : Except QueryError (Option IndexFilter) := do
  let _ ← requireString l.op (← l.requireValue)
  return none

end StoreQuery.PatternOp
