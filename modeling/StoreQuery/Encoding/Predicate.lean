import StoreQuery.Encoding.Leaf
import StoreQuery.Predicate.Basic

namespace StoreQuery

def Connective.join : Connective → List Expr → Expr
  | .and => .allOf
  | .or => .anyOf

namespace Predicate

mutual

def expression (e : Encoder) : Predicate → Except QueryError (Option Expr)
  | .leaf l => do return some (← l.expression e)
  | .node kind children _ => do
    let members ← expressionsOf e children
    return if members.isEmpty then none else some (kind.join members)

def expressionsOf (e : Encoder) : List Predicate → Except QueryError (List Expr)
  | [] => .ok []
  | p :: rest => do
    let first ← expression e p
    return first.toList ++ (← expressionsOf e rest)

end

end Predicate

end StoreQuery
