import StoreQuery.Encoder
import StoreQuery.Expr.Basic
import StoreQuery.Index.Basic
import StoreQuery.Regex.Posix

namespace StoreQuery

def checkOrderable (op : Operation) (v : Json) : Except QueryError Unit :=
  match v with
  | .null => .error (.mismatch op .orderable v)
  | .bool _ => .error (.mismatch op .orderable v)
  | _ => .ok ()

def checkBounds (op : Operation) (low high : Json) : Except QueryError Unit := do
  checkOrderable op low
  checkOrderable op high
  match low, high with
  | .num _, .num _ => return
  | .str _, .str _ => return
  | .arr _, .arr _ => return
  | .obj _, .obj _ => return
  | _, _ => throw (.mismatch op (.sameAs low.kind) high)

def requireString (op : Operation) : Json → Except QueryError String
  | .str s => .ok s
  | v => .error (.mismatch op .string v)

def requireList (op : Operation) : Json → Except QueryError (List Json)
  | .arr items => .ok items
  | v => .error (.mismatch op .list v)

def requireType (op : Operation) (expected : Expectation) (v : Json) :
    Except QueryError ValueType :=
  match ValueType.of? v with
  | some ty => .ok ty
  | none => .error (.mismatch op expected v)

def indexRange (op : Operation) (c : Comparison) (v : Int64) :
    Except QueryError (Int64 × Int64) :=
  match c with
  | .eq => .ok (v, v)
  | .ne => .error (.malformed (.noRange op))
  | .ineq .gt => if v = .maxValue then .error (.rangeOverflow op v) else .ok (v + 1, .maxValue)
  | .ineq .ge => .ok (v, .maxValue)
  | .ineq .lt => if v = .minValue then .error (.rangeOverflow op v) else .ok (.minValue, v - 1)
  | .ineq .le => .ok (.minValue, v)

def IndexKey.of? : Json → Option IndexKey
  | .num n => n.int64?.map .int
  | .str s => some (.string s)
  | _ => none

def Operation.patternFor (op : Operation) (text : String) : String :=
  let escaped := Regex.escapeBasic text.toList
  String.ofList <| match op with
    | .pattern .startsWith => '^' :: escaped
    | .keyed .startsWith => '^' :: escaped
    | .pattern .endsWith => escaped ++ ['$']
    | .keyed .endsWith => escaped ++ ['$']
    | .scalar (.compare .eq) => '^' :: escaped ++ ['$']
    | .scalar (.compare .ne) => '^' :: escaped ++ ['$']
    | .keyed (.compare .eq) => '^' :: escaped ++ ['$']
    | _ => escaped

end StoreQuery
