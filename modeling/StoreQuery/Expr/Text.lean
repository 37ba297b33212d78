import StoreQuery.Expr.Basic
import StoreQuery.Text.Quoted

namespace StoreQuery

def Comparison.symbol : Comparison → String
  | .eq => "=="
  | .ne => "!="
  | .ineq .lt => "<"
  | .ineq .le => "<="
  | .ineq .gt => ">"
  | .ineq .ge => ">="

def Elements.name : Elements → String
  | .list => "list"
  | .mapKeys => "map_keys"
  | .mapValues => "map_values"

def binPathText (bin : String) (path : Path) : String :=
  if path.isEmpty then bin else bin ++ "." ++ path.toText

def Selector.toText : Selector → String
  | .value v => "== " ++ v.toText
  | .range lower upper =>
    "[" ++ (lower.map Json.toText).getD "-inf" ++ ", " ++ (upper.map Json.toText).getD "+inf" ++ ")"

def Operand.toText : Operand → String
  | .bin name ty => "$." ++ name ++ ":" ++ ty.name
  | .metadata field => "meta." ++ field.name
  | .key ty => "key:" ++ ty.name
  | .literal v => v.toText
  | .mapValue name path k ty =>
    "$." ++ binPathText name path ++ "[" ++ k.toText ++ "]:" ++ ty.name
  | .count name path elements selector =>
    "count($." ++ binPathText name path ++ ", " ++ elements.name ++ ", " ++ selector.toText ++ ")"

namespace Expr

mutual

def toText : Expr → String
  | .const b => if b then "true" else "false"
  | .compare c left right => left.toText ++ " " ++ c.symbol ++ " " ++ right.toText
  | .regex source pattern flags =>
    "regex(" ++ source.toText ++ ", " ++ Text.quoted pattern
      ++ (if flags.extended then ", extended" else "") ++ (if flags.icase then ", icase" else "")
      ++ ")"
  | .binExists bin => "exists($." ++ bin ++ ")"
  | .geoWithin source region => "geo_within(" ++ source.toText ++ ", " ++ region.toText ++ ")"
  | .and es => "(" ++ " and ".intercalate (textsOf es) ++ ")"
  | .or es => "(" ++ " or ".intercalate (textsOf es) ++ ")"
  | .not e => "not(" ++ e.toText ++ ")"

def textsOf : List Expr → List String
  | [] => []
  | e :: rest => e.toText :: textsOf rest

end

end Expr

end StoreQuery
