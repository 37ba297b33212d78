import StoreQuery.Error

namespace StoreQuery

inductive ValueType
  | int
  | float
  | string
  | bool
  | list
  | map
  | geo
  deriving DecidableEq

namespace ValueType

def all : List ValueType := [.int, .float, .string, .bool, .list, .map, .geo]

def name : ValueType → String
  | .int => "int"
  | .float => "float"
  | .string => "string"
  | .bool => "bool"
  | .list => "list"
  | .map => "map"
  | .geo => "geo"

/-- The type of a value; null has none, and only a shape check can tell a region from its text. -/
def of? (v : Json) : Option ValueType :=
  match v.kind with
  | .null => none
  | .bool => some .bool
  | .int => some .int
  | .float => some .float
  | .string => some .string
  | .list => some .list
  | .map => some .map

end ValueType

/-- Which elements are counted; a range holds its lower bound and not its upper one. -/
inductive Selector
  | value (v : Json)
  | range (lower upper : Option Json)

inductive Operand
  | bin (name : String) (ty : ValueType)
  | metadata (field : MetadataField)
  | key (ty : ValueType)
  | literal (v : Json)
  | mapValue (bin : String) (path : Path) (key : Json) (ty : ValueType)
  | count (bin : String) (path : Path) (elements : Elements) (selector : Selector)

structure PatternFlags where
  extended : Bool := false
  icase : Bool := false
  deriving DecidableEq

inductive Expr
  | const (b : Bool)
  | compare (c : Comparison) (left right : Operand)
  | regex (source : Operand) (pattern : String) (flags : PatternFlags)
  | binExists (bin : String)
  | geoWithin (source : Operand) (region : Json)
  | and (es : List Expr)
  | or (es : List Expr)
  | not (e : Expr)

namespace Expr

instance : Inhabited Expr := ⟨.const true⟩

def allOf : List Expr → Expr
  | [] => .const true
  | [e] => e
  | es => .and es

def anyOf : List Expr → Expr
  | [] => .const false
  | [e] => e
  | es => .or es

end Expr

end StoreQuery
