import StoreQuery.Wire.Predicate
import StoreQuery.Expr.Text

/-!
Expressions in JSON. What goes with an alternative is always an object here, never a list.
-/

namespace StoreQuery

open Wire

def Wire.parts (names : List String) : Json → Read Fields
  | .obj fs => fields names (.obj fs)
  | _ => .error .shape

def Comparison.wireName : Comparison → String
  | .eq => "eq"
  | .ne => "not_eq"
  | .ineq .lt => "lt"
  | .ineq .le => "lt_eq"
  | .ineq .gt => "gt"
  | .ineq .ge => "gt_eq"

def Comparison.ofJson : Json → Read Comparison := oneOf Comparison.all Comparison.wireName

def ValueType.ofJson : Json → Read ValueType := oneOf ValueType.all ValueType.name

def Elements.ofJson : Json → Read Elements := oneOf [.list, .mapKeys, .mapValues] Elements.name

def Selector.ofJson (v : Json) : Read Selector := do
  match ← choice v with
  | ("value", some v) => return .value v
  | ("range", some body) =>
    let fs ← parts ["begin", "end"] body
    return .range (← fs.optional "begin" any) (← fs.optional "end" any)
  | _ => throw .shape

def Selector.toJson : Selector → Json
  | .value v => .obj [("value", v)]
  | .range lower upper =>
    .obj [("range", .obj [("begin", .ofOption id lower), ("end", .ofOption id upper)])]

def Operand.ofJson (v : Json) : Read Operand := do
  match ← choice v with
  | ("bin", some body) =>
    let fs ← parts ["name", "ty"] body
    return .bin (← fs.required "name" string) (← fs.required "ty" ValueType.ofJson)
  | ("meta", some m) => return .metadata (← MetadataField.ofJson m)
  | ("key", some body) =>
    let fs ← parts ["ty"] body
    return .key (← fs.required "ty" ValueType.ofJson)
  | ("literal", some v) => return .literal v
  | ("map_value", some body) =>
    let fs ← parts ["bin", "ctx", "key", "ty"] body
    return .mapValue (← fs.required "bin" string) (← fs.required "ctx" Path.ofJson)
      (← fs.required "key" any) (← fs.required "ty" ValueType.ofJson)
  | ("count", some body) =>
    let fs ← parts ["bin", "ctx", "collection", "selector"] body
    return .count (← fs.required "bin" string) (← fs.required "ctx" Path.ofJson)
      (← fs.required "collection" Elements.ofJson) (← fs.required "selector" Selector.ofJson)
  | _ => throw .shape

def Operand.toJson : Operand → Json
  | .bin name ty => .obj [("bin", .obj [("name", .str name), ("ty", .str ty.name)])]
  | .metadata m => .obj [("meta", .str m.name)]
  | .key ty => .obj [("key", .obj [("ty", .str ty.name)])]
  | .literal v => .obj [("literal", v)]
  | .mapValue name path k ty => .obj [("map_value", .obj [("bin", .str name),
      ("ctx", path.toJson), ("key", k), ("ty", .str ty.name)])]
  | .count name path elements selector => .obj [("count", .obj [("bin", .str name),
      ("collection", .str elements.name), ("ctx", path.toJson), ("selector", selector.toJson)])]

def PatternFlags.ofJson (v : Json) : Read PatternFlags := do
  let fs ← fields ["extended", "icase"] v
  return {
    extended := ← fs.withDefault "extended" false bool
    icase := ← fs.withDefault "icase" false bool }

def PatternFlags.toJson (f : PatternFlags) : Json :=
  .obj [("extended", .bool f.extended), ("icase", .bool f.icase)]

namespace Expr

def simpleOfJson (tag : String) (body : Json) : Read Expr :=
  match tag with
  | "const" => do return .const (← bool body)
  | "cmp" => do
    let fs ← parts ["op", "left", "right"] body
    return .compare (← fs.required "op" Comparison.ofJson) (← fs.required "left" Operand.ofJson)
      (← fs.required "right" Operand.ofJson)
  | "regex" => do
    let fs ← parts ["source", "pattern", "flags"] body
    return .regex (← fs.required "source" Operand.ofJson) (← fs.required "pattern" string)
      (← fs.required "flags" PatternFlags.ofJson)
  | "bin_exists" => do return .binExists (← string body)
  | "geo_compare" => do
    let fs ← parts ["source", "region"] body
    return .geoWithin (← fs.required "source" Operand.ofJson) (← fs.required "region" any)
  | _ => .error .shape

mutual

def ofJson : Json → Read Expr
  | .obj [(tag, body)] =>
    if tag = "and" then do return .and (← membersOfJson body)
    else if tag = "or" then do return .or (← membersOfJson body)
    else if tag = "not" then do return .not (← ofJson body)
    else simpleOfJson tag body
  | _ => .error .shape

def membersOfJson : Json → Read (List Expr)
  | .arr items => itemsOfJson items
  | _ => .error .shape

def itemsOfJson : List Json → Read (List Expr)
  | [] => .ok []
  | item :: rest => do
    let e ← ofJson item
    return e :: (← itemsOfJson rest)

end

mutual

def toJson : Expr → Json
  | .const b => .obj [("const", .bool b)]
  | .compare c left right => .obj [("cmp", .obj [("left", left.toJson),
      ("op", .str c.wireName), ("right", right.toJson)])]
  | .regex source pattern flags => .obj [("regex", .obj [("flags", flags.toJson),
      ("pattern", .str pattern), ("source", source.toJson)])]
  | .binExists bin => .obj [("bin_exists", .str bin)]
  | .geoWithin source region => .obj [("geo_compare", .obj [("region", region),
      ("source", source.toJson)])]
  | .and es => .obj [("and", .arr (itemsToJson es))]
  | .or es => .obj [("or", .arr (itemsToJson es))]
  | .not e => .obj [("not", e.toJson)]

def itemsToJson : List Expr → List Json
  | [] => []
  | e :: rest => toJson e :: itemsToJson rest

end

end Expr

end StoreQuery
