import StoreQuery.Wire.Basic
import StoreQuery.Predicate.Basic

/-!
Predicates in JSON. A leaf is validated when it is read. Fields are written in the order of their
names, and those that hold nothing are left out.
-/

namespace StoreQuery

open Wire

def Settings.ofJson (v : Json) : Read Settings := do
  let fs ← fields ["keep_original_key_types", "converter"] v
  return {
    keepKeyTypes := ← fs.withDefault "keep_original_key_types" false bool
    converter := ← fs.optional "converter" string }

def Settings.toJson (s : Settings) : Json :=
  object [ifSome "converter" (s.converter.map .str),
    present "keep_original_key_types" (.bool s.keepKeyTypes)]

def PathStep.ofJson (v : Json) : Read PathStep := do
  match ← choice v with
  | ("map_key", some key) => return .mapKey key
  | ("list_index", some i) => return .listIndex (← int64 i)
  | _ => throw .shape

def PathStep.toJson : PathStep → Json
  | .mapKey key => .obj [("map_key", key)]
  | .listIndex i => .obj [("list_index", .int64 i)]

def Path.ofJson : Json → Read Path := list PathStep.ofJson

def Path.toJson (p : Path) : Json := .arr (p.map PathStep.toJson)

def MetadataField.ofJson : Json → Read MetadataField := oneOf MetadataField.all MetadataField.name

def Ids.ofJson (v : Json) : Read Ids := do
  match ← choice v with
  | ("one", some key) => return .one key
  | ("many", some keys) => return .many (← list any keys)
  | _ => throw .shape

def Ids.toJson : Ids → Json
  | .one key => .obj [("one", key)]
  | .many keys => .obj [("many", .arr keys)]

def Target.ofJson (v : Json) : Read Target := do
  match ← choice v with
  | ("field", some bin) => return .field (← string bin)
  | ("metadata", some name) => return .metadata (← MetadataField.ofJson name)
  | ("id", some ids) => return .id (← Ids.ofJson ids)
  | _ => throw .shape

def Target.toJson : Target → Json
  | .field bin => .obj [("field", .str bin)]
  | .metadata m => .obj [("metadata", .str m.name)]
  | .id ids => .obj [("id", ids.toJson)]

def Operation.ofJson : Json → Read Operation := oneOf Operation.all Operation.name

def Leaf.fieldNames : List String :=
  ["target", "op", "value1", "value2", "value3", "ignore_case", "path", "settings"]

def Leaf.ofJson (v : Json) : Read Leaf := do
  let fs ← fields fieldNames v
  let leaf : Leaf := {
    target := ← fs.required "target" Target.ofJson
    op := ← fs.required "op" Operation.ofJson
    value1 := ← fs.optional "value1" any
    value2 := ← fs.optional "value2" any
    value3 := ← fs.optional "value3" any
    ignoreCase := ← fs.withDefault "ignore_case" false bool
    path := ← fs.withDefault "path" [] Path.ofJson
    settings := ← fs.withDefault "settings" {} Settings.ofJson }
  match leaf.validate with
  | .ok () => return leaf
  | .error cause => throw (.leaf cause)

def Leaf.toJson (l : Leaf) : Json :=
  object [omitIf (!l.ignoreCase) "ignore_case" (.bool l.ignoreCase),
    present "op" (.str l.op.name),
    omitIf l.path.isEmpty "path" l.path.toJson,
    present "settings" l.settings.toJson,
    present "target" l.target.toJson,
    ifSome "value1" l.value1,
    ifSome "value2" l.value2,
    ifSome "value3" l.value3]

def Connective.wireName : Connective → String
  | .and => "and"
  | .or => "or"

def Connective.ofJson : Json → Read Connective := oneOf [.and, .or] Connective.wireName

namespace Predicate

mutual

def ofJson : Json → Read Predicate
  | .obj [(tag, body)] =>
    if tag = "leaf" then do return .leaf (← Leaf.ofJson body)
    else if tag = "conjunction" then nodeOfJson body
    else .error .shape
  | _ => .error .shape

/-- The first fault found is reported: the fields of an object are read in the order of their
names, those of a list as they come. -/
def nodeOfJson : Json → Read Predicate
  | .obj fs => do
    if !isStructure ["kind", "children", "settings"] fs then throw .shape
    let children ← childrenIn fs
    let kind ← Fields.required fs "kind" Connective.ofJson
    let settings ← Fields.withDefault fs "settings" {} Settings.ofJson
    return .node kind children settings
  | .arr (kind :: children :: rest) => do
    let kind ← Connective.ofJson kind
    let children ← childrenOfJson children
    match rest with
    | [] => return .node kind children {}
    | [settings] => return .node kind children (← Settings.ofJson settings)
    | _ => throw .shape
  | _ => .error .shape

def childrenIn : List (String × Json) → Read (List Predicate)
  | [] => .error .shape
  | (name, v) :: rest => if name = "children" then childrenOfJson v else childrenIn rest

def childrenOfJson : Json → Read (List Predicate)
  | .arr items => itemsOfJson items
  | _ => .error .shape

def itemsOfJson : List Json → Read (List Predicate)
  | [] => .ok []
  | item :: rest => do
    let p ← ofJson item
    return p :: (← itemsOfJson rest)

end

mutual

def toJson : Predicate → Json
  | .leaf l => .obj [("leaf", l.toJson)]
  | .node kind children settings =>
    .obj [("conjunction", .obj [("children", .arr (itemsToJson children)),
      ("kind", .str kind.wireName), ("settings", settings.toJson)])]

def itemsToJson : List Predicate → List Json
  | [] => []
  | p :: rest => toJson p :: itemsToJson rest

end

end Predicate

end StoreQuery
