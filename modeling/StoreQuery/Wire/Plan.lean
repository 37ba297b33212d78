import StoreQuery.Wire.Expr
import StoreQuery.Wire.Index
import StoreQuery.Plan.Explanation

namespace StoreQuery

open Wire

def Query.fieldNames : List String := ["namespace", "set", "predicate", "max_records"]

/-- A list is read in order, and surplus members are noticed last. In an object the limit, the
namespace and the predicate are looked at in this order, and what is missing is noticed last. -/
def Query.ofJson : Json → Read Query
  | .arr items => do
    let fs : Fields := fieldNames.zip items
    let ns ← fs.required "namespace" string
    let set ← fs.withDefault "set" "" string
    let predicate ← fs.optional "predicate" Predicate.ofJson
    let maxRecords ← fs.optional "max_records" uint64
    if fieldNames.length < items.length then throw .shape
    return { ns, set, predicate, maxRecords }
  | v => do
    let fs ← fields fieldNames v
    let maxRecords ← fs.optional "max_records" uint64
    let _ ← fs.withDefault "namespace" "" string
    let predicate ← fs.optional "predicate" Predicate.ofJson
    let set ← fs.withDefault "set" "" string
    let ns ← fs.required "namespace" string
    return { ns, set, predicate, maxRecords }

def Config.ofJson (v : Json) : Read Config := do
  let names := ["default_max_records", "scans_enabled", "index_selection", "log_filter"]
  let fs ← fields names v
  if !fs.all fun (name, _) => names.contains name then throw .shape
  return {
    defaultMaxRecords := ← fs.withDefault "default_max_records" 0 uint64
    scansEnabled := ← fs.withDefault "scans_enabled" true bool
    indexSelection := ← fs.withDefault "index_selection" true bool
    logFilter := ← fs.withDefault "log_filter" "binquery=info" string }

def Config.toJson (c : Config) : Json :=
  .obj [("default_max_records", .nat c.defaultMaxRecords.toNat),
    ("index_selection", .bool c.indexSelection),
    ("log_filter", .str c.logFilter),
    ("scans_enabled", .bool c.scansEnabled)]

def Selection.toJson (s : Selection) : Json :=
  .obj [("index_filter", .ofOption IndexFilter.toJson s.indexFilter),
    ("residual", .ofOption Predicate.toJson s.residual)]

def KeyLookup.ofFields (fs : Fields) : Read KeyLookup := do
  return {
    ns := ← fs.required "namespace" string
    set := ← fs.required "set" string
    keys := ← fs.required "keys" (list any)
    expression := ← fs.optional "expression" Expr.ofJson }

def Scan.ofFields (fs : Fields) : Read Scan := do
  return {
    ns := ← fs.required "namespace" string
    set := ← fs.required "set" string
    indexFilter := ← fs.optional "index_filter" IndexFilter.ofJson
    expression := ← fs.optional "expression" Expr.ofJson
    maxRecords := ← fs.required "max_records" uint64 }

def Plan.ofJson (v : Json) : Read Plan := do
  let fs ← parts ["kind", "namespace", "set", "keys", "index_filter", "expression", "max_records"] v
  match ← fs.required "kind" string with
  | "keys" => return .keys (← KeyLookup.ofFields fs)
  | "query" => return .query (← Scan.ofFields fs)
  | _ => throw .shape

def Plan.toJson : Plan → Json
  | .keys lookup =>
    .obj [("expression", .ofOption Expr.toJson lookup.expression),
      ("keys", .arr lookup.keys),
      ("kind", .str "keys"),
      ("namespace", .str lookup.ns),
      ("set", .str lookup.set)]
  | .query scan =>
    .obj [("expression", .ofOption Expr.toJson scan.expression),
      ("index_filter", .ofOption IndexFilter.toJson scan.indexFilter),
      ("kind", .str "query"),
      ("max_records", .nat scan.maxRecords.toNat),
      ("namespace", .str scan.ns),
      ("set", .str scan.set)]

namespace Explanation

def fields : Explanation → List (String × Json)
  | .accepted a =>
    [("accepted", .bool true),
      ("access_path", .str a.accessPath.name),
      ("expression", .ofOption .str a.expression),
      ("index_filter", .ofOption .str a.indexFilter),
      ("keys", .arr (a.keys.map .str)),
      ("max_records", .ofOption (fun n => .nat n.toNat) a.maxRecords),
      ("namespace", .str a.ns),
      ("rejection_code", .null),
      ("rejection_reason", .null),
      ("set", .str a.set)]
  | .rejected cause =>
    [("accepted", .bool false),
      ("access_path", .null),
      ("expression", .null),
      ("index_filter", .null),
      ("keys", .arr []),
      ("max_records", .null),
      ("namespace", .null),
      ("rejection_code", .str cause.code),
      ("rejection_reason", .str cause.message),
      ("set", .null)]

def toJson (x : Explanation) : Json := .obj x.fields

def toJsonWithText (x : Explanation) : Json := .obj (x.fields ++ [("text", .str x.toText)])

end Explanation

end StoreQuery
