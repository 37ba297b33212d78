import StoreQuery.Wire.Predicate
import StoreQuery.Index.Catalog

namespace StoreQuery

open Wire

def IndexType.wireName : IndexType → String
  | .numeric => "numeric"
  | .string => "string"
  | .blob => "blob"
  | .geo2dSphere => "geo2d_sphere"

def IndexType.ofJson : Json → Read IndexType :=
  oneOf [.numeric, .string, .blob, .geo2dSphere] IndexType.wireName

def Coverage.wireName : Coverage → String
  | .whole => "default"
  | .elements e => e.name

def Coverage.ofJson : Json → Read Coverage := oneOf Coverage.all Coverage.wireName

def IndexKey.ofJson (v : Json) : Read IndexKey := do
  match ← choice v with
  | ("int", some n) => return .int (← int64 n)
  | ("string", some s) => return .string (← Wire.string s)
  | _ => throw .shape

def IndexKey.toJson : IndexKey → Json
  | .int n => .obj [("int", .int64 n)]
  | .string s => .obj [("string", .str s)]

def FilterKind.ofJson (v : Json) : Read FilterKind := do
  match ← choice v with
  | ("equal", some key) => return .equal (← IndexKey.ofJson key)
  | ("range", some (.obj fs)) =>
    let fs ← fields ["begin", "end"] (.obj fs)
    return .range (← fs.required "begin" int64) (← fs.required "end" int64)
  | ("geo_within", some (.obj fs)) =>
    let fs ← fields ["region"] (.obj fs)
    return .geoWithin (← fs.required "region" string)
  | _ => throw .shape

def FilterKind.toJson : FilterKind → Json
  | .equal key => .obj [("equal", key.toJson)]
  | .range first last => .obj [("range", .obj [("begin", .int64 first), ("end", .int64 last)])]
  | .geoWithin region => .obj [("geo_within", .obj [("region", .str region)])]

def IndexFilter.ofJson (v : Json) : Read IndexFilter := do
  let fs ← fields ["bin", "collection", "ctx", "kind"] v
  return {
    bin := ← fs.required "bin" string
    coverage := ← fs.required "collection" Coverage.ofJson
    path := ← fs.withDefault "ctx" [] Path.ofJson
    kind := ← fs.required "kind" FilterKind.ofJson }

def IndexFilter.toJson (f : IndexFilter) : Json :=
  object [present "bin" (.str f.bin),
    present "collection" (.str f.coverage.wireName),
    omitIf f.path.isEmpty "ctx" f.path.toJson,
    present "kind" f.kind.toJson]

def Index.ofJson : Json → Read Index
  | .obj fs => do
    let fs ← fields ["name", "namespace", "set", "bin", "value_type", "collection", "ctx",
      "selectivity"] (.obj fs)
    return {
      name := ← fs.required "name" string
      ns := ← fs.required "namespace" string
      set := ← fs.withDefault "set" "" string
      bin := ← fs.required "bin" string
      indexType := ← fs.required "value_type" IndexType.ofJson
      coverage := ← fs.withDefault "collection" .whole Coverage.ofJson
      path := ← fs.withDefault "ctx" [] Path.ofJson
      selectivity := ← fs.withDefault "selectivity" 0 uint64 }
  | _ => .error .shape

def Index.toJson (i : Index) : Json :=
  object [present "bin" (.str i.bin),
    present "collection" (.str i.coverage.wireName),
    omitIf i.path.isEmpty "ctx" i.path.toJson,
    present "name" (.str i.name),
    present "namespace" (.str i.ns),
    present "selectivity" (.nat i.selectivity.toNat),
    present "set" (.str i.set),
    present "value_type" (.str i.indexType.wireName)]

end StoreQuery
