import StoreQuery.Wire.Basic
import StoreQuery.Expr.Eval

namespace StoreQuery

open Wire

def RecordMeta.ofJson (v : Json) : Read RecordMeta := do
  let fs ← fields (MetadataField.all.map MetadataField.name) v
  return {
    sinceUpdateTime := ← fs.withDefault "since_update_time" 0 int64
    lastUpdateTime := ← fs.withDefault "last_update_time" 0 int64
    voidTime := ← fs.withDefault "void_time" 0 int64
    ttl := ← fs.withDefault "ttl" 0 int64
    recordSize := ← fs.withDefault "record_size" 0 int64
    digestModulo := ← fs.withDefault "digest_modulo" 0 int64 }

def Wire.binsOf : Json → Read Fields
  | .obj bins => .ok bins
  | _ => .error .shape

def Record.ofJson (v : Json) : Read Record := do
  let fs ← fields ["key", "bins", "meta"] v
  return {
    key := ← fs.optional "key" any
    bins := ← fs.withDefault "bins" [] binsOf
    metadata := ← fs.withDefault "meta" {} RecordMeta.ofJson }

end StoreQuery
