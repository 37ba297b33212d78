import StoreQuery.Predicate.Leaf

namespace StoreQuery

structure LeafDraft where
  target : Target
  op : Option Operation := none
  key : Option Json := none
  value : Option Json := none
  upper : Option Json := none
  ignoreCase : Bool := false
  path : Path := []
  settings : Settings := {}

namespace LeafDraft

def field (bin : String) : LeafDraft where
  target := .field bin

def metadata (field : MetadataField) : LeafDraft where
  target := .metadata field

def id (key : Json) : LeafDraft where
  target := .id (.one key)
  op := some (.scalar (.compare .eq))

def ids (keys : List Json) : LeafDraft where
  target := .id (.many keys)
  op := some (.scalar .isIn)

def leaf (d : LeafDraft) (op : Operation) : Leaf where
  target := d.target
  op := op
  value1 := if op.isKeyed then d.key else d.value
  value2 := if op.isKeyed then d.value else d.upper
  value3 := if op.isKeyed then d.upper else none
  ignoreCase := d.ignoreCase
  path := d.path
  settings := d.settings

def build (d : LeafDraft) : Except QueryError Leaf :=
  match d.op with
  | none => .error (.malformed .noOperation)
  | some op =>
    if !op.isKeyed && d.key.isSome then .error (.malformed (.keyOn op))
    else do
      (d.leaf op).validate
      return d.leaf op

end LeafDraft

end StoreQuery
