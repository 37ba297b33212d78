import StoreQuery.Wire.Plan
import StoreQuery.Json.Source

/-!
What of a request's text has a meaning. Structures pass over fields they do not know, so that what
such a field holds has to be well written but need not denote anything.
-/

namespace StoreQuery

inductive Shape
  | value
  | query
  | predicate
  | predicates
  | leaf
  | node
  | settings
  deriving DecidableEq

namespace Shape

def fields : Shape → List (String × Shape)
  | .query =>
    Query.fieldNames.map fun name => (name, if name = "predicate" then .predicate else .value)
  | .leaf => Leaf.fieldNames.map fun name => (name, if name = "settings" then .settings else .value)
  | .node => [("kind", .value), ("children", .predicates), ("settings", .settings)]
  | .settings => [("keep_original_key_types", .value), ("converter", .value)]
  | _ => []

def field? : Shape → String → Option Shape
  | .value, _ => some .value
  | .predicates, _ => some .value
  | .predicate, name =>
    if name = "leaf" then some .leaf
    else if name = "conjunction" then some .node
    else some .value
  | s, name => s.fields.lookup name

/-- What to expect of the members of a list: the fields of a structure in order, and values after
them. -/
def next : Shape → List Shape → Shape × List Shape
  | .predicates, _ => (.predicate, [])
  | _, [] => (.value, [])
  | _, s :: rest => (s, rest)

end Shape

namespace Json.Source

mutual

def pruned (shape : Shape) : Source → Source
  | .scalar v => .scalar v
  | .list items => .list (itemsPruned shape (shape.fields.map (·.2)) items)
  | .object fields => .object (fieldsPruned shape fields)

def itemsPruned (shape : Shape) (expected : List Shape) : List Source → List Source
  | [] => []
  | item :: rest =>
    let (first, expected) := shape.next expected
    pruned first item :: itemsPruned shape expected rest

def fieldsPruned (shape : Shape) :
    List (Option String × Source) → List (Option String × Source)
  | [] => []
  | (none, v) :: rest => (none, v) :: fieldsPruned shape rest
  | (some name, v) :: rest =>
    match shape.field? name with
    | some inner => (some name, pruned inner v) :: fieldsPruned shape rest
    | none => fieldsPruned shape rest

end

end Json.Source

end StoreQuery
