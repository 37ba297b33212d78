import StoreQuery.Wire.Shape
import StoreQuery.Json.Parse

/-!
Reading requests from text. The shape is read from the text as it stands, so that a repeated field
of a structure is noticed; values that may be anything are brought into normal form afterwards.
-/

namespace StoreQuery

open Wire

def PathStep.mapValues (f : Json → Json) : PathStep → PathStep
  | .mapKey key => .mapKey (f key)
  | .listIndex i => .listIndex i

def Ids.mapValues (f : Json → Json) : Ids → Ids
  | .one key => .one (f key)
  | .many keys => .many (keys.map f)

def Target.mapValues (f : Json → Json) : Target → Target
  | .id ids => .id (ids.mapValues f)
  | target => target

def Leaf.mapValues (f : Json → Json) (l : Leaf) : Leaf :=
  { l with
    target := l.target.mapValues f
    value1 := l.value1.map f
    value2 := l.value2.map f
    value3 := l.value3.map f
    path := l.path.map (PathStep.mapValues f) }

namespace Predicate

mutual

def mapValues (f : Json → Json) : Predicate → Predicate
  | .leaf l => .leaf (l.mapValues f)
  | .node kind children settings => .node kind (itemsMapValues f children) settings

def itemsMapValues (f : Json → Json) : List Predicate → List Predicate
  | [] => []
  | p :: rest => mapValues f p :: itemsMapValues f rest

end

end Predicate

def Index.mapValues (f : Json → Json) (i : Index) : Index :=
  { i with path := i.path.map (PathStep.mapValues f) }

namespace Wire

def ofText (read : Json → Read α) (text : String) : Read α := do
  read (← ofOption (Json.parse? text))

end Wire

def Query.ofText (text : String) : Read Query := do
  let source ← ofOption (Json.Source.parse? text)
  let q ← Query.ofJson (← ofOption (source.pruned .query).value?)
  return { q with predicate := q.predicate.map (·.mapValues Json.normalize) }

def Config.ofText : String → Read Config := Wire.ofText Config.ofJson

def Index.listOfText (text : String) : Read (List Index) := do
  return (← Wire.ofText (list Index.ofJson) text).map (·.mapValues Json.normalize)

/-- Texts by name, the later ones first, so that of two under one name the later counts. -/
def Wire.texts : Json → Read (List (String × String))
  | .obj fs => do
    let pairs ← fs.mapM fun (name, v) => return (name, ← string v)
    return pairs.reverse
  | _ => .error .shape

end StoreQuery
