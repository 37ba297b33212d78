import StoreQuery.Error

/-!
Reading the parts of a request from JSON. A structure is an object, in which unknown fields are
passed over and known ones must not be repeated, or the list of its fields in order. A choice is an
object with the name of the alternative as its only field, or that name alone if nothing goes with
it.
-/

namespace StoreQuery

inductive WireError
  | shape
  | leaf (cause : QueryError)
  deriving DecidableEq

namespace Wire

abbrev Read (α : Type) := Except WireError α

def ofOption : Option α → Read α
  | some a => .ok a
  | none => .error .shape

def string : Json → Read String
  | .str s => .ok s
  | _ => .error .shape

def bool : Json → Read Bool
  | .bool b => .ok b
  | _ => .error .shape

def int64 : Json → Read Int64
  | .num (.int n) => ofOption (int64? n)
  | _ => .error .shape

def uint64 : Json → Read UInt64
  | .num (.int n) => ofOption (uint64? n)
  | _ => .error .shape

def any (v : Json) : Read Json := .ok v

def list (read : Json → Read α) : Json → Read (List α)
  | .arr items => items.mapM read
  | _ => .error .shape

/-- Null stands for a value that is not there. -/
def option (read : Json → Read α) : Json → Read (Option α)
  | .null => .ok none
  | v => return some (← read v)

def choice : Json → Read (String × Option Json)
  | .str name => .ok (name, none)
  | .obj [(name, v)] => .ok (name, some v)
  | _ => .error .shape

def oneOf (all : List α) (name : α → String) (v : Json) : Read α := do
  let (text, content) ← choice v
  match content, all.find? (name · == text) with
  | none, some a => return a
  | some .null, some a => return a
  | _, _ => throw .shape

abbrev Fields := List (String × Json)

def isStructure (names : List String) (fields : Fields) : Bool :=
  names.all fun name => (fields.filter (·.1 == name)).length ≤ 1

def fields (names : List String) : Json → Read Fields
  | .obj fields => if isStructure names fields then .ok fields else .error .shape
  | .arr items => if items.length ≤ names.length then .ok (names.zip items) else .error .shape
  | _ => .error .shape

namespace Fields

def required (fs : Fields) (name : String) (read : Json → Read α) : Read α :=
  match fs.lookup name with
  | some v => read v
  | none => .error .shape

/-- A field with a default may be left out but not be null. -/
def withDefault (fs : Fields) (name : String) (default : α) (read : Json → Read α) : Read α :=
  match fs.lookup name with
  | some v => read v
  | none => .ok default

def optional (fs : Fields) (name : String) (read : Json → Read α) : Read (Option α) :=
  match fs.lookup name with
  | some v => option read v
  | none => .ok none

end Fields

def object (fields : List (Option (String × Json))) : Json := .obj (fields.filterMap id)

def present (name : String) (v : Json) : Option (String × Json) := some (name, v)

def ifSome (name : String) (v : Option Json) : Option (String × Json) := v.map (name, ·)

def omitIf (absent : Bool) (name : String) (v : Json) : Option (String × Json) :=
  if absent then none else some (name, v)

end Wire

end StoreQuery
