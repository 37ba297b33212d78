import StoreQuery.Error

/-!
A leaf is one condition on a bin, a metadata field or the record key. Operands are stored by
position; the part a position plays depends on whether the operation takes a map key.
-/

namespace StoreQuery

structure Settings where
  keepKeyTypes : Bool := false
  converter : Option String := none
  deriving DecidableEq

inductive Ids
  | one (key : Json)
  | many (keys : List Json)

def Ids.keys : Ids → List Json
  | .one key => [key]
  | .many keys => keys

inductive Target
  | field (bin : String)
  | metadata (field : MetadataField)
  | id (target : Ids)

structure Leaf where
  target : Target
  op : Operation
  value1 : Option Json := none
  value2 : Option Json := none
  value3 : Option Json := none
  ignoreCase : Bool := false
  path : Path := []
  settings : Settings := {}

namespace Leaf

def bin? (l : Leaf) : Option String :=
  match l.target with
  | .field bin => some bin
  | _ => none

def id? (l : Leaf) : Option Ids :=
  match l.target with
  | .id target => some target
  | _ => none

def key (l : Leaf) : Option Json := if l.op.isKeyed then l.value1 else none

def value (l : Leaf) : Option Json := if l.op.isKeyed then l.value2 else l.value1

def upper (l : Leaf) : Option Json := if l.op.isKeyed then l.value3 else l.value2

def require (l : Leaf) (role : Role) : Option Json → Except QueryError Json
  | some v => .ok v
  | none => .error (.missingOperand l.op role)

def requireKey (l : Leaf) : Except QueryError Json := l.require .key l.key

def requireValue (l : Leaf) : Except QueryError Json := l.require .value l.value

def requireUpper (l : Leaf) : Except QueryError Json := l.require .upper l.upper

def checkOperands (l : Leaf) : Except QueryError Unit := do
  let needs := l.op.needs
  if needs.key then let _ ← l.requireKey
  if needs.value then let _ ← l.requireValue
  if needs.upper then let _ ← l.requireUpper
  if !l.path.isEmpty && !l.op.acceptsPath then throw (.malformed (.pathOn l.op))

/-- Whether the parts of a leaf fit together; the types of its operands are looked at later. -/
def validate (l : Leaf) : Except QueryError Unit :=
  match l.target with
  | .field bin =>
    if bin = "" then .error (.malformed .emptyBinName) else l.checkOperands
  | .metadata field =>
    if l.op.appliesToMetadata then l.checkOperands
    else .error (.malformed (.notOnMetadata l.op field))
  | .id target =>
    let fits := match target with
      | .one _ => l.op == .scalar (.compare .eq)
      | .many _ => l.op == .scalar .isIn
    if !fits then .error (.malformed (.notOnId l.op))
    else if !l.path.isEmpty then .error (.malformed .pathOnId)
    else .ok ()

def onBin (bin : String) (op : Operation) (value : Json) (upper : Option Json := none) : Leaf where
  target := .field bin
  op := op
  value1 := some value
  value2 := upper

end Leaf

end StoreQuery
