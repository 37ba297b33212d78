import StoreQuery.Json.Print
import StoreQuery.Text.Basic
import StoreQuery.Text.Integer

/-!
Paths into nested maps and lists. In text the steps are separated by dots: a word is a map key,
`[2]` a position in a list, and a whole number in braces a map key that is no string. Negative
positions count from the end.
-/

namespace StoreQuery

inductive PathStep
  | mapKey (key : Json)
  | listIndex (i : Int64)

abbrev Path := List PathStep

inductive PathError
  | emptyStep
  | badListIndex (step : String)
  | badIntegerKey (step : String)
  deriving DecidableEq

namespace PathStep

def beq : PathStep → PathStep → Bool
  | .mapKey a, .mapKey b => a == b
  | .listIndex i, .listIndex j => i == j
  | _, _ => false

instance : BEq PathStep := ⟨beq⟩

/-- Where a step goes in a list of this length, in the arithmetic of 64 bits. It is negative for a
step that goes before the first item. -/
def position (length : Nat) (i : Int64) : Int64 := if i < 0 then .ofNat length + i else i

def element? (items : List Json) (i : Int64) : Option Json :=
  let p := position items.length i
  if p < 0 then none else items[p.toUInt64.toNat]?

def resolve : PathStep → Json → Option Json
  | .mapKey key, .obj fields => do fields.lookup (← key.keyText?)
  | .listIndex i, .arr items => element? items i
  | _, _ => none

def toText : PathStep → String
  | .mapKey (.str key) => key
  | .mapKey key => "\x7b" ++ key.toText ++ "\x7d"
  | .listIndex i => "[" ++ toString i.toInt ++ "]"

def enclosed? (first last : Char) : List Char → Option (List Char)
  | [] => none
  | c :: rest =>
    if c = first ∧ rest.getLast? = some last then some rest.dropLast else none

def ofText? (step : String) : Except PathError PathStep :=
  let cs := step.toList
  if cs = [] then .error .emptyStep
  else match enclosed? '[' ']' cs with
    | some inner =>
      match Text.readInt64? (Text.trimChars inner) with
      | some i => .ok (.listIndex i)
      | none => .error (.badListIndex step)
    | none =>
      match enclosed? '\x7b' '\x7d' cs with
      | some inner =>
        match Text.readInt64? (Text.trimChars inner) with
        | some i => .ok (.mapKey (.int64 i))
        | none => .error (.badIntegerKey step)
      | none => .ok (.mapKey (.str step))

end PathStep

namespace Path

def resolve (p : Path) (root : Json) : Option Json := p.foldlM (fun v step => step.resolve v) root

def toText (p : Path) : String := ".".intercalate (p.map PathStep.toText)

def ofText? (text : String) : Except PathError Path :=
  if text = "" then .ok [] else (Text.split '.' text).mapM PathStep.ofText?

theorem resolve_cons (step : PathStep) (p : Path) (root : Json) :
    resolve (step :: p) root = (step.resolve root).bind (resolve p) := by
  simp only [resolve, List.foldlM_cons]
  rfl

theorem resolve_append (p q : Path) (root : Json) :
    resolve (p ++ q) root = (resolve p root).bind (resolve q) := by
  simp only [resolve, List.foldlM_append]
  rfl

end Path

end StoreQuery
