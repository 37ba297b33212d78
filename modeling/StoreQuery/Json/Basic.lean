/-!
JSON values, as records, operands and requests are made of. An object is a list of fields in the
order of their names; `Json.normalize` brings the fields of a freshly read object into it.
-/

namespace StoreQuery

def int64? (n : Int) : Option Int64 :=
  if Int64.minValue.toInt ≤ n ∧ n ≤ Int64.maxValue.toInt then some (Int64.ofInt n) else none

def uint64? (n : Int) : Option UInt64 :=
  if 0 ≤ n ∧ n < UInt64.size then some (UInt64.ofNat n.toNat) else none

inductive Number
  | int : Int → Number
  | float : Float → Number

namespace Number

def int64? : Number → Option Int64
  | .int n => StoreQuery.int64? n
  | .float _ => none

def toFloat : Number → Float
  | .int n => .ofInt n
  | .float x => x

/-- A whole number and a double are never the same value, not even `1` and `1.0`. -/
def beq : Number → Number → Bool
  | .int m, .int n => m == n
  | .float x, .float y => x == y
  | _, _ => false

instance : BEq Number := ⟨beq⟩

/-- By value where both are 64-bit words, otherwise as doubles. -/
def compare? (a b : Number) : Option Ordering :=
  match a.int64?, b.int64? with
  | some m, some n => some (compare m.toInt n.toInt)
  | _, _ =>
    if a.toFloat < b.toFloat then some .lt
    else if b.toFloat < a.toFloat then some .gt
    else if a.toFloat == b.toFloat then some .eq
    else none

end Number

inductive Json
  | null : Json
  | bool : Bool → Json
  | num : Number → Json
  | str : String → Json
  | arr : List Json → Json
  | obj : List (String × Json) → Json

inductive JsonKind
  | null
  | bool
  | int
  | float
  | string
  | list
  | map
  deriving DecidableEq

def JsonKind.name : JsonKind → String
  | .null => "null"
  | .bool => "bool"
  | .int => "int"
  | .float => "float"
  | .string => "string"
  | .list => "list"
  | .map => "map"

namespace Json

instance : Inhabited Json := ⟨.null⟩

def int (n : Int) : Json := .num (.int n)

def int64 (n : Int64) : Json := .int n.toInt

def nat (n : Nat) : Json := .int n

def ofOption (f : α → Json) : Option α → Json
  | none => .null
  | some x => f x

/-- An integer above the signed 64-bit range counts as a float. -/
def kind : Json → JsonKind
  | .null => .null
  | .bool _ => .bool
  | .num n => if n.int64?.isSome then .int else .float
  | .str _ => .string
  | .arr _ => .list
  | .obj _ => .map

def int64? : Json → Option Int64
  | .num n => n.int64?
  | _ => none

def isNumber : Json → Bool
  | .num _ => true
  | _ => false

def isNull : Json → Bool
  | .null => true
  | _ => false

def field? (name : String) : Json → Option Json
  | .obj fields => fields.lookup name
  | _ => none

mutual

def beq : Json → Json → Bool
  | .null, .null => true
  | .bool a, .bool b => a == b
  | .num a, .num b => a == b
  | .str a, .str b => a == b
  | .arr a, .arr b => beqItems a b
  | .obj a, .obj b => beqFields a b
  | _, _ => false

def beqItems : List Json → List Json → Bool
  | [], [] => true
  | a :: as, b :: bs => beq a b && beqItems as bs
  | _, _ => false

def beqFields : List (String × Json) → List (String × Json) → Bool
  | [], [] => true
  | (m, a) :: as, (n, b) :: bs => m == n && beq a b && beqFields as bs
  | _, _ => false

end

instance : BEq Json := ⟨beq⟩

def insertField (name : String) (value : Json) : List (String × Json) → List (String × Json)
  | [] => [(name, value)]
  | (n, v) :: rest =>
    if name < n then (name, value) :: (n, v) :: rest
    else if name = n then (name, value) :: rest
    else (n, v) :: insertField name value rest

mutual

def normalize : Json → Json
  | .arr items => .arr (normalizeItems items)
  | .obj fields => .obj (normalizeFields fields [])
  | other => other

def normalizeItems : List Json → List Json
  | [] => []
  | item :: rest => normalize item :: normalizeItems rest

def normalizeFields : List (String × Json) → List (String × Json) → List (String × Json)
  | [], acc => acc
  | (name, value) :: rest, acc => normalizeFields rest (insertField name (normalize value) acc)

end

end Json

end StoreQuery
