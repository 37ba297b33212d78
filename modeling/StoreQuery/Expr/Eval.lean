import StoreQuery.Expr.Basic
import StoreQuery.Expr.Truth
import StoreQuery.Geometry
import StoreQuery.Regex.Match
import StoreQuery.Regex.Posix

/-!
The value of an expression on a record. An operand that is missing, has another type or cannot be
reached leaves the condition unknown.
-/

namespace StoreQuery

structure RecordMeta where
  sinceUpdateTime : Int64 := 0
  lastUpdateTime : Int64 := 0
  voidTime : Int64 := 0
  ttl : Int64 := 0
  recordSize : Int64 := 0
  digestModulo : Int64 := 0

def RecordMeta.get (m : RecordMeta) : MetadataField → Int64
  | .sinceUpdateTime => m.sinceUpdateTime
  | .lastUpdateTime => m.lastUpdateTime
  | .voidTime => m.voidTime
  | .ttl => m.ttl
  | .recordSize => m.recordSize
  | .digestModulo => m.digestModulo

structure Record where
  key : Option Json := none
  bins : List (String × Json) := []
  metadata : RecordMeta := {}

namespace Record

def ofBins : Json → Record
  | .obj bins => { bins }
  | _ => {}

def bin? (r : Record) (name : String) : Option Json := r.bins.lookup name

def mapValue? (r : Record) (bin : String) (path : Path) (key : Json) : Option Json := do
  match ← path.resolve (← r.bin? bin) with
  | .obj fields => fields.lookup (← key.keyText?)
  | _ => none

end Record

namespace Json

/-- Numbers by value, strings by code points, booleans with false first; nothing else is ordered. -/
def compare? : Json → Json → Option Ordering
  | .num a, .num b => a.compare? b
  | .str a, .str b => some (compare a b)
  | .bool a, .bool b => some (compare a b)
  | _, _ => none

/-- Numbers are equal by value here, so `1` equals `1.0`. -/
def equal : Json → Json → Bool
  | .num a, .num b => a.compare? b == some .eq
  | a, b => a == b

end Json

def Inequality.admits : Inequality → Ordering → Bool
  | .lt, o => o.isLT
  | .le, o => o.isLE
  | .gt, o => o.isGT
  | .ge, o => o.isGE

def Comparison.evaluate : Comparison → Json → Json → Truth
  | .eq, a, b => .ofBool (a.equal b)
  | .ne, a, b => .ofBool (!a.equal b)
  | .ineq i, a, b =>
    match a.compare? b with
    | some o => .ofBool (i.admits o)
    | none => .unknown

def ValueType.admits : ValueType → Json → Bool
  | .geo, v => (Geometry.ofJson? v).isSome
  | ty, v => ValueType.of? v == some ty

def ValueType.read? (ty : ValueType) (v : Json) : Option Json :=
  if ty.admits v then some v else none

namespace Selector

/-- A range without a lower bound holds what its upper bound can be compared with. -/
def selects (s : Selector) (item : Json) : Bool :=
  match s with
  | .value v => item.equal v
  | .range lower upper =>
    let above := match lower, upper with
      | some lower, _ => (item.compare? lower).any Ordering.isGE
      | none, some upper => (item.compare? upper).isSome
      | none, none => true
    let below := match upper with
      | some upper => (item.compare? upper).any Ordering.isLT
      | none => true
    above && below

def isNumeric : Selector → Bool
  | .value v => v.isNumber
  | .range lower upper => (lower.or upper).any Json.isNumber

def keyValue (s : Selector) (key : String) : Json :=
  match Text.readInt64? key.toList with
  | some n => if s.isNumeric then .int64 n else .str key
  | none => .str key

def count (s : Selector) : Elements → Json → Option Nat
  | .list, .arr items => some (items.countP s.selects)
  | .mapValues, .obj fields => some (fields.countP fun (_, v) => s.selects v)
  | .mapKeys, .obj fields => some (fields.countP fun (key, _) => s.selects (s.keyValue key))
  | _, _ => none

end Selector

/-- A count is a 64-bit integer; no list or map holds more elements than the greatest of them. -/
def Json.count (n : Nat) : Json := .nat (min n (1 <<< 63 - 1))

def Operand.resolve (r : Record) : Operand → Option Json
  | .bin name ty => do ty.read? (← r.bin? name)
  | .metadata field => some (.int64 (r.metadata.get field))
  | .key ty => do ty.read? (← r.key)
  | .literal v => some v
  | .mapValue name path k ty => do ty.read? (← r.mapValue? name path k)
  | .count name path elements selector => do
    let n ← selector.count elements (← path.resolve (← r.bin? name))
    return .count n

def PatternFlags.isMatch? (flags : PatternFlags) (pattern text : String) : Option Bool :=
  let extended :=
    if flags.extended then pattern.toList else Regex.basicToExtended pattern.toList
  (Regex.parse? extended flags.icase).map (·.isMatch text)

namespace Expr

def evaluateRegex (flags : PatternFlags) (pattern : String) : Option Json → Truth
  | some (.str text) =>
    match flags.isMatch? pattern text with
    | some b => .ofBool b
    | none => .unknown
  | _ => .unknown

def evaluateGeo (region : Json) (point : Option Json) : Truth :=
  match point.bind Geometry.ofJson?, Geometry.ofJson? region with
  | some point, some region => .ofBool (region.contains point)
  | _, _ => .unknown

mutual

def evaluate (r : Record) : Expr → Truth
  | .const b => .ofBool b
  | .compare c left right =>
    match left.resolve r, right.resolve r with
    | some a, some b => c.evaluate a b
    | _, _ => .unknown
  | .regex source pattern flags => evaluateRegex flags pattern (source.resolve r)
  | .binExists bin => .ofBool ((r.bin? bin).any (!·.isNull))
  | .geoWithin source region => evaluateGeo region (source.resolve r)
  | .and es => evaluateAll r es
  | .or es => evaluateAny r es
  | .not e => (e.evaluate r).not

def evaluateAll (r : Record) : List Expr → Truth
  | [] => .holds
  | e :: rest => (e.evaluate r).and (evaluateAll r rest)

def evaluateAny (r : Record) : List Expr → Truth
  | [] => .fails
  | e :: rest => (e.evaluate r).or (evaluateAny r rest)

end

end Expr

end StoreQuery
