import StoreQuery.Json.Basic

namespace StoreQuery.Text

def digit (c : Char) : Nat := c.toNat - '0'.toNat

def natOfDigits (digits : List Char) : Nat := digits.foldl (fun n c => n * 10 + digit c) 0

def readNat? (digits : List Char) : Option Nat :=
  if digits ≠ [] ∧ digits.all Char.isDigit then some (natOfDigits digits) else none

def readInt? : List Char → Option Int
  | '-' :: digits => (readNat? digits).map fun n => -(n : Int)
  | '+' :: digits => (readNat? digits).map Int.ofNat
  | digits => (readNat? digits).map Int.ofNat

def readInt64? (s : List Char) : Option Int64 := (readInt? s).bind int64?

/-- A minus is refused, even before zero. -/
def readUInt64? : List Char → Option UInt64
  | '+' :: digits => (readNat? digits).bind fun n => uint64? n
  | digits => (readNat? digits).bind fun n => uint64? n

end StoreQuery.Text
