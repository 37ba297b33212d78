import StoreQuery.Json.Basic
import StoreQuery.Decimal.Shortest

/-!
The compact text of a JSON value. Whole numbers are written exactly. A double has the fewest digits
that read back; it is positional while its leading digit stands between the fifth decimal place and
the sixteenth whole place, and always keeps a fraction there.
-/

namespace StoreQuery

def Decimal.pointed : List Char → String
  | [] => "0"
  | [c] => String.ofList [c]
  | c :: rest => String.ofList (c :: '.' :: rest)

def Decimal.toText (x : Decimal) : String :=
  let digits := (toString x.digits).toList
  let lead := x.exponent + digits.length - 1
  if x.digits = 0 then "0.0"
  else if -5 ≤ lead ∧ lead ≤ 15 then
    if 0 ≤ x.exponent then
      String.ofList (digits ++ List.replicate x.exponent.toNat '0' ++ ['.', '0'])
    else if 0 ≤ lead then
      String.ofList (digits.take (lead.toNat + 1) ++ '.' :: digits.drop (lead.toNat + 1))
    else
      String.ofList ('0' :: '.' :: List.replicate (-lead - 1).toNat '0' ++ digits)
  else
    pointed digits ++ "e" ++ (if 0 ≤ lead then "+" else "") ++ toString lead

def floatText (x : Float) : String :=
  if x.isNaN || x.isInf then "null"
  else
    (if x.toBits ≥ 0x8000000000000000 then "-" else "") ++ (Decimal.shortest x).toText

def Number.toText : Number → String
  | .int n => toString n
  | .float x => floatText x

namespace Json

def hexDigit (n : Nat) : Char :=
  if n < 10 then Char.ofNat ('0'.toNat + n) else Char.ofNat ('a'.toNat + n - 10)

/-- Only quotes, backslashes and characters below the space are escaped. -/
def escapeChar (c : Char) : List Char :=
  match c with
  | '"' => ['\\', '"']
  | '\\' => ['\\', '\\']
  | '\n' => ['\\', 'n']
  | '\r' => ['\\', 'r']
  | '\t' => ['\\', 't']
  | '\x08' => ['\\', 'b']
  | '\x0c' => ['\\', 'f']
  | c =>
    if c.toNat < 0x20 then ['\\', 'u', '0', '0', hexDigit (c.toNat / 16), hexDigit (c.toNat % 16)]
    else [c]

def quote (s : String) : String :=
  String.ofList ('"' :: s.toList.flatMap escapeChar ++ ['"'])

mutual

def toText : Json → String
  | .null => "null"
  | .bool b => if b then "true" else "false"
  | .num n => n.toText
  | .str s => quote s
  | .arr items => "[" ++ itemsText items ++ "]"
  | .obj fields => "\x7b" ++ fieldsText fields ++ "\x7d"

def itemsText : List Json → String
  | [] => ""
  | [item] => toText item
  | item :: rest => toText item ++ "," ++ itemsText rest

def fieldsText : List (String × Json) → String
  | [] => ""
  | [(name, value)] => quote name ++ ":" ++ toText value
  | (name, value) :: rest => quote name ++ ":" ++ toText value ++ "," ++ fieldsText rest

end

/-- The string under which an object stores the entry for a key; lists, maps and null have none. -/
def keyText? : Json → Option String
  | .str s => some s
  | .num n => some n.toText
  | .bool b => some (if b then "true" else "false")
  | _ => none

end Json

end StoreQuery
