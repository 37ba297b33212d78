import StoreQuery.Text.Integer

/-!
Reading a number. Digits are taken up while they fit 64 bits, and the rest of them only move the
exponent; the result is scaled by one power of ten, so a long literal may be off by its last bit.
-/

namespace StoreQuery.Decimal

open Text

def takeWhole (acc : Nat) : List Char → Nat × Nat
  | [] => (acc, 0)
  | c :: rest =>
    if acc * 10 + digit c < UInt64.size then takeWhole (acc * 10 + digit c) rest
    else (acc, rest.length + 1)

def takeFraction (acc : Nat) : List Char → Nat × Nat
  | [] => (acc, 0)
  | c :: rest =>
    if acc * 10 + digit c < UInt64.size then
      let (value, used) := takeFraction (acc * 10 + digit c) rest
      (value, used + 1)
    else (acc, 0)

def powerOfTen (n : Nat) : Float := .ofScientific 1 false n

def scaled? (significand : Nat) (exponent : Int) : Option Float :=
  let x := Float.ofNat significand
  if 308 < exponent then
    if significand = 0 then some x else none
  else if 0 ≤ exponent then
    let y := x * powerOfTen exponent.toNat
    if y.isInf then none else some y
  else if -308 ≤ exponent then
    some (x / powerOfTen (-exponent).toNat)
  else if -616 ≤ exponent then
    some (x / powerOfTen 308 / powerOfTen (-exponent - 308).toNat)
  else some 0

structure Literal where
  negative : Bool
  whole : List Char
  fraction : List Char
  exponent : Option Int

def exponent? : List Char → Option (Option Int)
  | [] => some none
  | mark :: rest =>
    if mark = 'e' ∨ mark = 'E' then
      let (negative, digits) := match rest with
        | '-' :: digits => (true, digits)
        | '+' :: digits => (false, digits)
        | digits => (false, digits)
      if digits ≠ [] ∧ digits.all Char.isDigit then
        some (some (if negative then -(natOfDigits digits : Int) else natOfDigits digits))
      else none
    else none

def magnitude? (negative : Bool) (text : List Char) : Option Literal :=
  let digits := text.takeWhile Char.isDigit
  if digits = [] ∨ (digits.head? = some '0' ∧ 1 < digits.length) then none
  else match text.dropWhile Char.isDigit with
    | '.' :: tail =>
      let fraction := tail.takeWhile Char.isDigit
      if fraction = [] then none
      else (exponent? (tail.dropWhile Char.isDigit)).map (Literal.mk negative digits fraction)
    | rest => (exponent? rest).map (Literal.mk negative digits [])

namespace Literal

def ofChars? : List Char → Option Literal
  | '-' :: text => magnitude? true text
  | text => magnitude? false text

def signed (l : Literal) (x : Float) : Float := if l.negative then -x else x

/-- Without fraction and exponent; minus zero and what is out of range are doubles. -/
def integer? (l : Literal) : Option Number :=
  match takeWhole 0 l.whole with
  | (value, 0) =>
    if l.negative then
      if 0 < value ∧ value ≤ 1 <<< 63 then some (.int (-value))
      else some (.float (-Float.ofNat value))
    else some (.int value)
  | (value, dropped) => (scaled? value dropped).map fun x => .float (l.signed x)

def value? (l : Literal) : Option Number :=
  if l.fraction = [] ∧ l.exponent.isNone then l.integer?
  else do
    let (wholePart, dropped) := takeWhole 0 l.whole
    let (value, used) := takeFraction wholePart l.fraction
    let x ← scaled? value (dropped - used + l.exponent.getD 0)
    return .float (l.signed x)

end Literal

end StoreQuery.Decimal
