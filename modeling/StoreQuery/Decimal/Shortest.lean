/-!
The shortest decimal that reads back as a given double. A positive double is `m · 2 ^ q`; the reals
that round to it lie between the midpoints to its two neighbours, and include these when `m` is
even. For one digit, two digits and so on, the two multiples of the decimal unit around the double
are held against that interval, in whole numbers.
-/

namespace StoreQuery

structure Decimal where
  digits : Nat
  exponent : Int

namespace Decimal

def binaryParts (bits : UInt64) : Nat × Int :=
  let fraction : Nat := bits.toNat % 1 <<< 52
  let biased : Nat := bits.toNat >>> 52 % 1 <<< 11
  if biased = 0 then (fraction, -1074) else (fraction + 1 <<< 52, (biased : Int) - 1075)

def scale (b d : Int) : Nat × Nat :=
  (1 <<< b.toNat * Nat.pow 10 (-d).toNat, 1 <<< (-b).toNat * Nat.pow 10 d.toNat)

def leading (m : Nat) (q : Int) : Int :=
  let guess := ((m.log2 : Int) + q) * 30103 / 100000
  let (num, den) := scale q (guess + 1)
  if den ≤ m * num then guess + 1 else guess

/-- The four-fold lower end, value and upper end of the interval that rounds to `m · 2 ^ q`. -/
def interval (m : Nat) (q : Int) : Nat × Nat × Nat :=
  (if m = 1 <<< 52 ∧ -1074 < q then 4 * m - 1 else 4 * m - 2, 4 * m, 4 * m + 2)

/-- The multiple of `10 ^ d` nearest to `m · 2 ^ q` among those that round to it; ties go to the
even digit. -/
def onGrid (m : Nat) (q d : Int) : Option Nat :=
  let (num, den) := scale (q - 2) d
  let (low, mid, high) := interval m q
  let below : Nat := mid * num / den
  let above : Nat := below + 1
  let reads (c : Nat) : Bool :=
    if m % 2 = 0 then low * num ≤ c * den ∧ c * den ≤ high * num
    else low * num < c * den ∧ c * den < high * num
  let gapBelow := mid * num - below * den
  let gapAbove := above * den - mid * num
  match reads below, reads above with
  | true, true =>
    if gapBelow < gapAbove then some below
    else if gapAbove < gapBelow then some above
    else if below % 2 = 0 then some below else some above
  | true, false => some below
  | false, true => some above
  | false, false => none

def stripZeros (fuel : Nat) (x : Decimal) : Decimal :=
  match fuel with
  | 0 => x
  | fuel + 1 =>
    if x.digits ≠ 0 ∧ x.digits % 10 = 0 then stripZeros fuel ⟨x.digits / 10, x.exponent + 1⟩ else x

/-- Seventeen digits always suffice, so the search ends within them. -/
def shortestFrom (m : Nat) (q top : Int) (count : Nat) : Nat → Decimal
  | 0 => ⟨0, 0⟩
  | fuel + 1 =>
    let d := top - count
    match onGrid m q d with
    | some c => if c = 0 then shortestFrom m q top (count + 1) fuel else stripZeros 20 ⟨c, d⟩
    | none => shortestFrom m q top (count + 1) fuel

def shortest (x : Float) : Decimal :=
  let (m, q) := binaryParts x.toBits
  if m = 0 then ⟨0, 0⟩ else shortestFrom m q (leading m q) 0 18

end Decimal

end StoreQuery
