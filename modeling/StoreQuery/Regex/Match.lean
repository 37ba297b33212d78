import StoreQuery.Regex.Basic

/-!
Matching by sets of positions. An expression takes the set of positions at which a match may begin
to the set of those at which it may end, so that greedy and lazy repetition are the same thing. A
set is a number whose bit `i` stands for the position before the character `i`.
-/

namespace StoreQuery

inductive Moves
  | stay (allowed : Nat)
  | step (allowed : Nat)
  | seq (a b : Moves)
  | alt (a b : Moves)
  | repeat (m : Moves) (least : Nat) (most : Option Nat)

namespace Moves

def exactly (step : Nat → Nat) : Nat → Nat → Nat
  | 0, at_ => at_
  | n + 1, at_ =>
    let next := step at_
    if next = at_ then at_ else exactly step n next

def upTo (step : Nat → Nat) : Nat → Nat → Nat
  | 0, at_ => at_
  | n + 1, at_ =>
    let next := at_ ||| step at_
    if next = at_ then at_ else upTo step n next

/-- A text of `size` characters has `size + 1` positions, so `size` rounds of an unbounded
repetition reach all there are. -/
def run (size : Nat) : Moves → Nat → Nat
  | .stay allowed, at_ => at_ &&& allowed
  | .step allowed, at_ => (at_ &&& allowed) <<< 1
  | .seq a b, at_ => run size b (run size a at_)
  | .alt a b, at_ => run size a at_ ||| run size b at_
  | .repeat m least most, at_ =>
    let rounds := match most with
      | some most => most - least
      | none => size
    upTo (run size m) rounds (exactly (run size m) least at_)

end Moves

namespace Regex

def allPositions (size : Nat) : Nat := 1 <<< (size + 1) - 1

def positionsOf (s : CharSet) : List Char → Nat
  | [] => 0
  | c :: rest => positionsOf s rest <<< 1 ||| (if s.contains c then 1 else 0)

def positionsAt (a : Assertion) (before : Option Char) : List Char → Nat
  | [] => if a.holds before none then 1 else 0
  | c :: rest =>
    positionsAt a (some c) rest <<< 1 ||| (if a.holds before (some c) then 1 else 0)

def moves (text : List Char) : Regex → Moves
  | .empty => .stay (allPositions text.length)
  | .set s => .step (positionsOf s text)
  | .look a => .stay (positionsAt a none text)
  | .seq a b => .seq (moves text a) (moves text b)
  | .alt a b => .alt (moves text a) (moves text b)
  | .repeat r least most => .repeat (moves text r) least most

def isMatch (r : Regex) (text : String) : Bool :=
  let size := text.toList.length
  (r.moves text.toList).run size (allPositions size) != 0

end Regex

end StoreQuery
