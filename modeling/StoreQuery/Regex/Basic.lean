import StoreQuery.Text.CharSet

namespace StoreQuery

inductive WordEdge
  | boundary
  | notBoundary
  | start
  | stop
  | startHalf
  | stopHalf
  deriving DecidableEq

def WordEdge.holds (before after : Bool) : WordEdge → Bool
  | .boundary => before != after
  | .notBoundary => before == after
  | .start => !before && after
  | .stop => before && !after
  | .startHalf => !before
  | .stopHalf => !after

inductive Assertion
  | textStart
  | textEnd
  | lineStart (returns : Bool)
  | lineEnd (returns : Bool)
  | word (edge : WordEdge) (ascii : Bool)
  deriving DecidableEq

namespace Assertion

def inWord (ascii : Bool) : Option Char → Bool
  | some c => if ascii then c.isAlphanum || c == '_' else Text.isWord c
  | none => false

/-- Lines end with a line feed; where `returns` is set, with a carriage return as well, or with both
of them as one end. -/
def holds (before after : Option Char) : Assertion → Bool
  | .textStart => before.isNone
  | .textEnd => after.isNone
  | .lineStart returns =>
    before.isNone || before == some '\n'
      || (returns && before == some '\r' && after != some '\n')
  | .lineEnd returns =>
    after.isNone || (after == some '\n' && !(returns && before == some '\r'))
      || (returns && after == some '\r')
  | .word edge ascii => edge.holds (inWord ascii before) (inWord ascii after)

end Assertion

inductive Regex
  | empty
  | set (s : CharSet)
  | look (a : Assertion)
  | seq (a b : Regex)
  | alt (a b : Regex)
  | repeat (r : Regex) (least : Nat) (most : Option Nat)

namespace Regex

def ofSequence (rs : List Regex) : Regex := rs.foldr .seq .empty

def ofBranches (r : Regex) : List Regex → Regex
  | [] => r
  | next :: rest => .alt r (ofBranches next rest)

end Regex

end StoreQuery
