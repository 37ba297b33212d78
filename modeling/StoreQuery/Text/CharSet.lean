import StoreQuery.Text.CharClass

/-!
Sets of characters as ranges of codes. What an operation yields is in normal form: the ranges
ascend and do not touch, and none of them holds a surrogate, which is no character.
-/

namespace StoreQuery

structure CharSet where
  ranges : List (Nat × Nat)
  deriving DecidableEq

namespace CharSet

def hasCode (s : CharSet) (code : Nat) : Bool :=
  s.ranges.any fun (first, last) => first ≤ code && code ≤ last

def contains (s : CharSet) (c : Char) : Bool := s.hasCode c.toNat

def empty : CharSet := ⟨[]⟩

def single (c : Char) : CharSet := ⟨[(c.toNat, c.toNat)]⟩

def lastCode : Nat := 0x10FFFF

def surrogates : Nat × Nat := (0xD800, 0xDFFF)

def join : List (Nat × Nat) → List (Nat × Nat)
  | [] => []
  | [r] => [r]
  | (first, last) :: (next, end_) :: rest =>
    if next ≤ last + 1 then join ((first, max last end_) :: rest)
    else (first, last) :: join ((next, end_) :: rest)
termination_by rs => rs.length

def normal (ranges : List (Nat × Nat)) : List (Nat × Nat) :=
  join (ranges.mergeSort fun a b => a.1 ≤ b.1)

def gaps (start : Nat) : List (Nat × Nat) → List (Nat × Nat)
  | [] => if start ≤ lastCode then [(start, lastCode)] else []
  | (first, last) :: rest =>
    if start < first then (start, first - 1) :: gaps (last + 1) rest else gaps (last + 1) rest

def compl (s : CharSet) : CharSet := ⟨gaps 0 (normal (surrogates :: s.ranges))⟩

def all : CharSet := compl empty

def union (s t : CharSet) : CharSet := ⟨normal (s.ranges ++ t.ranges)⟩

def inter (s t : CharSet) : CharSet := compl (s.compl.union t.compl)

def diff (s t : CharSet) : CharSet := compl (s.compl.union t)

def symmDiff (s t : CharSet) : CharSet := (s.diff t).union (t.diff s)

def ofRanges (ranges : List (Nat × Nat)) : CharSet := ⟨normal ranges⟩

def range (first last : Char) : CharSet :=
  ⟨[(first.toNat, min last.toNat (surrogates.1 - 1)),
    (max first.toNat (surrogates.2 + 1), last.toNat)].filter fun r => r.1 ≤ r.2⟩

def ofChars (cs : List Char) : CharSet := ofRanges (cs.map fun c => (c.toNat, c.toNat))

def unionAll (sets : List CharSet) : CharSet := ofRanges (sets.flatMap CharSet.ranges)

def only? (s : CharSet) : Option Char :=
  match s.ranges with
  | [(first, last)] => if first = last then some (Char.ofNat first) else none
  | _ => none

def isAscii (s : CharSet) : Bool := s.ranges.all (·.2 < 0x80)

def folded (s : CharSet) : CharSet :=
  let targets := Text.foldPairs.filterMap fun (c, folded) =>
    if s.hasCode c then some (folded, folded) else none
  let s := ofRanges (s.ranges ++ targets)
  let sources := Text.foldPairs.filterMap fun (c, folded) =>
    if s.hasCode folded then some (c, c) else none
  ofRanges (s.ranges ++ sources)

def foldedAscii (s : CharSet) : CharSet :=
  s.union (ofRanges (s.ranges.flatMap fun (first, last) =>
    [(max first 0x41 + 0x20, min last 0x5A + 0x20),
      (max first 0x61 - 0x20, min last 0x7A - 0x20)].filter fun r => r.1 ≤ r.2))

/-- Reads ranges in hexadecimal, given the first code of the current range and the code being
read. -/
def readRanges (first code : Option Nat) : List Char → List (Nat × Nat)
  | [] => current
  | c :: rest =>
    if c = '-' then readRanges code none rest
    else if c.isDigit then
      readRanges first (some (code.getD 0 * 16 + (c.toNat - '0'.toNat))) rest
    else if 'A' ≤ c ∧ c ≤ 'F' then
      readRanges first (some (code.getD 0 * 16 + (c.toNat - 'A'.toNat + 10))) rest
    else current ++ readRanges none none rest
where
  current : List (Nat × Nat) :=
    match code with
    | some last => [(first.getD last, last)]
    | none => []

def ofText (text : String) : CharSet := ⟨readRanges none none text.toList⟩

end CharSet

end StoreQuery
