import StoreQuery.Regex.Escape
import StoreQuery.Regex.Flags

namespace StoreQuery.Regex

inductive SetOp
  | inter
  | diff
  | symmDiff

def SetOp.apply : SetOp → CharSet → CharSet → CharSet
  | .inter, a, b => a.inter b
  | .diff, a, b => a.diff b
  | .symmDiff, a, b => a.symmDiff b

inductive Bracket
  | empty
  | range (first last : Char)
  | shorthand (s : Shorthand) (negated : Bool)
  | property (s : CharSet) (negated : Bool)
  | named (ranges : List (Char × Char)) (negated : Bool)
  | union (a b : Bracket)
  | op (o : SetOp) (a b : Bracket)
  | nested (b : Bracket) (negated : Bool)

namespace Flags

def fold (f : Flags) (s : CharSet) : CharSet :=
  if f.icase then if f.unicode then s.folded else s.foldedAscii else s

/-- Without Unicode a set that is not of ASCII alone would hold parts of characters. -/
def negate? (f : Flags) (negated : Bool) (s : CharSet) : Option CharSet :=
  if negated then if f.unicode then some s.compl else none else some s

def shorthand? (f : Flags) (s : Shorthand) (negated : Bool) : Option CharSet :=
  f.negate? negated (s.toSet f.unicode)

def property? (f : Flags) (s : CharSet) (negated : Bool) : Option CharSet :=
  if f.unicode then f.negate? negated (f.fold s) else none

/-- The ranges of a set. Case is folded before a set is negated or combined by an operator. -/
def bracketRanges? (f : Flags) : Bracket → Option (List (Nat × Nat))
  | .empty => some []
  | .range first last =>
    if f.unicode || last.toNat < 0x80 then some (CharSet.range first last).ranges else none
  | .shorthand s negated => (f.shorthand? s negated).map CharSet.ranges
  | .property s negated => (f.property? s negated).map CharSet.ranges
  | .named ranges negated =>
    (f.negate? negated (f.fold (.unionAll (ranges.map fun (first, last) => .range first last)))).map
      CharSet.ranges
  | .union a b => do return (← bracketRanges? f a) ++ (← bracketRanges? f b)
  | .op o a b => do
    let a ← bracketRanges? f a
    let b ← bracketRanges? f b
    return (o.apply (f.fold (.ofRanges a)) (f.fold (.ofRanges b))).ranges
  | .nested b negated => do
    return (← f.negate? negated (f.fold (.ofRanges (← bracketRanges? f b)))).ranges

def bracket? (f : Flags) (b : Bracket) : Option CharSet :=
  (f.bracketRanges? b).map CharSet.ofRanges

end Flags

def asciiClass? (name : List Char) : Option (List (Char × Char)) :=
  match String.ofList name with
  | "alnum" => some [('0', '9'), ('A', 'Z'), ('a', 'z')]
  | "alpha" => some [('A', 'Z'), ('a', 'z')]
  | "ascii" => some [('\x00', '\x7f')]
  | "blank" => some [('\t', '\t'), (' ', ' ')]
  | "cntrl" => some [('\x00', '\x1f'), ('\x7f', '\x7f')]
  | "digit" => some [('0', '9')]
  | "graph" => some [('!', '~')]
  | "lower" => some [('a', 'z')]
  | "print" => some [(' ', '~')]
  | "punct" => some [('!', '/'), (':', '@'), ('[', '\x60'), ('\x7b', '~')]
  | "space" => some [('\t', '\r'), (' ', ' ')]
  | "upper" => some [('A', 'Z')]
  | "word" => some [('0', '9'), ('A', 'Z'), ('_', '_'), ('a', 'z')]
  | "xdigit" => some [('0', '9'), ('A', 'F'), ('a', 'f')]
  | _ => none

/-- A named class, which begins with a colon after its bracket; anything else opens a nested set. -/
def namedClass? : List Char → Option (Bracket × List Char)
  | ':' :: rest =>
    let (negated, rest) := match rest with
      | '^' :: rest => (true, rest)
      | rest => (false, rest)
    match rest.dropWhile (· ≠ ':') with
    | ':' :: ']' :: after =>
      (asciiClass? (rest.takeWhile (· ≠ ':'))).map fun ranges => (.named ranges negated, after)
    | _ => none
  | _ => none

def member? (spaced : Bool) : List Char → Option (Escape × List Char)
  | [] => none
  | '\\' :: rest => escape? spaced rest
  | c :: rest => some (.literal c, rest)

def Escape.char? : Escape → Option Char
  | .literal c => some c
  | .byte c => some c
  | _ => none

def Escape.alone? : Escape → Option Bracket
  | .literal c => some (.range c c)
  | .byte c => some (.range c c)
  | .shorthand s negated => some (.shorthand s negated)
  | .property s negated => some (.property s negated)
  | .look _ => none
  | .edge _ => none

/-- One member or a range of them. A hyphen is a member itself before the closing bracket, and
part of an operator before another hyphen. -/
def memberOrRange? (spaced : Bool) (cs : List Char) : Option (Bracket × List Char) := do
  let (first, rest) ← member? spaced cs
  match skip spaced rest with
  | [] => none
  | '-' :: tail =>
    let next := peekSpaced? spaced tail
    if next = some ']' ∨ next = some '-' then return (← first.alone?, '-' :: tail)
    else
      let (last, rest) ← member? spaced (skip spaced tail)
      let first ← first.char?
      let last ← last.char?
      if first ≤ last then return (.range first last, rest) else none
  | rest => return (← first.alone?, rest)

/-- A set whose closing bracket has not come yet: members so far, how many they are and how deep
they nest, and what stands left of the last operator. -/
structure OpenSet where
  negated : Bool
  left : Option (SetOp × Bracket × Nat)
  members : Bracket
  count : Nat
  deepest : Nat

namespace OpenSet

def add (s : OpenSet) (b : Bracket) (depth : Nat) : OpenSet :=
  { s with members := .union b s.members, count := s.count + 1, deepest := max s.deepest depth }

/-- Operators take everything on their left as one operand. Several members are one level deeper
than each of them, and so are the sides of an operator. -/
def operand (s : OpenSet) : Bracket × Nat :=
  let depth := if 2 ≤ s.count then s.deepest + 1 else s.deepest
  match s.left with
  | some (o, a, aDepth) => (.op o a s.members, max aDepth depth + 1)
  | none => (s.members, depth)

def operator (s : OpenSet) (o : SetOp) : OpenSet :=
  { s with left := some (o, s.operand), members := .empty, count := 0, deepest := 0 }

def close (s : OpenSet) : Bracket × Nat := (.nested s.operand.1 s.negated, s.operand.2 + 1)

def hyphens (spaced : Bool) (cs : List Char) : List Char × List Char :=
  takeAllSpaced spaced (· = '-') cs

def ofStart (spaced : Bool) (cs : List Char) : OpenSet × List Char :=
  let (negated, cs) := match skip spaced cs with
    | '^' :: rest => (true, skip spaced rest)
    | cs => (false, cs)
  let start : OpenSet := ⟨negated, none, .empty, 0, 0⟩
  match hyphens spaced cs with
  | ([], ']' :: rest) => (start.add (.range ']' ']') 0, skip spaced rest)
  | (hyphens, rest) => (hyphens.foldl (fun s c => s.add (.range c c) 0) start, rest)

end OpenSet

def bracket? (spaced : Bool) (current : OpenSet) (around : List OpenSet) (cs : List Char) :
    Option ((Bracket × Nat) × List Char) :=
  match _h : skip spaced cs with
  | [] => none
  | ']' :: rest =>
    match around with
    | [] => some (current.close, rest)
    | outer :: around =>
      bracket? spaced (outer.add current.close.1 current.close.2) around rest
  | '[' :: rest =>
    match namedClass? rest with
    | some (named, after) =>
      if after.length ≤ rest.length then bracket? spaced (current.add named 0) around after
      else none
    | none =>
      let (inner, after) := OpenSet.ofStart spaced rest
      if after.length ≤ rest.length then bracket? spaced inner (current :: around) after else none
  | '&' :: '&' :: rest => bracket? spaced (current.operator .inter) around rest
  | '-' :: '-' :: rest => bracket? spaced (current.operator .diff) around rest
  | '~' :: '~' :: rest => bracket? spaced (current.operator .symmDiff) around rest
  | cs' =>
    match memberOrRange? spaced cs' with
    | some (b, after) =>
      if after.length < cs'.length then bracket? spaced (current.add b 0) around after else none
    | none => none
termination_by cs.length
decreasing_by all_goals have := length_skip_le spaced cs; grind

end StoreQuery.Regex
