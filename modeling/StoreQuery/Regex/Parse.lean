import StoreQuery.Regex.Token
import StoreQuery.Regex.Program

/-!
Patterns in extended syntax. Tokens are put together over a stack of open groups, into what a
pattern matches and, side by side, how it is laid out.
-/

namespace StoreQuery.Regex

structure Part where
  regex : Regex
  outline : Outline
  depth : Nat

namespace Part

def ofSet (s : CharSet) (depth : Nat) : Part := ⟨.set s, .ofSet s, depth⟩

def look (a : Assertion) : Part := ⟨.look a, .look a, 0⟩

def repeated (p : Part) (least : Nat) (most : Option Nat) (isLazy : Bool) : Part :=
  ⟨.repeat p.regex least most, .ofRepeat p.outline least most isLazy, p.depth + 1⟩

def group (p : Part) (index : Option Nat) : Part :=
  ⟨p.regex, (index.map (Outline.capture · p.outline)).getD p.outline, p.depth + 1⟩

def deepest (ps : List Part) : Nat := (ps.map Part.depth).foldl max 0

def branches (first : Part) (rest : List Part) : Part :=
  match rest with
  | [] => first
  | rest =>
    ⟨.ofBranches first.regex (rest.map Part.regex), .ofBranches ((first :: rest).map Part.outline),
      deepest (first :: rest) + 1⟩

def check (p : Part) : Option Part := if p.depth ≤ 250 then some p else none

end Part

inductive Piece
  | part (p : Part)
  | flags

def Piece.part? : Piece → Option Part
  | .part p => some p
  | .flags => none

/-- An open group: its index, the flags around it, its finished branches and the pieces of the
current one, both in reverse. -/
structure Group where
  index : Option Nat
  outer : Flags
  branches : List Part
  pieces : List Piece

namespace Group

/-- Several pieces in a sequence are one level deeper than each of them. -/
def sequence (g : Group) : Part :=
  let parts := g.pieces.reverse.filterMap Piece.part?
  let depth := if 2 ≤ g.pieces.length then Part.deepest parts + 1 else Part.deepest parts
  ⟨ofSequence (parts.map Part.regex), .ofSequence (parts.map Part.outline), depth⟩

def close (g : Group) : Part :=
  match (g.sequence :: g.branches).reverse with
  | [] => g.sequence
  | first :: rest => .branches first rest

def push (g : Group) (p : Piece) : Group := { g with pieces := p :: g.pieces }

end Group

structure Reader where
  flags : Flags
  count : Nat
  current : Group
  around : List Group

namespace Reader

def ofFlags (flags : Flags) : Reader := ⟨flags, 0, ⟨none, flags, [], []⟩, []⟩

def push (s : Reader) (p : Part) : Option Reader :=
  p.check.map fun p => { s with current := s.current.push (.part p) }

def pushSet (s : Reader) (set : CharSet) : Option Reader := s.push (.ofSet set 0)

/-- Outside Unicode a character beyond ASCII has no case, and a byte beyond it is none. -/
def char? (f : Flags) (isByte : Bool) (c : Char) : Option CharSet :=
  if f.unicode || c.toNat < 0x80 then some (f.fold (.single c))
  else if isByte then none
  else some (.single c)

def any? (f : Flags) : Option CharSet :=
  if !f.unicode then none
  else if f.dotAll then some .all
  else if f.returns then some (CharSet.ofChars ['\n', '\r']).compl
  else some (CharSet.single '\n').compl

def openGroup (s : Reader) (kind : GroupKind) (change : FlagChange) : Reader :=
  let (index, count) := match kind with
    | .plain => (none, s.count)
    | _ => (some (s.count + 1), s.count + 1)
  ⟨s.flags.apply change, count, ⟨index, s.flags, [], []⟩, s.current :: s.around⟩

def step? (s : Reader) : Token → Option Reader
  | .char c => (char? s.flags false c).bind s.pushSet
  | .byte c => (char? s.flags true c).bind s.pushSet
  | .any => (any? s.flags).bind s.pushSet
  | .shorthand a negated => (s.flags.shorthand? a negated).bind s.pushSet
  | .property a negated => (s.flags.property? a negated).bind s.pushSet
  | .bracket b depth => (s.flags.bracket? b).bind fun set => s.push (.ofSet set depth)
  | .caret => s.push (.look (if s.flags.multiLine then .lineStart s.flags.returns else .textStart))
  | .dollar => s.push (.look (if s.flags.multiLine then .lineEnd s.flags.returns else .textEnd))
  | .look a => s.push (.look a)
  | .edge e => s.push (.look (.word e (!s.flags.unicode)))
  | .bar =>
    let g := s.current
    some { s with current := ⟨g.index, g.outer, g.sequence :: g.branches, []⟩ }
  | .openGroup kind change => some (s.openGroup kind change)
  | .closeGroup =>
    match s.around with
    | outer :: around =>
      { s with flags := s.current.outer, current := outer, around }.push
        (s.current.close.group s.current.index)
    | [] => none
  | .setFlags change =>
    some { s with flags := s.flags.apply change, current := s.current.push .flags }
  | .repeat least most isLazy =>
    match s.current.pieces with
    | .part p :: pieces =>
      { s with current := { s.current with pieces } }.push
        (p.repeated least most (isLazy != s.flags.swapGreed))
    | _ => none

end Reader

def groupName? : Token → Option (List Char)
  | .openGroup (.named name) _ => some name
  | _ => none

def isDistinct : List (List Char) → Bool
  | [] => true
  | name :: rest => !rest.contains name && isDistinct rest

def Part.ofTokens? (icase : Bool) (tokens : List Token) : Option Part := do
  if !isDistinct (tokens.filterMap groupName?) then none
  let s ← tokens.foldlM Reader.step? (.ofFlags { icase })
  match s.around with
  | [] => s.current.close.check
  | _ => none

def Part.ofPattern? (icase : Bool) (pattern : List Char) : Option Part :=
  (tokens? ⟨false, []⟩ pattern).bind (Part.ofTokens? icase)

def parse? (pattern : List Char) (icase : Bool) : Option Regex :=
  ((Part.ofPattern? icase pattern).filter (·.outline.fits)).map Part.regex

end StoreQuery.Regex
