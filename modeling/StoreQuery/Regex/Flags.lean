namespace StoreQuery.Regex

/-- White space in a pattern is dealt with where it is split into tokens, so no flag here. -/
structure Flags where
  icase : Bool
  dotAll : Bool := false
  multiLine : Bool := false
  returns : Bool := false
  unicode : Bool := true
  swapGreed : Bool := false

structure FlagChange where
  icase : Option Bool := none
  dotAll : Option Bool := none
  multiLine : Option Bool := none
  returns : Option Bool := none
  unicode : Option Bool := none
  swapGreed : Option Bool := none
  spaced : Option Bool := none

def Flags.apply (f : Flags) (change : FlagChange) : Flags where
  icase := change.icase.getD f.icase
  dotAll := change.dotAll.getD f.dotAll
  multiLine := change.multiLine.getD f.multiLine
  returns := change.returns.getD f.returns
  unicode := change.unicode.getD f.unicode
  swapGreed := change.swapGreed.getD f.swapGreed

namespace FlagChange

def set? (change : FlagChange) (value : Bool) : Char → Option FlagChange
  | 'i' => some { change with icase := some value }
  | 's' => some { change with dotAll := some value }
  | 'm' => some { change with multiLine := some value }
  | 'R' => some { change with returns := some value }
  | 'u' => some { change with unicode := some value }
  | 'U' => some { change with swapGreed := some value }
  | 'x' => some { change with spaced := some value }
  | _ => none

/-- The letters of a flag group, each at most once; those after a hyphen are switched off, and there
is at least one of them. -/
def read? (negated : Bool) (seen : List Char) (change : FlagChange) :
    List Char → Option FlagChange
  | [] => if seen.head? = some '-' then none else some change
  | c :: rest =>
    if seen.contains c then none
    else if c = '-' then read? true (c :: seen) change rest
    else (change.set? (!negated) c).bind fun change => read? negated (c :: seen) change rest

def ofLetters? (letters : List Char) : Option FlagChange := read? false [] {} letters

end FlagChange

end StoreQuery.Regex
