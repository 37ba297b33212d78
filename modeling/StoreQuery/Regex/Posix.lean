import StoreQuery.Regex.Parse

/-!
Basic patterns, in which only `\ . * $ [ ^` are special, and their extended form.
-/

namespace StoreQuery.Regex

def isBasicSpecial (c : Char) : Bool := ['\\', '.', '*', '$', '[', '^'].contains c

def escapeBasic (text : List Char) : List Char :=
  text.flatMap fun c => if isBasicSpecial c then ['\\', c] else [c]

def literal (c : Char) : List Char := if isMeta c then ['\\', c] else [c]

/-- How far a set in brackets goes, its closing bracket included. A closing bracket that comes
first is a member. -/
def bracketLength? (cs : List Char) : Option Nat :=
  let caret := if cs.head? = some '^' then 1 else 0
  let first := if (cs.drop caret).head? = some ']' then 1 else 0
  ((cs.drop (caret + first)).idxOf? ']').map (caret + first + · + 1)

/-- The extended form of a basic pattern. `atStart` holds before the first character, `repeatable`
after what a star can repeat, and `copied` counts the characters of a set still to be taken over. -/
def extend (atStart repeatable : Bool) (copied : Nat) : List Char → List Char
  | [] => []
  | '\\' :: c :: rest =>
    match copied with
    | copied + 1 => '\\' :: extend false true copied (c :: rest)
    | 0 => literal c ++ extend false true 0 rest
  | c :: rest =>
    match copied with
    | copied + 1 => c :: extend false true copied rest
    | 0 =>
      if c = '^' ∧ atStart then '^' :: extend false false 0 rest
      else if c = '$' ∧ rest = [] then ['$']
      else if c = '.' then '.' :: extend false true 0 rest
      else if c = '*' ∧ repeatable then '*' :: extend false false 0 rest
      else if c = '[' then
        match bracketLength? rest with
        | some n => '[' :: extend false true n rest
        | none => literal c ++ extend false true 0 rest
      else literal c ++ extend false true 0 rest

def basicToExtended (pattern : List Char) : List Char := extend true false 0 pattern

end StoreQuery.Regex
