import StoreQuery.Regex.Basic

/-!
A pattern as it is laid out in a program: adjacent characters become one literal, branches of one
character each become a set, and what repeats nothing or once is left out.
-/

namespace StoreQuery.Regex

/-- A set has no member or more than one, a literal has characters, and there are at least two parts
or branches. -/
inductive Outline
  | empty
  | literal (text : List Char)
  | set (s : CharSet)
  | look (a : Assertion)
  | repeat (o : Outline) (least : Nat) (most : Option Nat) (isLazy : Bool)
  | capture (index : Nat) (o : Outline)
  | sequence (parts : List Outline)
  | branches (all : List Outline)

namespace Outline

def utf8Size (c : Char) : Nat := c.utf8Size

mutual

/-- Whether some match takes up characters. A set without members counts as one that might. -/
def canMove : Outline → Bool
  | .empty => false
  | .literal _ => true
  | .set _ => true
  | .look _ => false
  | .repeat o _ _ _ => canMove o
  | .capture _ o => canMove o
  | .sequence parts => anyMoves parts
  | .branches all => anyMoves all

def anyMoves : List Outline → Bool
  | [] => false
  | o :: rest => canMove o || anyMoves rest

end

mutual

def alwaysMoves? : Outline → Option Bool
  | .empty => some false
  | .literal _ => some true
  | .set s => if s.ranges.isEmpty then none else some true
  | .look _ => some false
  | .repeat o least _ _ => (alwaysMoves? o).map (· && 0 < least)
  | .capture _ o => alwaysMoves? o
  | .sequence parts => someMoves? parts
  | .branches all => allMove? all

def someMoves? : List Outline → Option Bool
  | [] => some false
  | o :: rest => do return (← alwaysMoves? o) || (← someMoves? rest)

def allMove? : List Outline → Option Bool
  | [] => some true
  | o :: rest => do return (← alwaysMoves? o) && (← allMove? rest)

end

mutual

def isAnchoredFirst : Outline → Bool
  | .look a => a = .textStart
  | .repeat o least _ _ => 0 < least && isAnchoredFirst o
  | .capture _ o => isAnchoredFirst o
  | .sequence parts => anchorsFirst parts
  | .branches all => allAnchoredFirst all
  | _ => false

def anchorsFirst : List Outline → Bool
  | [] => false
  | o :: rest => isAnchoredFirst o || (!canMove o && anchorsFirst rest)

def allAnchoredFirst : List Outline → Bool
  | [] => true
  | o :: rest => isAnchoredFirst o && allAnchoredFirst rest

end

mutual

def isAnchoredLast : Outline → Bool
  | .look a => a = .textEnd
  | .repeat o least _ _ => 0 < least && isAnchoredLast o
  | .capture _ o => isAnchoredLast o
  | .sequence parts => anchorsLast parts
  | .branches all => allAnchoredLast all
  | _ => false

def anchorsLast : List Outline → Bool
  | [] => false
  | o :: rest => anchorsLast rest || (!anyMoves rest && isAnchoredLast o)

def allAnchoredLast : List Outline → Bool
  | [] => true
  | o :: rest => isAnchoredLast o && allAnchoredLast rest

end

mutual

def beq : Outline → Outline → Bool
  | .empty, .empty => true
  | .literal a, .literal b => a == b
  | .set a, .set b => a == b
  | .look a, .look b => a == b
  | .repeat a least most isLazy, .repeat b least' most' isLazy' =>
    least == least' && most == most' && isLazy == isLazy' && beq a b
  | .capture i a, .capture j b => i == j && beq a b
  | .sequence a, .sequence b => beqAll a b
  | .branches a, .branches b => beqAll a b
  | _, _ => false

def beqAll : List Outline → List Outline → Bool
  | [], [] => true
  | a :: as, b :: bs => beq a b && beqAll as bs
  | _, _ => false

end

instance : BEq Outline := ⟨beq⟩

def ofSet (s : CharSet) : Outline :=
  match s.only? with
  | some c => .literal [c]
  | none => .set s

def ofRepeat (o : Outline) (least : Nat) (most : Option Nat) (isLazy : Bool) : Outline :=
  let (least, most) :=
    if o.canMove then (least, most) else (min least 1, some (min (most.getD 1) 1))
  if least = 0 ∧ most = some 0 then .empty
  else if least = 1 ∧ most = some 1 then o
  else .repeat o least most isLazy

def parts : Outline → List Outline
  | .empty => []
  | .sequence parts => parts
  | o => [o]

def joinLiterals : List Outline → List Outline
  | [] => []
  | o :: rest =>
    match o, joinLiterals rest with
    | .literal a, .literal b :: rest => .literal (a ++ b) :: rest
    | o, rest => o :: rest

def ofSequence (os : List Outline) : Outline :=
  match joinLiterals (os.flatMap parts) with
  | [] => .empty
  | [o] => o
  | parts => .sequence parts

def literal? : Outline → Option (List Char)
  | .literal text => some text
  | _ => none

def set? : Outline → Option CharSet
  | .set s => some s
  | _ => none

def singleChar? : Outline → Option Char
  | .literal [c] => some c
  | _ => none

def choices : Outline → List Outline
  | .branches all => all
  | o => [o]

def collapse (os : List Outline) : Outline :=
  match os.flatMap choices with
  | [o] => o
  | all =>
    match all.mapM singleChar?, all.mapM set? with
    | some cs, _ => ofSet (.ofChars cs)
    | none, some sets => ofSet (.unionAll sets)
    | none, none => .branches all

def sequence? : Outline → Option (List Outline)
  | .sequence parts => some parts
  | _ => none

def commonStart : List (List Outline) → List Outline
  | [] => []
  | [parts] => parts
  | parts :: rest =>
    ((parts.zip (commonStart rest)).takeWhile fun (a, b) => a == b).map (·.1)

def ofBranches (os : List Outline) : Outline :=
  match collapse os with
  | .branches all =>
    match (all.mapM sequence?).map fun rows => (rows, commonStart rows) with
    | some (rows, shared@(_ :: _)) =>
      ofSequence (shared ++ [collapse (rows.map fun row => ofSequence (row.drop shared.length))])
    | _ => .branches all
  | o => o

end Outline

end StoreQuery.Regex
