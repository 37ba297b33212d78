import StoreQuery.Predicate.Leaf

namespace StoreQuery

inductive Connective
  | and
  | or
  deriving DecidableEq

def Connective.name : Connective → String
  | .and => "AND"
  | .or => "OR"

inductive Predicate
  | leaf (l : Leaf)
  | node (kind : Connective) (children : List Predicate) (settings : Settings)

namespace Predicate

instance : Inhabited Predicate := ⟨.node .and [] {}⟩

def and (children : List Predicate) : Predicate := .node .and children {}

def or (children : List Predicate) : Predicate := .node .or children {}

def compare (c : Comparison) (bin : String) (value : Json) : Predicate :=
  .leaf (.onBin bin (.scalar (.compare c)) value)

def between (bin : String) (low high : Json) : Predicate :=
  .leaf (.onBin bin (.scalar .between) low (some high))

def isIn (bin : String) (values : List Json) : Predicate :=
  .leaf (.onBin bin (.scalar .isIn) (.arr values))

def pattern (op : PatternOp) (bin text : String) : Predicate :=
  .leaf (.onBin bin (.pattern op) (.str text))

def id (key : Json) : Predicate :=
  .leaf { target := .id (.one key), op := .scalar (.compare .eq) }

def ids (keys : List Json) : Predicate :=
  .leaf { target := .id (.many keys), op := .scalar .isIn }

def isAnd : Predicate → Bool
  | .node .and _ _ => true
  | _ => false

mutual

def leaves : Predicate → List Leaf
  | .leaf l => [l]
  | .node _ children _ => leavesOf children

def leavesOf : List Predicate → List Leaf
  | [] => []
  | p :: rest => leaves p ++ leavesOf rest

end

theorem leavesOf_eq_flatMap (ps : List Predicate) : leavesOf ps = ps.flatMap leaves := by
  induction ps with
  | nil => rfl
  | cons p rest ih => rw [leavesOf, List.flatMap_cons, ih]

/-- The node over what is left of its children; one child stands for itself, none for nothing. -/
def rebuild (kind : Connective) (settings : Settings) : List Predicate → Option Predicate
  | [] => none
  | [child] => some child
  | children => some (.node kind children settings)

end Predicate

end StoreQuery
