import StoreQuery.Predicate.Basic

/-!
The leaves of an AND node that are within reach: its own, and those of AND nodes directly below it.
A slot says where such a leaf stands, and leaves can be taken out by their slots.
-/

namespace StoreQuery

inductive Slot
  | child (i : Nat)
  | nested (i j : Nat)
  deriving DecidableEq

def Slot.isBelow (i : Nat) : Slot → Bool
  | .nested n _ => n = i
  | .child _ => false

namespace Predicate

def conjunctsAt (i : Nat) : Predicate → List (Slot × Leaf)
  | .leaf l => [(.child i, l)]
  | .node .and inner _ =>
    inner.zipIdx.filterMap fun (p, j) =>
      match p with
      | .leaf l => some (.nested i j, l)
      | .node .. => none
  | .node .or _ _ => []

/-- The leaves within reach among the children of an AND node, in order. -/
def conjuncts (children : List Predicate) : List (Slot × Leaf) :=
  children.zipIdx.flatMap fun (p, i) => p.conjunctsAt i

def withoutAt (removed : List Slot) (i : Nat) (p : Predicate) : List Predicate :=
  if removed.contains (.child i) then []
  else match p with
    | .leaf _ => [p]
    | .node kind inner settings =>
      if removed.any (Slot.isBelow i) then
        let kept := inner.zipIdx.filterMap fun (q, j) =>
          if removed.contains (.nested i j) then none else some q
        (rebuild kind settings kept).toList
      else [p]

def without (kind : Connective) (children : List Predicate) (settings : Settings)
    (removed : List Slot) : Option Predicate :=
  rebuild kind settings (children.zipIdx.flatMap fun (p, i) => withoutAt removed i p)

end Predicate

end StoreQuery
