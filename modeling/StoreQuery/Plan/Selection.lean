import StoreQuery.Plan.Conjuncts
import StoreQuery.Encoding.Leaf
import StoreQuery.Index.Catalog

/-!
Choosing one index for a predicate. Of the leaves within reach whose bin has an index, the first
with the least known cost is chosen, or the first of all if no cost is known. Only the chosen leaf
is tried: if no index can answer it, the predicate is left as it is.
-/

namespace StoreQuery

structure Selection where
  indexFilter : Option IndexFilter
  residual : Option Predicate

def Selection.unchanged (p : Predicate) : Selection := ⟨none, some p⟩

structure Scope where
  directory : Directory
  ns : String
  set : String
  encoder : Encoder

namespace Scope

def indexes (s : Scope) (bin : String) : List Index := s.directory.indexes s.ns s.set bin

def isIndexed (s : Scope) (l : Leaf) : Bool :=
  l.bin?.any fun bin => s.directory.isIndexed s.ns s.set bin

def filterFor (s : Scope) (l : Leaf) : Except QueryError (Option IndexFilter) :=
  match l.bin? with
  | none => .ok none
  | some bin => do
    match ← l.indexFilter s.encoder with
    | none => return none
    | some f => return if (s.indexes bin).any (·.serves f) then some f else none

/-- Whether an index counts for the cost of a leaf: all do if the leaf has no filter. -/
def counts (f : Except QueryError (Option IndexFilter)) (i : Index) : Bool :=
  match f with
  | .ok (some f) => i.serves f
  | _ => true

def cost (s : Scope) (l : Leaf) : Option UInt64 := do
  let bin ← l.bin?
  let counted := (s.indexes bin).filter (counts (l.indexFilter s.encoder))
  ((counted.map (·.selectivity)).filter (0 < ·)).min?

def cheapest (cost : α → Option UInt64) : List α → Option (α × UInt64)
  | [] => none
  | a :: rest =>
    match cost a, cheapest cost rest with
    | none, best => best
    | some c, none => some (a, c)
    | some c, some (b, d) => if c ≤ d then some (a, c) else some (b, d)

def choose (s : Scope) (candidates : List (Slot × Leaf)) : Option (Slot × Leaf) :=
  match cheapest (fun (_, l) => s.cost l) candidates with
  | some (best, _) => some best
  | none => candidates.head?

/-- A dual condition is checked again on each record, so its leaf stays. -/
def select (s : Scope) (p : Predicate) : Except QueryError Selection :=
  match p with
  | .leaf l =>
    if s.isIndexed l then do
      match ← s.filterFor l with
      | some f => return ⟨some f, if l.op.isDual then some p else none⟩
      | none => return .unchanged p
    else .ok (.unchanged p)
  | .node .or _ _ => .ok (.unchanged p)
  | .node .and children settings =>
    match s.choose ((Predicate.conjuncts children).filter fun (_, l) => s.isIndexed l) with
    | none => .ok (.unchanged p)
    | some (slot, l) => do
      match ← s.filterFor l with
      | some f =>
        let rest := Predicate.without .and children settings [slot]
        return ⟨some f, if l.op.isDual then some p else rest⟩
      | none => return .unchanged p

end Scope

end StoreQuery
