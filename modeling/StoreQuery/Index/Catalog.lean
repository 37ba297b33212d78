import StoreQuery.Index.Basic

/-!
The indexes that are known when a query is compiled. A directory answers which indexes there are on
a bin; a catalog is a list of indexes in the order of namespace, set and bin.
-/

namespace StoreQuery

structure Directory where
  indexes : (ns set bin : String) → List Index

namespace Directory

def isIndexed (d : Directory) (ns set bin : String) : Bool := !(d.indexes ns set bin).isEmpty

def selectivities (d : Directory) (ns set bin : String) : List UInt64 :=
  (d.indexes ns set bin).map (·.selectivity)

end Directory

namespace Index

def precedes (i j : Index) : Bool :=
  i.ns < j.ns || (i.ns == j.ns && (i.set < j.set || (i.set == j.set && i.bin < j.bin)))

def isOn (i : Index) (ns set bin : String) : Bool := i.ns == ns && i.set == set && i.bin == bin

end Index

structure Catalog where
  toList : List Index

namespace Catalog

def empty : Catalog := ⟨[]⟩

def insertIndex (i : Index) : List Index → List Index
  | [] => [i]
  | j :: rest => if i.precedes j then i :: j :: rest else j :: insertIndex i rest

/-- An index goes behind all others on the same bin. -/
def insert (c : Catalog) (i : Index) : Catalog := ⟨insertIndex i c.toList⟩

def insertAll (c : Catalog) (indexes : List Index) : Catalog := indexes.foldl insert c

def ofList (indexes : List Index) : Catalog := empty.insertAll indexes

def size (c : Catalog) : Nat := c.toList.length

def isEmpty (c : Catalog) : Bool := c.toList.isEmpty

def directory (c : Catalog) : Directory where
  indexes ns set bin := c.toList.filter (·.isOn ns set bin)

theorem mem_insertIndex {i j : Index} {indexes : List Index} :
    j ∈ insertIndex i indexes ↔ j = i ∨ j ∈ indexes := by
  induction indexes with
  | nil => simp [insertIndex]
  | cons k rest ih => grind [insertIndex]

end Catalog

end StoreQuery
