import Mathlib.Data.List.Nodup
import StoreQuery.Proofs.Plan.Conjuncts

namespace StoreQuery

/-- The way to a part of a predicate: at each node, which child to go down to. -/
abbrev Address := List Nat

def Slot.address : Slot → Address
  | .child i => [i]
  | .nested i j => [i, j]

namespace Slot

def anyAt (removed : List Slot) (a : Address) : Bool := removed.any (·.address = a)

variable {removed : List Slot} {i j : Nat}

theorem anyAt_iff {a : Address} : anyAt removed a ↔ ∃ s ∈ removed, s.address = a := by
  simp [anyAt]

theorem address_inj {s t : Slot} : s.address = t.address ↔ s = t := by
  cases s <;> cases t <;> simp [address]

theorem anyAt_address (s : Slot) : anyAt removed s.address = removed.contains s := by
  rw [Bool.eq_iff_iff, anyAt_iff, List.contains_iff_mem]
  simp [address_inj]

theorem anyAt_child : anyAt removed [i] = removed.contains (.child i) := anyAt_address (.child i)

theorem anyAt_nested : anyAt removed [i, j] = removed.contains (.nested i j) :=
  anyAt_address (.nested i j)

theorem anyAt_below (notChild : .child i ∉ removed) (notNested : ∀ j, .nested i j ∉ removed)
    (a : Address) : anyAt removed (i :: a) = false := by
  rw [Bool.eq_false_iff, Ne, anyAt_iff]
  rintro ⟨s, mem, eq⟩
  cases s with
  | child => cases eq; exact notChild mem
  | nested _ j => cases eq; exact notNested j mem

theorem anyAt_belowNested (notNested : .nested i j ∉ removed) (a : Address) :
    anyAt removed (i :: j :: a) = false := by
  rw [Bool.eq_false_iff, Ne, anyAt_iff]
  rintro ⟨s, mem, eq⟩
  cases s with
  | child => cases eq
  | nested => cases eq; exact notNested mem

end Slot

namespace Predicate

mutual

def addressed : Predicate → List (Address × Leaf)
  | .leaf l => [([], l)]
  | .node _ children _ => addressedFrom 0 children

def addressedFrom (i : Nat) : List Predicate → List (Address × Leaf)
  | [] => []
  | p :: rest => (addressed p).map (fun (a, l) => (i :: a, l)) ++ addressedFrom (i + 1) rest

end

mutual

/-- The tree without the leaves whose addresses are gone. All nodes stay, even with nothing below
them. -/
def delete (gone : Address → Bool) : Predicate → Option Predicate
  | .leaf l => if gone [] then none else some (.leaf l)
  | .node kind children settings => some (.node kind (deleteFrom gone 0 children) settings)

def deleteFrom (gone : Address → Bool) (i : Nat) : List Predicate → List Predicate
  | [] => []
  | p :: rest => (delete (fun a => gone (i :: a)) p).toList ++ deleteFrom gone (i + 1) rest

end

structure NodeView where
  kind : Connective
  settings : Settings
  leaves : List Leaf

def NodeView.label (n : NodeView) : Connective × Settings := (n.kind, n.settings)

mutual

def nodes : Predicate → List NodeView
  | .leaf _ => []
  | .node kind children settings => ⟨kind, settings, leavesOf children⟩ :: nodesOf children

def nodesOf : List Predicate → List NodeView
  | [] => []
  | p :: rest => nodes p ++ nodesOf rest

end

theorem leavesOf_append (ps qs : List Predicate) :
    leavesOf (ps ++ qs) = leavesOf ps ++ leavesOf qs := by
  simp [leavesOf_eq_flatMap]

theorem nodesOf_append (ps qs : List Predicate) :
    nodesOf (ps ++ qs) = nodesOf ps ++ nodesOf qs := by
  induction ps with
  | nil => rfl
  | cons p rest ih => rw [List.cons_append, nodesOf, nodesOf, ih, List.append_assoc]

theorem leavesOf_rebuild (kind : Connective) (s : Settings) (ps : List Predicate) :
    leavesOf (rebuild kind s ps).toList = leavesOf ps := by
  match ps with
  | [] => rfl
  | [p] => rfl
  | p :: q :: rest => simp [rebuild, leavesOf, leaves]

theorem nodesOf_rebuild_sublist (kind : Connective) (s : Settings) (ps : List Predicate) :
    (nodesOf (rebuild kind s ps).toList).Sublist (node kind ps s).nodes := by
  match ps with
  | [] => exact List.nil_sublist _
  | [p] => exact List.sublist_cons_self _ _
  | p :: q :: rest => simp [rebuild, nodesOf]

mutual

theorem addressed_map_snd : ∀ p : Predicate, p.addressed.map Prod.snd = p.leaves
  | .leaf _ => rfl
  | .node _ children _ => addressedFrom_map_snd 0 children

theorem addressedFrom_map_snd (i : Nat) :
    ∀ ps : List Predicate, (addressedFrom i ps).map Prod.snd = leavesOf ps
  | [] => rfl
  | p :: rest => by
    rw [addressedFrom, leavesOf, List.map_append, List.map_map, addressedFrom_map_snd]
    exact congrArg (· ++ leavesOf rest) (addressed_map_snd p)

end

theorem mem_addressedFrom {ps : List Predicate} {i j : Nat} {a : Address} {l : Leaf} :
    (j :: a, l) ∈ addressedFrom i ps ↔ ∃ p, (p, j) ∈ ps.zipIdx i ∧ (a, l) ∈ p.addressed := by
  induction ps generalizing i with
  | nil => simp [addressedFrom]
  | cons p rest ih =>
    simp only [addressedFrom, List.mem_append, List.mem_map, Prod.mk.injEq, List.cons.injEq, ih,
      List.zipIdx_cons, List.mem_cons, Prod.exists]
    grind

mutual

theorem nodup_addressed : ∀ p : Predicate, (p.addressed.map Prod.fst).Nodup
  | .leaf _ => List.nodup_singleton []
  | .node _ children _ => nodup_addressedFrom 0 children

theorem nodup_addressedFrom (i : Nat) :
    ∀ ps : List Predicate, ((addressedFrom i ps).map Prod.fst).Nodup
  | [] => List.nodup_nil
  | p :: rest => by
    rw [addressedFrom, List.map_append, List.map_map]
    refine List.nodup_append.2 ⟨?_, nodup_addressedFrom (i + 1) rest, ?_⟩
    · have own := (nodup_addressed p).map (List.cons_injective (a := i))
      rwa [List.map_map] at own
    · intro a here b later
      obtain ⟨x, -, rfl⟩ := List.mem_map.1 here
      obtain ⟨⟨b, l⟩, mem, rfl⟩ := List.mem_map.1 later
      rintro rfl
      obtain ⟨q, mem, -⟩ := mem_addressedFrom.1 mem
      exact Nat.not_succ_le_self i (List.le_snd_of_mem_zipIdx mem)

end

mutual

theorem leaves_delete (gone : Address → Bool) : ∀ p : Predicate,
    leavesOf (p.delete gone).toList = (p.addressed.filter fun x => !gone x.1).map Prod.snd
  | .leaf l => by cases h : gone [] <;> simp [delete, addressed, leavesOf, leaves, h]
  | .node kind children settings => by
    simp [delete, addressed, leavesOf, leaves, leaves_deleteFrom gone 0 children]

theorem leaves_deleteFrom (gone : Address → Bool) (i : Nat) : ∀ ps : List Predicate,
    leavesOf (deleteFrom gone i ps) =
      ((addressedFrom i ps).filter fun x => !gone x.1).map Prod.snd
  | [] => rfl
  | p :: rest => by
    rw [deleteFrom, leavesOf_append, leaves_delete, leaves_deleteFrom, addressedFrom,
      List.filter_append, List.map_append, List.filter_map, List.map_map]
    rfl

end

mutual

theorem labels_delete (gone : Address → Bool) : ∀ p : Predicate,
    (nodesOf (p.delete gone).toList).map NodeView.label = p.nodes.map NodeView.label
  | .leaf l => by cases h : gone [] <;> simp [delete, nodes, nodesOf, h]
  | .node kind children settings => by
    simp [delete, nodes, nodesOf, NodeView.label, labels_deleteFrom gone 0 children]

theorem labels_deleteFrom (gone : Address → Bool) (i : Nat) : ∀ ps : List Predicate,
    (nodesOf (deleteFrom gone i ps)).map NodeView.label = (nodesOf ps).map NodeView.label
  | [] => rfl
  | p :: rest => by
    rw [deleteFrom, nodesOf_append, nodesOf, List.map_append, List.map_append, labels_delete,
      labels_deleteFrom]

end

mutual

theorem delete_eq_some (gone : Address → Bool) (h : ∀ a, gone a = false) :
    ∀ p : Predicate, p.delete gone = some p
  | .leaf l => by simp [delete, h]
  | .node kind children settings => by simp [delete, deleteFrom_eq_self gone h 0 children]

theorem deleteFrom_eq_self (gone : Address → Bool) (h : ∀ a, gone a = false) (i : Nat) :
    ∀ ps : List Predicate, deleteFrom gone i ps = ps
  | [] => rfl
  | p :: rest => by
    simp [deleteFrom, delete_eq_some (fun a => gone (i :: a)) (fun a => h (i :: a)) p,
      deleteFrom_eq_self gone h (i + 1) rest]

end

theorem deleteFrom_eq_flatMap (gone : Address → Bool) (i : Nat) (ps : List Predicate) :
    deleteFrom gone i ps =
      (ps.zipIdx i).flatMap fun (p, j) => (p.delete fun a => gone (j :: a)).toList := by
  induction ps generalizing i with
  | nil => rfl
  | cons p rest ih => rw [deleteFrom, List.zipIdx_cons, List.flatMap_cons, ih]

/-- The first list says what the second one says: it has the same leaves, no nodes but nodes of the
second, and the same expressions. -/
structure Condenses (qs ps : List Predicate) : Prop where
  leaves : leavesOf qs = leavesOf ps
  nodes : (nodesOf qs).Sublist (nodesOf ps)
  expressions : ∀ e, expressionsOf e qs = expressionsOf e ps

namespace Condenses

variable {ps qs ps' qs' : List Predicate}

theorem refl (ps : List Predicate) : Condenses ps ps where
  leaves := rfl
  nodes := List.Sublist.refl _
  expressions _ := rfl

theorem of_eq (h : qs = ps) : Condenses qs ps := h ▸ refl qs

theorem append (h : Condenses qs ps) (h' : Condenses qs' ps') :
    Condenses (qs ++ qs') (ps ++ ps') where
  leaves := by rw [leavesOf_append, leavesOf_append, h.leaves, h'.leaves]
  nodes := by
    rw [nodesOf_append, nodesOf_append]
    exact h.nodes.append h'.nodes
  expressions e := by
    rw [expressionsOf_append, expressionsOf_append, h.expressions, h'.expressions]

theorem flatMap {xs : List α} {f g : α → List Predicate}
    (h : ∀ x ∈ xs, Condenses (f x) (g x)) : Condenses (xs.flatMap f) (xs.flatMap g) := by
  induction xs with
  | nil => exact .refl []
  | cons x rest ih =>
    rw [List.forall_mem_cons] at h
    exact h.1.append (ih h.2)

theorem rebuild (kind : Connective) (s : Settings) (h : Condenses qs ps) :
    Condenses (rebuild kind s qs).toList [.node kind ps s] where
  leaves := by simp [leavesOf_rebuild, h.leaves, leavesOf, Predicate.leaves]
  nodes := by
    refine (nodesOf_rebuild_sublist kind s qs).trans ?_
    simpa [nodesOf, Predicate.nodes, h.leaves] using h.nodes
  expressions e := by
    rw [expressionsOf_toList, residualExpression_rebuild, expression, h.expressions e]
    exact (expressionsOf_toList (some (.node kind ps s))).symm

end Condenses

variable {removed : List Slot} {children : List Predicate}

theorem addressed_of_mem_conjuncts {slot : Slot} {l : Leaf} (s : Settings)
    (h : (slot, l) ∈ conjuncts children) :
    (slot.address, l) ∈ (node .and children s).addressed := by
  rw [addressed]
  obtain ⟨i, rfl, child⟩ | ⟨i, j, inner, t, rfl, child, grandchild⟩ := mem_conjuncts_cases h
  · exact mem_addressedFrom.2 ⟨_, child, List.mem_singleton.2 rfl⟩
  · refine mem_addressedFrom.2 ⟨_, child, ?_⟩
    exact mem_addressedFrom.2 ⟨_, grandchild, List.mem_singleton.2 rfl⟩

section

variable (within : removed ⊆ (conjuncts children).map Prod.fst)
include within

theorem slot_cases {slot : Slot} (mem : slot ∈ removed) :
    (∃ i l, slot = .child i ∧ (leaf l, i) ∈ children.zipIdx) ∨
      ∃ i j inner s l, slot = .nested i j ∧ (node .and inner s, i) ∈ children.zipIdx ∧
        (leaf l, j) ∈ inner.zipIdx := by
  obtain ⟨⟨slot, l⟩, found, rfl⟩ := List.mem_map.1 (within mem)
  obtain ⟨i, rfl, child⟩ | ⟨i, j, inner, t, rfl, child, grandchild⟩ := mem_conjuncts_cases found
  · exact .inl ⟨i, l, rfl, child⟩
  · exact .inr ⟨i, j, inner, t, l, rfl, child, grandchild⟩

variable {kind : Connective} {inner : List Predicate} {s : Settings} {i : Nat}
  (child : (node kind inner s, i) ∈ children.zipIdx)
include child

theorem child_notMem : .child i ∉ removed := by
  intro mem
  obtain ⟨_, l, ⟨rfl⟩, other⟩ | ⟨_, _, _, _, _, ⟨⟩, -⟩ := slot_cases within mem
  cases List.eq_of_mem_zipIdx child other

theorem nested_notMem {kind' : Connective} {inner' : List Predicate} {s' : Settings} {j : Nat}
    (grandchild : (node kind' inner' s', j) ∈ inner.zipIdx) : .nested i j ∉ removed := by
  intro mem
  obtain ⟨_, _, ⟨⟩, -⟩ | ⟨_, _, _, _, l, ⟨rfl, rfl⟩, other, leaf⟩ := slot_cases within mem
  cases List.eq_of_mem_zipIdx child other
  cases List.eq_of_mem_zipIdx grandchild leaf

/-- Below a nested node only leaves are taken out, so that what is kept there is what is left of the
nested node in place. -/
theorem kept_eq_deleteFrom :
    (inner.zipIdx.filterMap fun (q, j) =>
        if removed.contains (.nested i j) then none else some q) =
      deleteFrom (fun a => Slot.anyAt removed (i :: a)) 0 inner := by
  rw [List.filterMap_eq_flatMap_toList, deleteFrom_eq_flatMap]
  apply List.flatMap_congr
  rintro ⟨q, j⟩ grandchild
  cases q with
  | leaf l => simp only [delete, Slot.anyAt_nested]
  | node kind' inner' s' =>
    have stays := nested_notMem within child grandchild
    simp [delete_eq_some _ (Slot.anyAt_belowNested stays), stays]

theorem condenses_withoutAt_node :
    Condenses (withoutAt removed i (node kind inner s))
      ((node kind inner s).delete fun a => Slot.anyAt removed (i :: a)).toList := by
  have stays := child_notMem within child
  rw [withoutAt, if_neg (by simpa using stays)]
  by_cases below : removed.any (Slot.isBelow i)
  · -- The node is rebuilt over what is kept, where in place it stays a node.
    rw [if_pos below, kept_eq_deleteFrom within child, delete]
    exact .rebuild kind s (.refl _)
  · have untouched : ∀ j, Slot.nested i j ∉ removed := fun j mem =>
      below (List.any_eq_true.2 ⟨_, mem, by simp [Slot.isBelow]⟩)
    rw [if_neg below, delete_eq_some _ (Slot.anyAt_below stays untouched)]
    exact .refl _

end

theorem condenses_without (within : removed ⊆ (conjuncts children).map Prod.fst) :
    Condenses (children.zipIdx.flatMap fun (p, i) => withoutAt removed i p)
      (deleteFrom (Slot.anyAt removed) 0 children) := by
  rw [deleteFrom_eq_flatMap]
  apply Condenses.flatMap
  rintro ⟨p, i⟩ child
  cases p with
  | node => exact condenses_withoutAt_node within child
  | leaf l =>
    apply Condenses.of_eq
    by_cases taken : .child i ∈ removed <;> simp [withoutAt, delete, Slot.anyAt_child, taken]

/-- Taking leaves within reach out of an AND takes out these and no others: the leaves that are left
are those of the AND at all other addresses, in order; the nodes that are left are nodes of the AND
over what is left below them; and the expression is that of the tree with the leaves deleted in
place. -/
theorem without_agrees_with_delete (children : List Predicate) (s : Settings) (removed : List Slot)
    (within : removed ⊆ (conjuncts children).map Prod.fst) :
    let whole := node .and children s
    let rest := without .and children s removed
    let deleted := whole.delete (Slot.anyAt removed)
    whole.addressed.map Prod.snd = whole.leaves ∧ (whole.addressed.map Prod.fst).Nodup ∧
    (∀ slot l, (slot, l) ∈ conjuncts children → (slot.address, l) ∈ whole.addressed) ∧
    leavesOf rest.toList =
      (whole.addressed.filter fun x => !Slot.anyAt removed x.1).map Prod.snd ∧
    (nodesOf rest.toList).Sublist (nodesOf deleted.toList) ∧
    (nodesOf deleted.toList).map NodeView.label = whole.nodes.map NodeView.label ∧
    ∀ e, residualExpression e rest = residualExpression e deleted := by
  intro whole rest deleted
  have condenses := condenses_without within
  have rebuilt : Condenses rest.toList deleted.toList := condenses.rebuild .and s
  refine ⟨addressed_map_snd whole, nodup_addressed whole,
    fun slot l => addressed_of_mem_conjuncts s, ?_, rebuilt.nodes, labels_delete _ whole,
    fun e => ?_⟩
  · rw [← leaves_delete]
    exact rebuilt.leaves
  · calc
      residualExpression e rest = (node .and _ s).expression e := residualExpression_rebuild ..
      _ = residualExpression e deleted := by
        rw [expression, condenses.expressions]
        rfl

theorem without_agrees_with_delete_of_nested :
    let a : Leaf := .onBin "a" (.scalar (.compare .eq)) (.int 1)
    let b : Leaf := .onBin "b" (.scalar (.compare .eq)) (.int 2)
    let s : Settings := { converter := some "people" }
    let children := [leaf a, .and [leaf b, leaf a], .or []]
    let removed := [.child 0, .nested 1 0]
    let rest := without .and children s removed
    removed ⊆ (conjuncts children).map Prod.fst ∧ leavesOf rest.toList = [a] ∧
      (nodesOf rest.toList).Sublist [⟨.and, s, [a]⟩, ⟨.and, {}, [a]⟩, ⟨.or, {}, []⟩] ∧
        ∀ e, residualExpression e rest = (node .and [.and [leaf a], .or []] s).expression e := by
  intro a b s children removed rest
  have within : removed ⊆ (conjuncts children).map Prod.fst := by decide
  obtain ⟨-, -, -, leaves, nodes, -, expressions⟩ :=
    without_agrees_with_delete children s removed within
  exact ⟨within, leaves, nodes, expressions⟩

end Predicate

end StoreQuery
