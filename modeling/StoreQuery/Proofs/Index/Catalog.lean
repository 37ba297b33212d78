import Mathlib.Data.List.Pairwise
import StoreQuery.Index.Catalog
import StoreQuery.Proofs.Text.Order

namespace StoreQuery

namespace Index

def comparePlace : Index → Index → Ordering :=
  compareLex (compareOn Index.ns) (compareLex (compareOn Index.set) (compareOn Index.bin))

instance : Std.TransCmp comparePlace :=
  inferInstanceAs (Std.TransCmp (compareLex _ (compareLex _ _)))

variable {i j : Index}

theorem isOn_iff_eq {ns set bin : String} :
    i.isOn ns set bin ↔ i.ns = ns ∧ i.set = set ∧ i.bin = bin := by
  simp [isOn, and_assoc]

theorem isOn_self (i : Index) : i.isOn i.ns i.set i.bin := isOn_iff_eq.2 ⟨rfl, rfl, rfl⟩

theorem isOn_iff : j.isOn i.ns i.set i.bin ↔ comparePlace i j = .eq := by
  simp only [isOn_iff_eq, comparePlace, compareLex_eq_eq, compareOn, Std.compare_eq_iff_eq]
  exact and_congr eq_comm (and_congr eq_comm eq_comm)

theorem precedes_iff : i.precedes j ↔ comparePlace i j = .lt := by
  have less {s t : String} : compare s t = .lt ↔ s < t := compareOfLessAndEq_eq_lt
  simp only [precedes, comparePlace, compareLex, compareOn, Ordering.then_eq_lt, less,
    Std.compare_eq_iff_eq, Bool.or_eq_true, Bool.and_eq_true, decide_eq_true_eq, beq_iff_eq]

def placeLE (i j : Index) : Bool := (comparePlace i j).isLE

theorem placeLE_trans (i j k : Index) : i.placeLE j → j.placeLE k → i.placeLE k :=
  Std.TransCmp.isLE_trans

theorem placeLE_total (i j : Index) : i.placeLE j || j.placeLE i := by
  have swapped : comparePlace j i = (comparePlace i j).swap := Std.OrientedCmp.eq_swap
  rw [placeLE, placeLE, swapped]
  cases comparePlace i j <;> rfl

theorem placeLE_of_isOn {ns set bin : String} (hi : i.isOn ns set bin) (hj : j.isOn ns set bin) :
    i.placeLE j := by
  obtain ⟨rfl, rfl, rfl⟩ := isOn_iff_eq.1 hi
  rw [placeLE, isOn_iff.1 hj]
  rfl

theorem placeLE_of_precedes (h : i.precedes j) : i.placeLE j := by
  rw [placeLE, precedes_iff.1 h]
  rfl

theorem placeLE_of_not_precedes (h : ¬i.precedes j) : j.placeLE i := by
  have swapped : comparePlace j i = (comparePlace i j).swap := Std.OrientedCmp.eq_swap
  rw [precedes_iff] at h
  rw [placeLE, swapped]
  cases place : comparePlace i j with
  | lt => exact absurd place h
  | eq | gt => rfl

end Index

namespace Catalog

open Index

def InOrder (indexes : List Index) : Prop := indexes.Pairwise (placeLE · ·)

section Order

variable {i : Index} {indexes others : List Index}

theorem inOrder_insertIndex (ordered : InOrder indexes) : InOrder (insertIndex i indexes) := by
  induction indexes with
  | nil => exact List.pairwise_singleton _ i
  | cons j rest ih =>
    obtain ⟨first, later⟩ := List.pairwise_cons.1 ordered
    rw [insertIndex]
    split
    next before =>
      have least := placeLE_of_precedes before
      refine List.pairwise_cons.2 ⟨fun k mem => ?_, ordered⟩
      obtain rfl | mem := List.mem_cons.1 mem
      · exact least
      · exact placeLE_trans i j k least (first k mem)
    next after =>
      refine List.pairwise_cons.2 ⟨fun k mem => ?_, ih later⟩
      obtain rfl | mem := mem_insertIndex.1 mem
      · exact placeLE_of_not_precedes after
      · exact first k mem

theorem filter_insertIndex (ordered : InOrder indexes) (ns set bin : String) :
    (insertIndex i indexes).filter (·.isOn ns set bin) =
      (indexes ++ [i]).filter (·.isOn ns set bin) := by
  induction indexes with
  | nil => rfl
  | cons j rest ih =>
    obtain ⟨first, later⟩ := List.pairwise_cons.1 ordered
    rw [insertIndex]
    split
    next before =>
      have least : ∀ k ∈ j :: rest, comparePlace i k = .lt := by
        refine List.forall_mem_cons.2 ⟨precedes_iff.1 before, fun k mem => ?_⟩
        exact Std.TransCmp.lt_of_lt_of_isLE (precedes_iff.1 before) (first k mem)
      rw [List.filter_append, List.filter_cons]
      split
      next here =>
        obtain ⟨rfl, rfl, rfl⟩ := isOn_iff_eq.1 here
        have none : (j :: rest).filter (·.isOn i.ns i.set i.bin) = [] := by
          refine List.filter_eq_nil_iff.2 fun k mem same => ?_
          cases (least k mem).symm.trans (isOn_iff.1 same)
        simp [none, here]
      next elsewhere => simp [elsewhere]
    next after => simp only [List.cons_append, List.filter_cons, ih later]

/-- What one list begins with is in the other one, so it is not before what that begins with. -/
theorem placeLE_of_filter_eq {i j : Index} (ordered : InOrder (j :: others))
    (same : (i :: indexes).filter (·.isOn i.ns i.set i.bin) =
      (j :: others).filter (·.isOn i.ns i.set i.bin)) : j.placeLE i := by
  have mem : i ∈ (j :: others).filter (·.isOn i.ns i.set i.bin) := by
    rw [← same, List.filter_cons, if_pos i.isOn_self]
    exact List.mem_cons_self
  obtain rfl | mem := List.mem_cons.1 (List.mem_filter.1 mem).1
  · exact placeLE_of_isOn i.isOn_self i.isOn_self
  · exact (List.pairwise_cons.1 ordered).1 i mem

theorem eq_of_filter_eq (ordered : InOrder indexes) (orderedToo : InOrder others)
    (same : ∀ ns set bin,
      indexes.filter (·.isOn ns set bin) = others.filter (·.isOn ns set bin)) :
    indexes = others := by
  induction indexes generalizing others with
  | nil =>
    cases others with
    | nil => rfl
    | cons j others =>
      have missing := same j.ns j.set j.bin
      simp [isOn_self] at missing
  | cons i indexes ih =>
    cases others with
    | nil =>
      have missing := same i.ns i.set i.bin
      simp [isOn_self] at missing
    | cons j others =>
      have low := placeLE_of_filter_eq orderedToo (same _ _ _)
      have high := placeLE_of_filter_eq ordered (same _ _ _).symm
      have place : comparePlace i j = .eq := Std.OrientedCmp.isLE_antisymm high low
      have heads := same i.ns i.set i.bin
      simp only [List.filter_cons_of_pos, isOn_self, isOn_iff.2 place, List.cons.injEq] at heads
      obtain ⟨rfl, -⟩ := heads
      refine congrArg (i :: ·) (ih ordered.of_cons orderedToo.of_cons fun ns set bin => ?_)
      have both := same ns set bin
      rw [List.filter_cons, List.filter_cons] at both
      split at both
      next => exact (List.cons.inj both).2
      next => exact both

end Order

theorem inOrder_mergeSort (indexes : List Index) : InOrder (indexes.mergeSort placeLE) :=
  List.pairwise_mergeSort placeLE_trans placeLE_total indexes

theorem filter_mergeSort (indexes : List Index) (ns set bin : String) :
    (indexes.mergeSort placeLE).filter (·.isOn ns set bin) =
      indexes.filter (·.isOn ns set bin) := by
  have level : (indexes.filter (·.isOn ns set bin)).Pairwise (placeLE · ·) := by
    refine List.pairwise_of_forall_mem_list fun i hi j hj => ?_
    exact placeLE_of_isOn (List.mem_filter.1 hi).2 (List.mem_filter.1 hj).2
  have kept := (List.sublist_mergeSort placeLE_trans placeLE_total level
    List.filter_sublist).filter (·.isOn ns set bin)
  rw [List.filter_filter] at kept
  simp only [Bool.and_self] at kept
  refine (kept.eq_of_length ?_).symm
  exact ((List.mergeSort_perm indexes placeLE).filter _).length_eq.symm

theorem insertAll_inOrder {c : Catalog} (ordered : InOrder c.toList) (indexes : List Index) :
    InOrder (c.insertAll indexes).toList ∧ ∀ ns set bin,
      (c.insertAll indexes).toList.filter (·.isOn ns set bin) =
        (c.toList ++ indexes).filter (·.isOn ns set bin) := by
  induction indexes generalizing c with
  | nil => simp [insertAll, ordered]
  | cons i rest ih =>
    obtain ⟨ordered', same⟩ := ih (c := c.insert i) (inOrder_insertIndex ordered)
    refine ⟨ordered', fun ns set bin => (same ns set bin).trans ?_⟩
    have split : c.toList ++ i :: rest = (c.toList ++ [i]) ++ rest := by simp
    rw [split, List.filter_append, List.filter_append, insert, filter_insertIndex ordered]

theorem inOrder_ofList (indexes : List Index) : InOrder (ofList indexes).toList :=
  (insertAll_inOrder (c := empty) .nil indexes).1

theorem filter_ofList (indexes : List Index) (ns set bin : String) :
    (ofList indexes).toList.filter (·.isOn ns set bin) = indexes.filter (·.isOn ns set bin) :=
  (insertAll_inOrder (c := empty) .nil indexes).2 ns set bin

theorem toList_ofList (indexes : List Index) :
    (ofList indexes).toList = indexes.mergeSort placeLE :=
  eq_of_filter_eq (inOrder_ofList indexes) (inOrder_mergeSort indexes) fun ns set bin =>
    (filter_ofList indexes ns set bin).trans (filter_mergeSort indexes ns set bin).symm

theorem ofList_perm (indexes : List Index) : (ofList indexes).toList.Perm indexes :=
  toList_ofList indexes ▸ List.mergeSort_perm indexes placeLE

end Catalog

end StoreQuery
