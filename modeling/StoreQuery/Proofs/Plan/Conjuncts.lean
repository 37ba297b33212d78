import Mathlib.Data.List.Basic
import StoreQuery.Proofs.Predicate.Expression

namespace List

variable {f : α → Nat → List α}

theorem flatMap_zipIdx_eq_self (as : List α) (n : Nat)
    (h : ∀ a i, n ≤ i → i < n + as.length → f a i = [a]) :
    ((as.zipIdx n).flatMap fun (a, i) => f a i) = as := by
  induction as generalizing n with
  | nil => rfl
  | cons a rest ih =>
    simp only [length_cons] at h
    simp only [zipIdx_cons, flatMap_cons, h a n (by omega) (by omega),
      ih (n + 1) fun b i lower upper => h b i (by omega) (by omega), cons_append, nil_append]

theorem flatMap_zipIdx_append_cons (before : List α) (a : α) (after : List α)
    (h : ∀ b i, i ≠ before.length → f b i = [b]) :
    ((before ++ a :: after).zipIdx.flatMap fun (b, i) => f b i) =
      before ++ (f a before.length ++ after) := by
  simp only [zipIdx_append, zipIdx_cons, flatMap_append, flatMap_cons, Nat.zero_add]
  rw [flatMap_zipIdx_eq_self before 0 fun b i _ upper => h b i (by omega),
    flatMap_zipIdx_eq_self after _ fun b i lower _ => h b i (by omega)]

theorem exists_append_of_mem_zipIdx {as : List α} {a : α} {i : Nat} (h : (a, i) ∈ as.zipIdx) :
    ∃ before after, as = before ++ a :: after ∧ before.length = i := by
  have at_i := mem_zipIdx_iff_getElem?.1 h
  obtain ⟨inside, at_i⟩ := getElem?_eq_some_iff.1 at_i
  refine ⟨as.take i, as.drop (i + 1), ?_, length_take_of_le (Nat.le_of_lt inside)⟩
  conv_lhs => rw [← take_append_drop i as, drop_eq_getElem_cons inside, at_i]

theorem eq_of_mem_zipIdx {as : List α} {a b : α} {i : Nat} (ha : (a, i) ∈ as.zipIdx)
    (hb : (b, i) ∈ as.zipIdx) : a = b := by
  rw [mem_zipIdx_iff_getElem?] at ha hb
  exact Option.some.inj (ha.symm.trans hb)

end List

namespace StoreQuery

namespace Predicate

def leaf? : Predicate → Option Leaf
  | .leaf l => some l
  | .node .. => none

def withinReach (children : List Predicate) : List Leaf :=
  children.flatMap fun
    | .leaf l => [l]
    | .node .and inner _ => inner.filterMap leaf?
    | .node .or _ _ => []

theorem conjunctsAt_map_snd (i : Nat) (p : Predicate) :
    (p.conjunctsAt i).map Prod.snd = withinReach [p] := by
  match p with
  | .leaf l => rfl
  | .node .or inner s => rfl
  | .node .and inner s =>
    rw [conjunctsAt, withinReach, List.flatMap_singleton, List.map_filterMap]
    generalize (0 : Nat) = n
    induction inner generalizing n with
    | nil => rfl
    | cons p rest ih => cases p <;> simp_all [List.zipIdx_cons, List.filterMap_cons, leaf?]

theorem conjuncts_map_snd (children : List Predicate) :
    (conjuncts children).map Prod.snd = withinReach children := by
  rw [conjuncts]
  generalize (0 : Nat) = n
  induction children generalizing n with
  | nil => rfl
  | cons p rest ih =>
    rw [List.zipIdx_cons, List.flatMap_cons, List.map_append, ih, conjunctsAt_map_snd]
    simp [withinReach]

theorem mem_conjuncts_cases {slot : Slot} {l : Leaf} {children : List Predicate}
    (h : (slot, l) ∈ conjuncts children) :
    (∃ i, slot = .child i ∧ (leaf l, i) ∈ children.zipIdx) ∨
      ∃ i j inner s, slot = .nested i j ∧ (node .and inner s, i) ∈ children.zipIdx ∧
        (leaf l, j) ∈ inner.zipIdx := by
  obtain ⟨⟨p, i⟩, child, here⟩ := List.mem_flatMap.1 h
  match p with
  | .leaf l' =>
    obtain ⟨rfl, rfl⟩ := Prod.mk.inj (List.mem_singleton.1 here)
    exact .inl ⟨i, rfl, child⟩
  | .node .or _ _ => cases here
  | .node .and inner s =>
    obtain ⟨⟨q, j⟩, grandchild, found⟩ := List.mem_filterMap.1 here
    match q with
    | .node .. => cases found
    | .leaf l' =>
      obtain ⟨rfl, rfl⟩ := Prod.mk.inj (Option.some.inj found)
      exact .inr ⟨i, j, inner, s, rfl, child, grandchild⟩

theorem withoutAt_child (i j : Nat) (p : Predicate) (h : j ≠ i) :
    withoutAt [.child i] j p = [p] := by
  cases p <;> simp [withoutAt, Slot.isBelow, h]

theorem withoutAt_nested (i k j : Nat) (p : Predicate) (h : j ≠ i) :
    withoutAt [.nested i k] j p = [p] := by
  cases p <;> simp [withoutAt, Slot.isBelow, h.symm]

theorem without_child (kind : Connective) (before : List Predicate) (p : Predicate)
    (after : List Predicate) (s : Settings) :
    without kind (before ++ p :: after) s [.child before.length] =
      rebuild kind s (before ++ after) := by
  rw [without, List.flatMap_zipIdx_append_cons (f := fun p i => withoutAt _ i p) _ _ _
    fun q j => withoutAt_child _ j q]
  simp [withoutAt]

theorem without_nested (kind : Connective) (before : List Predicate) (inner : Connective)
    (first : List Predicate) (p : Predicate) (last : List Predicate) (s : Settings)
    (after : List Predicate) (t : Settings) :
    without kind (before ++ .node inner (first ++ p :: last) s :: after) t
        [.nested before.length first.length] =
      rebuild kind t (before ++ ((rebuild inner s (first ++ last)).toList ++ after)) := by
  rw [without, List.flatMap_zipIdx_append_cons (f := fun p i => withoutAt _ i p) _ _ _
    fun q j => withoutAt_nested _ _ j q]
  have kept : ((first ++ p :: last).zipIdx.filterMap fun x =>
      if x.2 = first.length then none else some x.1) = first ++ last := by
    rw [List.filterMap_eq_flatMap_toList, List.flatMap_zipIdx_append_cons (f := fun q j =>
      (if j = first.length then none else some q).toList)]
    · simp
    · intro q j h
      simp [h]
  simp [withoutAt, Slot.isBelow, kept]

end Predicate

end StoreQuery
