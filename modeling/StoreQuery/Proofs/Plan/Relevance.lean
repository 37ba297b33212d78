import StoreQuery.Proofs.Index.Catalog
import StoreQuery.Proofs.Plan.Selection

namespace StoreQuery

def Predicate.reach : Predicate → List Leaf
  | .leaf l => [l]
  | .node .and children _ => withinReach children
  | .node .or _ _ => []

namespace Index

def unnamed (i : Index) : Index := { i with name := "" }

@[simp] theorem serves_unnamed (i : Index) (f : IndexFilter) : i.unnamed.serves f = i.serves f :=
  rfl

@[simp] theorem selectivity_unnamed (i : Index) : i.unnamed.selectivity = i.selectivity := rfl

def concerns (i : Index) (ns set : String) (p : Predicate) : Bool :=
  p.reach.any fun l => l.bin?.any fun bin => i.isOn ns set bin

/-- The same indexes, but for their order and their names. -/
def Alike (indexes others : List Index) : Prop :=
  (indexes.map unnamed).Perm (others.map unnamed)

namespace Alike

variable {indexes others : List Index}

theorem isEmpty_eq (h : Alike indexes others) : indexes.isEmpty = others.isEmpty := by
  have lengths := h.length_eq
  rw [List.length_map, List.length_map] at lengths
  rw [Bool.eq_iff_iff, List.isEmpty_iff_length_eq_zero, List.isEmpty_iff_length_eq_zero, lengths]

theorem filter_isOn (h : Alike indexes others) (ns set bin : String) :
    Alike (indexes.filter (·.isOn ns set bin)) (others.filter (·.isOn ns set bin)) := by
  have same := List.Perm.filter (·.isOn ns set bin) h
  rwa [List.filter_map, List.filter_map] at same

theorem any_serves_eq (h : Alike indexes others) (f : IndexFilter) :
    indexes.any (·.serves f) = others.any (·.serves f) := by
  have same := h.any_eq (f := (·.serves f))
  simpa only [List.any_map, Function.comp_def, serves_unnamed] using same

theorem filter_map_selectivity_perm (h : Alike indexes others)
    (f : Except QueryError (Option IndexFilter)) :
    ((indexes.filter (Scope.counts f)).map (·.selectivity)).Perm
      ((others.filter (Scope.counts f)).map (·.selectivity)) := by
  have counts : Scope.counts f ∘ unnamed = Scope.counts f := by
    funext i
    simp only [Function.comp_apply, Scope.counts, serves_unnamed]
  have same := (List.Perm.filter (Scope.counts f) h).map (·.selectivity)
  simpa only [List.filter_map, counts, List.map_map, Function.comp_def, selectivity_unnamed]
    using same

end Alike

end Index

theorem min?_eq_of_perm {as bs : List UInt64} (h : as.Perm bs) : as.min? = bs.min? := by
  apply Option.ext
  intro c
  simp only [List.min?_eq_some_iff, h.mem_iff]

namespace Scope

variable {s : Scope} {d : Directory} {l : Leaf} {p : Predicate}

def AgreesOn (s : Scope) (d : Directory) (l : Leaf) : Prop :=
  ∀ bin, l.bin? = some bin → Index.Alike (s.indexes bin) (d.indexes s.ns s.set bin)

theorem AgreesOn.isIndexed_eq (h : s.AgreesOn d l) :
    s.isIndexed l = { s with directory := d }.isIndexed l := by
  rw [isIndexed, isIndexed]
  cases at_bin : l.bin? with
  | none => rfl
  | some bin =>
    simp only [Option.any_some, Directory.isIndexed]
    exact congrArg not (h bin at_bin).isEmpty_eq

theorem AgreesOn.filterFor_eq (h : s.AgreesOn d l) :
    s.filterFor l = { s with directory := d }.filterFor l := by
  rw [filterFor, filterFor]
  cases at_bin : l.bin? with
  | none => rfl
  | some bin =>
    refine bind_congr fun x => ?_
    cases x with
    | none => rfl
    | some f =>
      dsimp only
      rw [(h bin at_bin).any_serves_eq f]
      rfl

theorem AgreesOn.cost_eq (h : s.AgreesOn d l) :
    s.cost l = { s with directory := d }.cost l := by
  rw [cost, cost]
  cases at_bin : l.bin? with
  | none => rfl
  | some bin =>
    have costs := (h bin at_bin).filter_map_selectivity_perm (l.indexFilter s.encoder)
    exact min?_eq_of_perm (costs.filter (0 < ·))

theorem cheapest_congr {cost cost' : α → Option UInt64} {as : List α}
    (h : ∀ a ∈ as, cost a = cost' a) : cheapest cost as = cheapest cost' as := by
  induction as with
  | nil => rfl
  | cons a rest ih =>
    obtain ⟨first, others⟩ := List.forall_mem_cons.1 h
    rw [cheapest, cheapest, first, ih others]

theorem choose_congr {as : List (Slot × Leaf)} (h : ∀ a ∈ as, s.AgreesOn d a.2) :
    s.choose as = { s with directory := d }.choose as := by
  rw [choose, choose, cheapest_congr fun a mem => (h a mem).cost_eq]

theorem select_congr (h : ∀ l ∈ p.reach, s.AgreesOn d l) :
    s.select p = { s with directory := d }.select p := by
  match p with
  | .leaf l =>
    have agrees : s.AgreesOn d l := h l (List.mem_singleton_self l)
    rw [select, select, agrees.isIndexed_eq, agrees.filterFor_eq]
  | .node .or _ _ => rfl
  | .node .and children st =>
    have agrees : ∀ a ∈ Predicate.conjuncts children, s.AgreesOn d a.2 := by
      intro a mem
      apply h
      rw [Predicate.reach, ← Predicate.conjuncts_map_snd]
      exact List.mem_map_of_mem mem
    have candidates := List.filter_congr fun a mem => (agrees a mem).isIndexed_eq
    rw [select, select, ← candidates]
    have among (a) (mem : a ∈ (Predicate.conjuncts children).filter fun a => s.isIndexed a.2) :
        s.AgreesOn d a.2 := agrees a (List.mem_filter.1 mem).1
    rw [← choose_congr among]
    cases chosen : s.choose ((Predicate.conjuncts children).filter fun a => s.isIndexed a.2) with
    | none => rfl
    | some a =>
      obtain ⟨k, at_k, -⟩ := firstOptimum_of_choose chosen
      dsimp only
      rw [(among a (List.mem_of_getElem? at_k)).filterFor_eq]

end Scope

namespace Catalog

open Index

variable {indexes others : List Index} {ns set : String} {p : Predicate}

theorem indexes_ofList (indexes : List Index) (ns set bin : String) :
    (ofList indexes).directory.indexes ns set bin = indexes.filter (·.isOn ns set bin) :=
  filter_ofList indexes ns set bin

theorem isEmpty_ofList (indexes : List Index) : (ofList indexes).isEmpty ↔ indexes = [] := by
  rw [isEmpty, List.isEmpty_iff, ← List.length_eq_zero_iff, (ofList_perm indexes).length_eq,
    List.length_eq_zero_iff]

theorem filter_concerns {l : Leaf} {bin : String} (reached : l ∈ p.reach)
    (at_bin : l.bin? = some bin) (indexes : List Index) :
    (indexes.filter (·.concerns ns set p)).filter (·.isOn ns set bin) =
      indexes.filter (·.isOn ns set bin) := by
  rw [List.filter_filter]
  refine List.filter_congr fun i _ => ?_
  by_cases here : i.isOn ns set bin
  · have concerned : i.concerns ns set p :=
      List.any_eq_true.2 ⟨l, reached, by rw [at_bin, Option.any_some, here]⟩
    rw [here, concerned, Bool.and_self]
  · rw [Bool.not_eq_true] at here
    rw [here, Bool.false_and]

theorem agreesOn_ofList {e : Encoder} {l : Leaf} (reached : l ∈ p.reach)
    (same : Alike (indexes.filter (·.concerns ns set p)) (others.filter (·.concerns ns set p))) :
    Scope.AgreesOn ⟨(ofList indexes).directory, ns, set, e⟩ (ofList others).directory l := by
  intro bin at_bin
  rw [Scope.indexes, indexes_ofList, indexes_ofList, ← filter_concerns reached at_bin indexes,
    ← filter_concerns reached at_bin others]
  exact same.filter_isOn ns set bin

/-- A catalog is the list it is made of, sorted by place and with ties as they were. Selection
sees neither the order of that list nor names, nor the indexes on bins out of its reach. -/
theorem ofList_is_the_list (indexes others : List Index) (ns set : String) :
    (ofList indexes).size = indexes.length ∧
    ((ofList indexes).isEmpty ↔ indexes = []) ∧
    (∀ bin, (ofList indexes).directory.indexes ns set bin =
      indexes.filter fun i => i.ns = ns ∧ i.set = set ∧ i.bin = bin) ∧
    (ofList indexes).toList = indexes.mergeSort placeLE ∧
    ∀ (p : Predicate) (e : Encoder),
      indexes.Perm others ∨
          Alike (indexes.filter (·.concerns ns set p)) (others.filter (·.concerns ns set p)) →
        (Scope.mk (ofList indexes).directory ns set e).select p =
          (Scope.mk (ofList others).directory ns set e).select p := by
  refine ⟨(ofList_perm indexes).length_eq, isEmpty_ofList indexes, fun bin => ?_,
    toList_ofList indexes, fun p e same => ?_⟩
  · rw [indexes_ofList]
    exact List.filter_congr fun i _ => by rw [Bool.eq_iff_iff, isOn_iff_eq, decide_eq_true_iff]
  · have alike : Alike (indexes.filter (·.concerns ns set p))
        (others.filter (·.concerns ns set p)) :=
      same.elim (fun perm => (perm.filter _).map _) id
    exact Scope.select_congr fun l reached => agreesOn_ofList reached alike

theorem ofList_is_the_list_of_swap :
    let a : Index := { Index.onBin .numeric "ns" "set" "a" with selectivity := 7 }
    let b : Index := { Index.onBin .numeric "ns" "set" "b" with selectivity := 5 }
    let indexes := [b, a]
    let others := [a, .onBin .string "ns" "other" "b", { b with name := "idx" },
      { Index.onBin .numeric "ns" "set" "c" with selectivity := 1 }]
    let p : Predicate := .and [.leaf (.onBin "a" (.scalar (.compare .eq)) (.int 1)),
      .and [.leaf (.onBin "b" (.scalar (.compare (.ineq .gt))) (.int 2))],
      .or [.leaf (.onBin "c" (.scalar (.compare .eq)) (.int 3))]]
    (indexes.mergeSort placeLE).map (·.bin) = ["a", "b"] ∧
      (((Scope.mk (ofList others).directory "ns" "set" .json).select p).toOption.bind
        (·.indexFilter)).map (·.kind) = some (.range 3 Int64.maxValue) := by
  intro a b indexes others p
  obtain ⟨-, -, -, sorted, same⟩ := ofList_is_the_list indexes others "ns" "set"
  have seen : indexes.filter (·.concerns "ns" "set" p) = [b, a] := rfl
  have seenToo : others.filter (·.concerns "ns" "set" p) = [a, { b with name := "idx" }] := rfl
  have alike : Alike (indexes.filter (·.concerns "ns" "set" p))
      (others.filter (·.concerns "ns" "set" p)) := by
    rw [seen, seenToo]
    exact List.Perm.swap a.unnamed b.unnamed []
  refine ⟨sorted ▸ by decide +kernel, ?_⟩
  rw [← same p .json (.inr alike)]
  decide +kernel

end Catalog

end StoreQuery
