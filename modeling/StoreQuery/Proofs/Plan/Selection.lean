import StoreQuery.Proofs.Except
import StoreQuery.Proofs.Plan.Optimum
import StoreQuery.Proofs.Plan.Split

namespace StoreQuery

structure Index.Fits (i : Index) (f : IndexFilter) : Prop where
  bin : i.bin = f.bin
  indexType : i.indexType = f.indexType
  coverage : i.coverage = f.coverage
  path : i.path == f.path

theorem Index.serves_iff {i : Index} {f : IndexFilter} : i.serves f ↔ i.Fits f := by
  simp only [serves, Bool.and_eq_true, beq_iff_eq]
  constructor
  · rintro ⟨⟨⟨bin, indexType⟩, coverage⟩, path⟩
    exact ⟨bin, indexType, coverage, path⟩
  · intro fits
    exact ⟨⟨⟨fits.bin, fits.indexType⟩, fits.coverage⟩, fits.path⟩

theorem Leaf.bin?_eq_some_iff {l : Leaf} {bin : String} :
    l.bin? = some bin ↔ l.target = .field bin := by
  cases h : l.target <;> simp [bin?, h]

namespace Scope

variable {s : Scope} {l : Leaf} {p : Predicate}

def Counts (s : Scope) (l : Leaf) (i : Index) : Prop :=
  ∃ bin, l.target = .field bin ∧ i ∈ s.indexes bin ∧
    ∀ f, l.indexFilter s.encoder = .ok (some f) → i.Fits f

def HasCost (s : Scope) (l : Leaf) : Option UInt64 → Prop
  | some c => 0 < c ∧ (∃ i, s.Counts l i ∧ i.selectivity = c) ∧
      ∀ i, s.Counts l i → 0 < i.selectivity → c ≤ i.selectivity
  | none => ∀ i, s.Counts l i → i.selectivity = 0

def Registered (s : Scope) (l : Leaf) (f : IndexFilter) : Prop :=
  ∃ bin, l.target = .field bin ∧ ∃ i ∈ s.indexes bin, i.Fits f

def candidates (s : Scope) : Predicate → List Leaf
  | .leaf l => [l].filter s.isIndexed
  | .node .and children _ => (Predicate.withinReach children).filter s.isIndexed
  | .node .or _ _ => []

def Chosen (s : Scope) (p : Predicate) (l : Leaf) : Prop :=
  ∃ k, FirstOptimum s.HasCost (s.candidates p) k ∧ (s.candidates p)[k]? = some l

theorem counts_iff {bin : String} {i : Index} (h : l.target = .field bin) :
    s.Counts l i ↔ i ∈ (s.indexes bin).filter (counts (l.indexFilter s.encoder)) := by
  simp only [Counts, h, Target.field.injEq, exists_eq_left', List.mem_filter, counts]
  refine and_congr_right fun _ => ?_
  split
  · rename_i f eq
    simp [eq, Index.serves_iff]
  · rename_i _ other
    simp only [iff_true]
    exact fun f eq => absurd eq (other f)

theorem hasCost_iff {c : Option UInt64} : s.HasCost l c ↔ s.cost l = c := by
  rw [cost]
  cases h : l.bin? with
  | none =>
    have elsewhere : ∀ i, ¬s.Counts l i := fun i ⟨bin, at_bin, _⟩ => by
      rw [Leaf.bin?_eq_some_iff.2 at_bin] at h
      cases h
    cases c <;> simp [HasCost, elsewhere]
  | some bin =>
    simp only [Option.bind_eq_bind, Option.bind_some]
    cases c with
    | none =>
      simp only [HasCost, counts_iff (Leaf.bin?_eq_some_iff.1 h), List.min?_eq_none_iff,
        List.filter_eq_nil_iff, List.forall_mem_map, decide_eq_true_eq, UInt64.not_lt]
      simp
    | some c =>
      simp only [HasCost, counts_iff (Leaf.bin?_eq_some_iff.1 h), List.min?_eq_some_iff]
      grind

theorem hasCost_eq (s : Scope) : s.HasCost = fun l c => s.cost l = c := by
  funext l c
  exact propext hasCost_iff

theorem choose_eq_none_iff {as : List (Slot × Leaf)} : s.choose as = none ↔ as = [] := by
  rw [choose]
  split
  · rename_i best c found
    obtain ⟨k, at_k, -⟩ := firstOptimum_of_cheapest found
    simpa using List.ne_nil_of_mem (List.mem_of_getElem? at_k)
  · exact List.head?_eq_none_iff

theorem firstOptimum_of_choose {as : List (Slot × Leaf)} {a : Slot × Leaf}
    (h : s.choose as = some a) :
    ∃ k, as[k]? = some a ∧ FirstOptimum (fun b => s.HasCost b.2) as k := by
  rw [choose] at h
  simp only [hasCost_eq]
  split at h
  · rename_i best c found
    cases h
    obtain ⟨k, at_k, known, least, first⟩ := firstOptimum_of_cheapest found
    exact ⟨k, at_k, .inl ⟨a, c, at_k, known, least, first⟩⟩
  · rename_i unknown
    refine ⟨0, by rw [← h, List.head?_eq_getElem?], .inr ⟨rfl, ?_, ?_⟩⟩
    · rintro rfl
      cases h
    · exact cheapest_eq_none_iff.1 unknown

theorem conjuncts_filter_map_snd (s : Scope) (children : List Predicate) (st : Settings) :
    ((Predicate.conjuncts children).filter fun x => s.isIndexed x.2).map Prod.snd =
      s.candidates (.node .and children st) := by
  rw [candidates, ← Predicate.conjuncts_map_snd, List.filter_map]
  rfl

theorem filterFor_eq_error_iff {err : QueryError} :
    s.filterFor l = .error err ↔ l.indexFilter s.encoder = .error err := by
  rw [filterFor]
  cases h : l.target with
  | field bin =>
    simp only [Leaf.bin?_eq_some_iff.2 h]
    cases l.indexFilter s.encoder with
    | error e => simp
    | ok x => cases x <;> simp
  | metadata | id => simp [Leaf.bin?, Leaf.indexFilter, h]

theorem filterFor_eq_some_iff {f : IndexFilter} :
    s.filterFor l = .ok (some f) ↔
      l.indexFilter s.encoder = .ok (some f) ∧ s.Registered l f := by
  rw [filterFor]
  cases h : l.target with
  | field bin =>
    simp only [Leaf.bin?_eq_some_iff.2 h, Registered, h, Target.field.injEq, exists_eq_left']
    cases l.indexFilter s.encoder with
    | error e => simp
    | ok x =>
      cases x with
      | none => simp
      | some g =>
        simp only [Except.ok_bind, Except.pure_eq_ok]
        grind [Index.serves_iff]
  | metadata | id => simp [Leaf.bin?, Leaf.indexFilter, h]

def outcome (s : Scope) (p : Predicate) (l : Leaf) (rest : Option Predicate) :
    Except QueryError Selection := do
  match ← s.filterFor l with
  | some f => return ⟨some f, if l.op.isDual then some p else rest⟩
  | none => return .unchanged p

theorem outcome_of_error {rest : Option Predicate} {err : QueryError}
    (h : l.indexFilter s.encoder = .error err) : s.outcome p l rest = .error err := by
  rw [outcome, filterFor_eq_error_iff.2 h, Except.error_bind]

theorem outcome_of_registered {rest : Option Predicate} {f : IndexFilter}
    (h : l.indexFilter s.encoder = .ok (some f)) (there : s.Registered l f) :
    s.outcome p l rest = .ok ⟨some f, if l.op.isDual then some p else rest⟩ := by
  rw [outcome, filterFor_eq_some_iff.2 ⟨h, there⟩, Except.ok_bind]
  rfl

theorem outcome_of_unanswered {rest : Option Predicate} {x : Option IndexFilter}
    (h : l.indexFilter s.encoder = .ok x) (absent : ∀ f ∈ x, ¬s.Registered l f) :
    s.outcome p l rest = .ok (.unchanged p) := by
  cases answer : s.filterFor l with
  | error err => rw [filterFor_eq_error_iff, h] at answer; cases answer
  | ok y =>
    cases y with
    | none =>
      rw [outcome, answer, Except.ok_bind]
      rfl
    | some f =>
      obtain ⟨own, there⟩ := filterFor_eq_some_iff.1 answer
      cases h.symm.trans own
      exact absurd there (absent f rfl)

theorem select_cases (s : Scope) (p : Predicate) :
    s.candidates p = [] ∧ s.select p = .ok (.unchanged p) ∨
      ∃ l rest, s.Chosen p l ∧ (∀ e, Predicate.Splits e p l rest) ∧
        s.select p = s.outcome p l rest := by
  match p with
  | .leaf l =>
    by_cases indexed : s.isIndexed l
    · refine .inr ⟨l, none, ⟨0, ?_⟩, fun e => Predicate.splits_leaf l, ?_⟩
      · rw [candidates, List.filter_cons_of_pos indexed, List.filter_nil, hasCost_eq]
        exact ⟨.singleton l, rfl⟩
      · rw [select, if_pos indexed]
        rfl
    · exact .inl (by simp [candidates, select, indexed])
  | .node .or _ _ => exact .inl ⟨rfl, rfl⟩
  | .node .and children st =>
    cases chosen : s.choose ((Predicate.conjuncts children).filter fun x => s.isIndexed x.2) with
    | none =>
      refine .inl ⟨?_, by simp [select, chosen]⟩
      rw [← conjuncts_filter_map_snd, choose_eq_none_iff.1 chosen, List.map_nil]
    | some a =>
      obtain ⟨slot, l⟩ := a
      obtain ⟨k, at_k, first⟩ := firstOptimum_of_choose chosen
      have within := (List.mem_filter.1 (List.mem_of_getElem? at_k)).1
      refine .inr ⟨l, _, ⟨k, ?_⟩, fun e => Predicate.splits_of_mem_conjuncts within, ?_⟩
      · rw [← conjuncts_filter_map_snd]
        exact ⟨first.map, by rw [List.getElem?_map, at_k]; rfl⟩
      · simp only [select, chosen]
        rfl

theorem eq_of_select {selection : Selection} (h : s.select p = .ok selection) :
    selection = .unchanged p ∨
      ∃ l f rest, l.indexFilter s.encoder = .ok (some f) ∧ (∀ e, Predicate.Splits e p l rest) ∧
        selection = ⟨some f, if l.op.isDual then some p else rest⟩ := by
  obtain ⟨-, unchanged⟩ | ⟨l, rest, -, splits, result⟩ := s.select_cases p
  · exact .inl (Except.ok.inj (h.symm.trans unchanged))
  · rw [result] at h
    obtain ⟨answer, found, h⟩ := Except.bind_eq_ok_iff.1 h
    cases answer with
    | none => exact .inl (Except.ok.inj h).symm
    | some f =>
      exact .inr ⟨l, f, rest, (filterFor_eq_some_iff.1 found).1, splits, (Except.ok.inj h).symm⟩

theorem chosen_of_select_error {err : QueryError} (h : s.select p = .error err) :
    ∃ l rest, s.Chosen p l ∧ l.indexFilter s.encoder = .error err ∧
      ∀ e, Predicate.Splits e p l rest := by
  obtain ⟨-, unchanged⟩ | ⟨l, rest, chosen, splits, result⟩ := s.select_cases p
  · cases unchanged.symm.trans h
  · rw [result] at h
    obtain failed | ⟨answer, -, h⟩ := Except.bind_eq_error_iff.1 h
    · exact ⟨l, rest, chosen, filterFor_eq_error_iff.1 failed, splits⟩
    · cases answer <;> cases h

/-- One candidate is looked at, the first of least known cost: its error is the error of the
selection, its filter is selected just when an index is there for it, and else nothing is. -/
theorem select_decided_by_first_optimum (s : Scope) (p : Predicate) :
    ((∃ children st, p = .node .or children st) → s.select p = .ok (.unchanged p)) ∧
    (s.candidates p = [] → s.select p = .ok (.unchanged p)) ∧
    (s.candidates p ≠ [] → ∃ k l, (∀ j, FirstOptimum s.HasCost (s.candidates p) j ↔ j = k) ∧
      (s.candidates p)[k]? = some l ∧
      (∀ err, l.indexFilter s.encoder = .error err → s.select p = .error err) ∧
      (l.indexFilter s.encoder = .ok none → s.select p = .ok (.unchanged p)) ∧
      ∀ f, l.indexFilter s.encoder = .ok (some f) →
        (s.Registered l f → ∃ rest, s.select p = .ok ⟨some f, rest⟩) ∧
        (¬s.Registered l f → s.select p = .ok (.unchanged p))) := by
  refine ⟨?_, ?_, ?_⟩
  · rintro ⟨children, st, rfl⟩
    rfl
  · intro empty
    obtain ⟨-, unchanged⟩ | ⟨l, rest, ⟨k, -, at_k⟩, -⟩ := s.select_cases p
    · exact unchanged
    · rw [empty] at at_k
      cases at_k
  · intro nonempty
    obtain ⟨empty, -⟩ | ⟨l, rest, ⟨k, first, at_k⟩, -, result⟩ := s.select_cases p
    · exact absurd empty nonempty
    refine ⟨k, l, fun j => ?_, at_k, ?_, ?_, ?_⟩
    · rw [hasCost_eq] at first ⊢
      constructor
      · exact fun other => other.unique first
      · rintro rfl
        exact first
    · exact fun err h => result.trans (outcome_of_error h)
    · exact fun h => result.trans (outcome_of_unanswered h (by simp))
    · intro f h
      constructor
      · exact fun there => ⟨_, result.trans (outcome_of_registered h there)⟩
      · exact fun absent => result.trans (outcome_of_unanswered h (by simpa using absent))

theorem select_decided_by_first_optimum_of_tie :
    let a : Leaf := .onBin "a" (.scalar (.compare .eq)) (.int 1)
    let b : Leaf := .onBin "b" (.scalar (.compare .eq)) (.int 2)
    let c : Leaf := .onBin "c" (.scalar (.compare .eq)) (.int 3)
    let catalog : Catalog := ⟨[.onBin .numeric "ns" "set" "a",
      { Index.onBin .string "ns" "set" "b" with selectivity := 2 },
      { Index.onBin .numeric "ns" "set" "b" with selectivity := 5 },
      { Index.onBin .numeric "ns" "set" "c" with selectivity := 5 }]⟩
    let s : Scope := ⟨catalog.directory, "ns", "set", .json⟩
    let p : Predicate := .and [.leaf a, .and [.leaf b], .leaf c]
    s.candidates p ≠ [] ∧
      ∃ rest, s.select p = .ok ⟨some { bin := "b", kind := .equal (.int 2) }, rest⟩ := by
  intro a b c catalog s p
  have candidates : s.candidates p = [a, b, c] := rfl
  have nonempty : s.candidates p ≠ [] := List.cons_ne_nil a [b, c]
  have costA : s.cost a = none := by decide +kernel
  have costB : s.cost b = some 5 := by decide +kernel
  have costC : s.cost c = some 5 := by decide +kernel
  have second : FirstOptimum s.HasCost (s.candidates p) 1 := by
    rw [hasCost_eq, candidates]
    exact .inl ⟨b, 5, rfl, costB, by simp [costA, costB, costC], by simp [costA]⟩
  obtain ⟨k, l, unique, at_k, -, -, found⟩ := (select_decided_by_first_optimum s p).2.2 nonempty
  obtain rfl := (unique 1).1 second
  obtain rfl : b = l := Option.some.inj at_k
  have there : s.Registered b { bin := "b", kind := .equal (.int 2) } :=
    ⟨"b", rfl, { Index.onBin .numeric "ns" "set" "b" with selectivity := 5 },
      List.mem_of_getElem? (i := 1) (by rfl), rfl, rfl, rfl, rfl⟩
  exact ⟨nonempty, (found _ rfl).1 there⟩

end Scope

end StoreQuery
