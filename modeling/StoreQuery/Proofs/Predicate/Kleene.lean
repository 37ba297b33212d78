import StoreQuery.Proofs.Expr.Negation

namespace StoreQuery

namespace Connective

/-- The value of a node over members with the given values. A member that fails decides an AND, one
that holds decides an OR; short of that, a member that is unknown leaves the node unknown. -/
def kleene (kind : Connective) (values : List Truth) : Truth :=
  if kind.dual.unit ∈ values then kind.dual.unit
  else if .unknown ∈ values then .unknown
  else kind.unit

theorem combine_kleene (kind : Connective) (a : Truth) (values : List Truth) :
    kind.combine a (kind.kleene values) = kind.kleene (a :: values) := by
  simp only [kleene, List.mem_cons]
  -- What the members after the first one come to, in the order of the definition.
  by_cases decided : kind.dual.unit ∈ values
  · simp only [decided, or_true, if_true]
    cases kind <;> cases a <;> rfl
  by_cases undecided : Truth.unknown ∈ values
  · simp only [decided, undecided, or_false, or_true, if_true, if_false]
    cases kind <;> cases a <;> rfl
  · simp only [decided, undecided, or_false, if_false]
    cases kind <;> cases a <;> rfl

theorem fold_eq_kleene (kind : Connective) (values : List Truth) :
    kind.fold values = kind.kleene values := by
  induction values with
  | nil => cases kind <;> rfl
  | cons a rest ih => rw [fold_cons, ih, combine_kleene]

end Connective

namespace Predicate

mutual

def kleene (v : Leaf → Truth) : Predicate → Truth
  | .leaf l => v l
  | .node kind children _ => kind.kleene (kleeneValues v children)

def kleeneValues (v : Leaf → Truth) : List Predicate → List Truth
  | [] => []
  | p :: rest => if p.leaves = [] then kleeneValues v rest else kleene v p :: kleeneValues v rest

end

theorem kleeneValues_eq_map_filter (v : Leaf → Truth) (ps : List Predicate) :
    kleeneValues v ps = (ps.filter fun p => p.leaves ≠ []).map (kleene v) := by
  induction ps with
  | nil => rfl
  | cons p rest ih =>
    rw [kleeneValues, ih, List.filter_cons]
    by_cases noLeaves : p.leaves = [] <;> simp [noLeaves]

theorem kleeneValues_eq_nil_iff {v : Leaf → Truth} {ps : List Predicate} :
    kleeneValues v ps = [] ↔ leavesOf ps = [] := by
  simp [kleeneValues_eq_map_filter, leavesOf_eq_flatMap]

mutual

theorem value_eq_kleene (v : Leaf → Truth) : (p : Predicate) →
    p.value v = if p.leaves = [] then none else some (p.kleene v)
  | .leaf l => rfl
  | .node kind ps s => by
    rw [value, values_eq_kleeneValues v ps, Connective.total, leaves, kleene]
    simp only [List.isEmpty_iff, kleeneValues_eq_nil_iff, Connective.fold_eq_kleene]

theorem values_eq_kleeneValues (v : Leaf → Truth) : (ps : List Predicate) →
    values v ps = kleeneValues v ps
  | [] => rfl
  | p :: rest => by
    rw [values, kleeneValues, value_eq_kleene v p, values_eq_kleeneValues v rest]
    split
    · rfl
    · rfl

end

variable {e : Encoder}

open Except (Parallel)

mutual

theorem expression_parallel (e : Encoder) : (p : Predicate) →
    Parallel Eq (fun _ _ => True) (p.expression e) (p.leaves.mapM (·.expression e))
  | .leaf l => by
    rw [leaves, List.mapM_cons, List.mapM_nil]
    apply Parallel.bind_eq (.refl _)
    intro x
    exact .ok trivial
  | .node kind ps s => by
    rw [leaves, ← bind_pure ((leavesOf ps).mapM _)]
    apply Parallel.bind (expressionsOf_parallel e ps)
    intro xs ys _
    exact .ok trivial

theorem expressionsOf_parallel (e : Encoder) : (ps : List Predicate) →
    Parallel Eq (fun _ _ => True) (expressionsOf e ps) ((leavesOf ps).mapM (·.expression e))
  | [] => .ok trivial
  | p :: rest => by
    rw [leavesOf, List.mapM_append]
    apply Parallel.bind (expression_parallel e p)
    intro x xs _
    apply Parallel.bind (expressionsOf_parallel e rest)
    intro ys zs _
    exact .ok trivial

end

theorem expression_eq_ok_none_iff {p : Predicate} :
    p.expression e = .ok none ↔ p.leaves = [] := by
  constructor
  · intro compiled
    exact (eq_none_iff_of_expression compiled).1 rfl
  · intro noLeaves
    have parallel := expression_parallel e p
    rw [noLeaves, List.mapM_nil] at parallel
    generalize compiled : p.expression e = x at parallel
    cases parallel with
    | ok => rw [(eq_none_iff_of_expression compiled).2 noLeaves]

/-- A predicate fails just when one of its leaves does, with the error of the first one. It leaves
nothing to check just when it has no leaf. Otherwise its expression has the value that the leaves'
own expressions give the tree. -/
theorem expression_follows_leaves (p : Predicate) (e : Encoder) :
    ((∃ err, p.expression e = .error err) ↔
      ∃ l ∈ p.leaves, ∃ err, l.expression e = .error err) ∧
    (∀ err, p.expression e = .error err ↔
      ∃ before l after, p.leaves = before ++ l :: after ∧
        (∀ k ∈ before, ∃ x, k.expression e = .ok x) ∧ l.expression e = .error err) ∧
    (p.expression e = .ok none ↔ p.leaves = []) ∧
    ∀ x, p.expression e = .ok (some x) → ∀ r, x.evaluate r = p.kleene (Leaf.truth e r) := by
  have fails (err : QueryError) := (expression_parallel e p).eq_error_iff (e := err)
  refine ⟨?_, ?_, expression_eq_ok_none_iff, ?_⟩
  · simp only [fails, Except.mapM_fails_iff]
  · intro err
    rw [fails, Except.mapM_eq_error_iff]
  · intro x compiled r
    have hasLeaves : p.leaves ≠ [] := fun noLeaves =>
      Option.some_ne_none x ((eq_none_iff_of_expression compiled).2 noLeaves)
    have value := value_eq_of_expression r compiled
    rw [value_eq_kleene, if_neg hasLeaves] at value
    exact (Option.some.inj value).symm

theorem expression_follows_leaves_of_empty_nodes :
    let p : Predicate := .or [.and [], .compare .eq "a" (.int 1),
      .and [.or [], .compare .eq "b" (.int 2)]]
    ∃ x, p.expression .json = .ok (some x) ∧
      ∀ r, x.evaluate r = p.kleene (Leaf.truth .json r) :=
  ⟨_, rfl, (expression_follows_leaves _ .json).2.2.2 _ rfl⟩

end Predicate

end StoreQuery
