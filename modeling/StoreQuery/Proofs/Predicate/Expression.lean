import StoreQuery.Plan.Query
import StoreQuery.Proofs.Except
import StoreQuery.Proofs.Expr.Holds

namespace StoreQuery.Predicate

variable {e : Encoder} {r : Record}

theorem expression_leaf_eq_ok_iff {l : Leaf} {x : Option Expr} :
    (leaf l).expression e = .ok x ↔ ∃ y, l.expression e = .ok y ∧ x = some y :=
  Except.bind_pure_eq_ok_iff

theorem expression_node_eq_ok_iff {kind : Connective} {ps : List Predicate} {s : Settings}
    {x : Option Expr} :
    (node kind ps s).expression e = .ok x ↔
      ∃ xs, expressionsOf e ps = .ok xs ∧ x = if xs.isEmpty then none else some (kind.join xs) :=
  Except.bind_pure_eq_ok_iff

theorem expressionsOf_cons_eq_ok_iff {p : Predicate} {ps : List Predicate} {zs : List Expr} :
    expressionsOf e (p :: ps) = .ok zs ↔
      ∃ x xs, p.expression e = .ok x ∧ expressionsOf e ps = .ok xs ∧ zs = x.toList ++ xs := by
  rw [expressionsOf, Except.bind_eq_ok_iff]
  simp only [Except.bind_pure_eq_ok_iff, exists_and_left]

theorem expressionsOf_append (ps qs : List Predicate) :
    expressionsOf e (ps ++ qs) = do
      return (← expressionsOf e ps) ++ (← expressionsOf e qs) := by
  induction ps with
  | nil => exact (bind_pure _).symm
  | cons p rest ih =>
    rw [List.cons_append, expressionsOf, expressionsOf, ih]
    simp only [bind_assoc, pure_bind, List.append_assoc]

theorem expressionsOf_append_eq_ok_iff {ps qs : List Predicate} {zs : List Expr} :
    expressionsOf e (ps ++ qs) = .ok zs ↔
      ∃ xs ys, expressionsOf e ps = .ok xs ∧ expressionsOf e qs = .ok ys ∧ zs = xs ++ ys := by
  rw [expressionsOf_append, Except.bind_eq_ok_iff]
  simp only [Except.bind_pure_eq_ok_iff, exists_and_left]

theorem expressionsOf_toList (p : Option Predicate) :
    expressionsOf e p.toList = do return (← residualExpression e p).toList := by
  cases p with
  | none => rfl
  | some p =>
    simp only [Option.toList_some, expressionsOf, residualExpression, Except.ok_bind,
      List.append_nil]

theorem expressionsOf_toList_eq_ok_iff {p : Option Predicate} {xs : List Expr} :
    expressionsOf e p.toList = .ok xs ↔ ∃ x, residualExpression e p = .ok x ∧ xs = x.toList := by
  rw [expressionsOf_toList, Except.bind_pure_eq_ok_iff]

theorem residualExpression_rebuild (kind : Connective) (s : Settings) (ps : List Predicate) :
    residualExpression e (rebuild kind s ps) = (node kind ps s).expression e := by
  match ps with
  | [] => rfl
  | [p] =>
    simp only [rebuild, residualExpression, expression, expressionsOf]
    cases p.expression e with
    | error => rfl
    | ok x => cases x <;> cases kind <;> rfl
  | p :: q :: rest => rfl

mutual

theorem eq_none_iff_of_expression {x : Option Expr} : ∀ {p : Predicate},
    p.expression e = .ok x → (x = none ↔ p.leaves = [])
  | .leaf l, h => by
    obtain ⟨y, -, rfl⟩ := expression_leaf_eq_ok_iff.1 h
    simp [leaves]
  | .node kind ps s, h => by
    obtain ⟨xs, members, rfl⟩ := expression_node_eq_ok_iff.1 h
    simp [leaves, ← eq_nil_iff_of_expressionsOf members]

theorem eq_nil_iff_of_expressionsOf {xs : List Expr} : ∀ {ps : List Predicate},
    expressionsOf e ps = .ok xs → (xs = [] ↔ leavesOf ps = [])
  | [], h => by
    cases h
    simp [leavesOf]
  | p :: rest, h => by
    obtain ⟨x, xs, first, others, rfl⟩ := expressionsOf_cons_eq_ok_iff.1 h
    simp [leavesOf, ← eq_none_iff_of_expression first, ← eq_nil_iff_of_expressionsOf others]

end

theorem passes_and_iff {ps : List Predicate} {s : Settings} {xs : List Expr} {x : Option Expr}
    (members : expressionsOf e ps = .ok xs) (whole : (node .and ps s).expression e = .ok x) :
    r.Passes x ↔ ∀ y ∈ xs, y.evaluate r = .holds := by
  obtain ⟨xs', members', rfl⟩ := expression_node_eq_ok_iff.1 whole
  obtain rfl : xs = xs' := Except.ok.inj (members.symm.trans members')
  cases xs with
  | nil => simp
  | cons y rest =>
    rw [List.isEmpty_cons, if_neg Bool.false_ne_true, Record.passes_some]
    exact Expr.evaluate_allOf_eq_holds_iff

variable {l : Leaf} {p : Predicate}

inductive Requires (l : Leaf) : Predicate → Prop
  | leaf : Requires l (.leaf l)
  | and {children : List Predicate} {p : Predicate} (s : Settings) (mem : p ∈ children)
    (h : Requires l p) : Requires l (.node .and children s)

theorem exists_expression_of_mem {ps : List Predicate} {xs : List Expr} (mem : p ∈ ps)
    (members : expressionsOf e ps = .ok xs) : ∃ x, p.expression e = .ok x ∧ ∀ y ∈ x, y ∈ xs := by
  obtain ⟨before, after, rfl⟩ := List.append_of_mem mem
  obtain ⟨bs, _, -, tail, rfl⟩ := expressionsOf_append_eq_ok_iff.1 members
  obtain ⟨x, as, own, -, rfl⟩ := expressionsOf_cons_eq_ok_iff.1 tail
  exact ⟨x, own, by simp +contextual⟩

theorem Requires.holds (h : p.Requires l) {x : Option Expr} (whole : p.expression e = .ok x) :
    ∃ y z, x = some y ∧ l.expression e = .ok z ∧
      ∀ r, y.evaluate r = .holds → z.evaluate r = .holds := by
  induction h generalizing x with
  | leaf =>
    obtain ⟨y, own, rfl⟩ := expression_leaf_eq_ok_iff.1 whole
    exact ⟨y, y, rfl, own, fun _ holds => holds⟩
  | and s mem _ ih =>
    obtain ⟨xs, members, rfl⟩ := expression_node_eq_ok_iff.1 whole
    obtain ⟨_, part, inside⟩ := exists_expression_of_mem mem members
    obtain ⟨y, z, rfl, own, required⟩ := ih part
    have member : y ∈ xs := inside y rfl
    have nonempty : xs.isEmpty = false :=
      List.isEmpty_eq_false_iff.2 (List.ne_nil_of_mem member)
    refine ⟨_, z, by rw [nonempty, if_neg Bool.false_ne_true], own, fun r holds => required r ?_⟩
    exact Expr.evaluate_allOf_eq_holds_iff.1 holds y member

end StoreQuery.Predicate
