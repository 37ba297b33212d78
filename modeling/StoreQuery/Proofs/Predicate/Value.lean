import Mathlib.Data.List.Perm.Basic
import StoreQuery.Proofs.Predicate.Expression

namespace StoreQuery

namespace Truth

theorem and_comm (a b : Truth) : a.and b = b.and a := by cases a <;> cases b <;> rfl

theorem and_assoc (a b c : Truth) : (a.and b).and c = a.and (b.and c) := by
  cases a <;> cases b <;> cases c <;> rfl

theorem or_comm (a b : Truth) : a.or b = b.or a := by cases a <;> cases b <;> rfl

theorem or_assoc (a b c : Truth) : (a.or b).or c = a.or (b.or c) := by
  cases a <;> cases b <;> cases c <;> rfl

@[simp] theorem holds_and (a : Truth) : holds.and a = a := by cases a <;> rfl

@[simp] theorem and_holds (a : Truth) : a.and holds = a := by cases a <;> rfl

@[simp] theorem fails_or (a : Truth) : fails.or a = a := by cases a <;> rfl

@[simp] theorem or_fails (a : Truth) : a.or fails = a := by cases a <;> rfl

end Truth

namespace Connective

def combine : Connective → Truth → Truth → Truth
  | .and => Truth.and
  | .or => Truth.or

def unit : Connective → Truth
  | .and => .holds
  | .or => .fails

theorem combine_comm (kind : Connective) (a b : Truth) :
    kind.combine a b = kind.combine b a := by
  cases kind with
  | and => exact Truth.and_comm a b
  | or => exact Truth.or_comm a b

theorem combine_assoc (kind : Connective) (a b c : Truth) :
    kind.combine (kind.combine a b) c = kind.combine a (kind.combine b c) := by
  cases kind with
  | and => exact Truth.and_assoc a b c
  | or => exact Truth.or_assoc a b c

@[simp] theorem unit_combine (kind : Connective) (a : Truth) : kind.combine kind.unit a = a := by
  cases kind <;> simp [combine, unit]

@[simp] theorem combine_unit (kind : Connective) (a : Truth) : kind.combine a kind.unit = a := by
  cases kind <;> simp [combine, unit]

instance (kind : Connective) : LeftCommutative kind.combine where
  left_comm a b c := by
    rw [← combine_assoc, kind.combine_comm a b, combine_assoc]

def fold (kind : Connective) (values : List Truth) : Truth := values.foldr kind.combine kind.unit

@[simp] theorem fold_nil (kind : Connective) : kind.fold [] = kind.unit := rfl

@[simp] theorem fold_cons (kind : Connective) (a : Truth) (values : List Truth) :
    kind.fold (a :: values) = kind.combine a (kind.fold values) := rfl

theorem fold_append (kind : Connective) (as bs : List Truth) :
    kind.fold (as ++ bs) = kind.combine (kind.fold as) (kind.fold bs) := by
  induction as with
  | nil => simp
  | cons a rest ih => rw [List.cons_append, fold_cons, ih, fold_cons, combine_assoc]

theorem fold_perm (kind : Connective) {as bs : List Truth} (h : as.Perm bs) :
    kind.fold as = kind.fold bs :=
  h.foldr_eq kind.unit

def total (kind : Connective) (values : List Truth) : Option Truth :=
  if values.isEmpty then none else some (kind.fold values)

theorem total_perm (kind : Connective) {as bs : List Truth} (h : as.Perm bs) :
    kind.total as = kind.total bs := by
  rw [total, total, kind.fold_perm h, h.isEmpty_eq]

theorem total_splice (kind : Connective) (as bs cs : List Truth) :
    kind.total (as ++ ((kind.total bs).toList ++ cs)) = kind.total (as ++ (bs ++ cs)) := by
  cases bs with
  | nil => rfl
  | cons b rest => simp [total, fold_append, combine_assoc]

end Connective

namespace Predicate

mutual

def value (v : Leaf → Truth) : Predicate → Option Truth
  | .leaf l => some (v l)
  | .node kind children _ => kind.total (values v children)

def values (v : Leaf → Truth) : List Predicate → List Truth
  | [] => []
  | p :: rest => (value v p).toList ++ values v rest

end

theorem values_eq_flatMap (v : Leaf → Truth) (ps : List Predicate) :
    values v ps = ps.flatMap fun p => (p.value v).toList := by
  induction ps with
  | nil => rfl
  | cons p rest ih => rw [values, List.flatMap_cons, ih]

theorem values_append (v : Leaf → Truth) (ps qs : List Predicate) :
    values v (ps ++ qs) = values v ps ++ values v qs := by
  simp [values_eq_flatMap]

end Predicate

namespace Expr

variable {r : Record}

theorem evaluateAll_eq_fold (es : List Expr) :
    evaluateAll r es = Connective.and.fold (es.map (·.evaluate r)) := by
  induction es with
  | nil => rfl
  | cons x rest ih =>
    rw [evaluateAll, ih, List.map_cons, Connective.fold_cons]
    rfl

theorem evaluateAny_eq_fold (es : List Expr) :
    evaluateAny r es = Connective.or.fold (es.map (·.evaluate r)) := by
  induction es with
  | nil => rfl
  | cons x rest ih =>
    rw [evaluateAny, ih, List.map_cons, Connective.fold_cons]
    rfl

theorem evaluate_and (es : List Expr) :
    (and es).evaluate r = Connective.and.fold (es.map (·.evaluate r)) := by
  rw [evaluate, evaluateAll_eq_fold]

theorem evaluate_or (es : List Expr) :
    (or es).evaluate r = Connective.or.fold (es.map (·.evaluate r)) := by
  rw [evaluate, evaluateAny_eq_fold]

theorem evaluate_join (kind : Connective) (es : List Expr) :
    (kind.join es).evaluate r = kind.fold (es.map (·.evaluate r)) := by
  match kind, es with
  | .and, [] | .or, [] => rfl
  | kind, [x] => cases kind <;> simp [Connective.join, allOf, anyOf]
  | .and, x :: y :: rest => exact evaluate_and _
  | .or, x :: y :: rest => exact evaluate_or _

end Expr

def Leaf.truth (e : Encoder) (r : Record) (l : Leaf) : Truth :=
  match l.expression e with
  | .ok x => x.evaluate r
  | .error _ => .unknown

namespace Predicate

variable {e : Encoder}

mutual

theorem value_eq_of_expression (r : Record) {x : Option Expr} : ∀ {p : Predicate},
    p.expression e = .ok x → p.value (Leaf.truth e r) = x.map (·.evaluate r)
  | .leaf l, h => by
    obtain ⟨y, own, rfl⟩ := expression_leaf_eq_ok_iff.1 h
    simp [value, Leaf.truth, own]
  | .node kind ps s, h => by
    obtain ⟨xs, members, rfl⟩ := expression_node_eq_ok_iff.1 h
    rw [value, values_eq_of_expressionsOf r members, Connective.total, List.isEmpty_map]
    split
    · rfl
    · rw [Option.map_some, Expr.evaluate_join]

theorem values_eq_of_expressionsOf (r : Record) {xs : List Expr} : ∀ {ps : List Predicate},
    expressionsOf e ps = .ok xs → values (Leaf.truth e r) ps = xs.map (·.evaluate r)
  | [], h => by
    cases h
    rfl
  | p :: rest, h => by
    obtain ⟨x, xs, first, others, rfl⟩ := expressionsOf_cons_eq_ok_iff.1 h
    rw [values, value_eq_of_expression r first, values_eq_of_expressionsOf r others]
    cases x <;> rfl

end

theorem passes_iff_value {r : Record} {p : Predicate} {x : Option Expr}
    (h : p.expression e = .ok x) :
    r.Passes x ↔ ∀ t ∈ p.value (Leaf.truth e r), t = .holds := by
  rw [value_eq_of_expression r h]
  cases x <;> simp

end Predicate

end StoreQuery
