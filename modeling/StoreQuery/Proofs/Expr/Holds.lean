import StoreQuery.Expr.Eval

namespace StoreQuery

namespace Truth

@[simp] theorem ofBool_eq_holds_iff {b : Bool} : ofBool b = .holds ↔ b = true := by
  cases b <;> simp [ofBool]

@[simp] theorem and_eq_holds_iff {a b : Truth} : a.and b = .holds ↔ a = .holds ∧ b = .holds := by
  cases a <;> cases b <;> simp [and]

@[simp] theorem or_eq_holds_iff {a b : Truth} : a.or b = .holds ↔ a = .holds ∨ b = .holds := by
  cases a <;> cases b <;> simp [or]

end Truth

namespace Expr

variable {r : Record}

theorem evaluateAll_eq_holds_iff {es : List Expr} :
    evaluateAll r es = .holds ↔ ∀ e ∈ es, e.evaluate r = .holds := by
  induction es with
  | nil => simp [evaluateAll]
  | cons e rest ih => simp [evaluateAll, ih]

theorem evaluateAny_eq_holds_iff {es : List Expr} :
    evaluateAny r es = .holds ↔ ∃ e ∈ es, e.evaluate r = .holds := by
  induction es with
  | nil => simp [evaluateAny]
  | cons e rest ih => simp [evaluateAny, ih]

theorem evaluate_allOf_eq_holds_iff {es : List Expr} :
    (allOf es).evaluate r = .holds ↔ ∀ e ∈ es, e.evaluate r = .holds := by
  match es with
  | [] => simp [allOf, evaluate]
  | [e] => simp [allOf]
  | e :: f :: rest => simp only [allOf, evaluate, evaluateAll_eq_holds_iff]

theorem evaluate_allOf_pair_eq_holds_iff {a b : Expr} :
    (allOf [a, b]).evaluate r = .holds ↔ a.evaluate r = .holds ∧ b.evaluate r = .holds := by
  simp [evaluate_allOf_eq_holds_iff]

theorem evaluate_anyOf_eq_holds_iff {es : List Expr} :
    (anyOf es).evaluate r = .holds ↔ ∃ e ∈ es, e.evaluate r = .holds := by
  match es with
  | [] => simp [anyOf, evaluate]
  | [e] => simp [anyOf]
  | e :: f :: rest => simp only [anyOf, evaluate, evaluateAny_eq_holds_iff]

theorem evaluate_compare_eq_holds_iff {c : Comparison} {left right : Operand} :
    (compare c left right).evaluate r = .holds ↔
      ∃ a b, left.resolve r = some a ∧ right.resolve r = some b ∧ c.evaluate a b = .holds := by
  simp only [evaluate]
  cases left.resolve r <;> cases right.resolve r <;> simp

theorem evaluate_compare_literal_eq_holds_iff {c : Comparison} {left : Operand} {v : Json} :
    (compare c left (.literal v)).evaluate r = .holds ↔
      ∃ a, left.resolve r = some a ∧ c.evaluate a v = .holds := by
  simp [evaluate_compare_eq_holds_iff, Operand.resolve]

end Expr

theorem Comparison.evaluate_eq_holds_iff {a b : Json} :
    Comparison.eq.evaluate a b = .holds ↔ a.equal b := by
  simp [evaluate]

theorem Comparison.evaluate_ineq_eq_holds_iff {i : Inequality} {a b : Json} :
    (Comparison.ineq i).evaluate a b = .holds ↔ ∃ o, a.compare? b = some o ∧ i.admits o := by
  simp only [evaluate]
  cases a.compare? b <;> simp

def Record.Passes (r : Record) (x : Option Expr) : Prop := ∀ e ∈ x, e.evaluate r = .holds

@[simp] theorem Record.passes_none (r : Record) : r.Passes none := by simp [Passes]

@[simp] theorem Record.passes_some {r : Record} {x : Expr} :
    r.Passes (some x) ↔ x.evaluate r = .holds := by simp [Passes]

end StoreQuery
