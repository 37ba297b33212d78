import StoreQuery.Proofs.Expr.Negation

/-!
Negations moved inward: two of them cancel, AND and OR trade places over negated members, and a
comparison turns into its complement. Only a test that has no complement keeps one before it. The
value stays the same on every record.
-/

namespace StoreQuery.Expr

mutual

def inward : Expr → Expr
  | .const b => .const b
  | .compare c left right => .compare c left right
  | .regex source pattern flags => .regex source pattern flags
  | .binExists bin => .binExists bin
  | .geoWithin source region => .geoWithin source region
  | .and es => .and (inwardOf es)
  | .or es => .or (inwardOf es)
  | .not e => inwardNot e

def inwardOf : List Expr → List Expr
  | [] => []
  | e :: rest => inward e :: inwardOf rest

def inwardNot : Expr → Expr
  | .const b => .const (!b)
  | .compare c left right => .compare c.complement left right
  | .regex source pattern flags => .not (.regex source pattern flags)
  | .binExists bin => .not (.binExists bin)
  | .geoWithin source region => .not (.geoWithin source region)
  | .and es => .anyOf (inwardNotOf es)
  | .or es => .allOf (inwardNotOf es)
  | .not e => inward e

def inwardNotOf : List Expr → List Expr
  | [] => []
  | e :: rest => inwardNot e :: inwardNotOf rest

end

inductive Uncomplemented : Expr → Prop
  | regex (source : Operand) (pattern : String) (flags : PatternFlags) :
    Uncomplemented (.regex source pattern flags)
  | binExists (bin : String) : Uncomplemented (.binExists bin)
  | geoWithin (source : Operand) (region : Json) : Uncomplemented (.geoWithin source region)

inductive NegationsInmost : Expr → Prop
  | const (b : Bool) : NegationsInmost (.const b)
  | compare (c : Comparison) (left right : Operand) : NegationsInmost (.compare c left right)
  | test {x : Expr} (h : x.Uncomplemented) : NegationsInmost x
  | notTest {x : Expr} (h : x.Uncomplemented) : NegationsInmost (.not x)
  | and {es : List Expr} (h : ∀ x ∈ es, NegationsInmost x) : NegationsInmost (.and es)
  | or {es : List Expr} (h : ∀ x ∈ es, NegationsInmost x) : NegationsInmost (.or es)

theorem negationsInmost_join (kind : Connective) {es : List Expr}
    (h : ∀ x ∈ es, x.NegationsInmost) : (kind.join es).NegationsInmost := by
  match kind, es with
  | .and, [] | .or, [] => exact .const _
  | .and, [x] | .or, [x] => exact h x (List.mem_singleton_self x)
  | .and, x :: y :: rest => exact .and h
  | .or, x :: y :: rest => exact .or h

mutual

theorem negationsInmost_inward : (x : Expr) → x.inward.NegationsInmost
  | .const b => .const b
  | .compare c left right => .compare c left right
  | .regex source pattern flags => .test (.regex source pattern flags)
  | .binExists bin => .test (.binExists bin)
  | .geoWithin source region => .test (.geoWithin source region)
  | .and es => .and (negationsInmost_inwardOf es)
  | .or es => .or (negationsInmost_inwardOf es)
  | .not x => negationsInmost_inwardNot x

theorem negationsInmost_inwardOf : (es : List Expr) → ∀ x ∈ inwardOf es, x.NegationsInmost
  | [] => List.forall_mem_nil _
  | x :: rest =>
    List.forall_mem_cons.2 ⟨negationsInmost_inward x, negationsInmost_inwardOf rest⟩

theorem negationsInmost_inwardNot : (x : Expr) → x.inwardNot.NegationsInmost
  | .const b => .const (!b)
  | .compare c left right => .compare c.complement left right
  | .regex source pattern flags => .notTest (.regex source pattern flags)
  | .binExists bin => .notTest (.binExists bin)
  | .geoWithin source region => .notTest (.geoWithin source region)
  | .and es => negationsInmost_join .or (negationsInmost_inwardNotOf es)
  | .or es => negationsInmost_join .and (negationsInmost_inwardNotOf es)
  | .not x => negationsInmost_inward x

theorem negationsInmost_inwardNotOf : (es : List Expr) → ∀ x ∈ inwardNotOf es, x.NegationsInmost
  | [] => List.forall_mem_nil _
  | x :: rest =>
    List.forall_mem_cons.2 ⟨negationsInmost_inwardNot x, negationsInmost_inwardNotOf rest⟩

end

mutual

theorem evaluate_inward (r : Record) : (x : Expr) → x.inward.evaluate r = x.evaluate r
  | .const _ | .compare .. | .regex .. | .binExists _ | .geoWithin .. => rfl
  | .and es => by rw [inward, evaluate_and, evaluate_and, evaluate_inwardOf r es]
  | .or es => by rw [inward, evaluate_or, evaluate_or, evaluate_inwardOf r es]
  | .not x => by
    rw [inward, evaluate]
    exact negates_inwardNot x r

theorem evaluate_inwardOf (r : Record) : (es : List Expr) →
    (inwardOf es).map (·.evaluate r) = es.map (·.evaluate r)
  | [] => rfl
  | x :: rest => by
    rw [inwardOf, List.map_cons, List.map_cons, evaluate_inward r x, evaluate_inwardOf r rest]

theorem negates_inwardNot : (x : Expr) → x.Negates x.inwardNot
  | .const b => by
    intro r
    simp [inwardNot, evaluate]
  | .compare c left right => negates_compare c left right
  | .regex source pattern flags => negates_not _
  | .binExists bin => negates_not _
  | .geoWithin source region => negates_not _
  -- A single member is unwrapped on one side only, which does not show in the value.
  | .and es => by
    intro r
    rw [evaluate_and, ← evaluate_join]
    exact negates_join .and (negates_inwardNotOf es) r
  | .or es => by
    intro r
    rw [evaluate_or, ← evaluate_join]
    exact negates_join .or (negates_inwardNotOf es) r
  | .not x => by
    intro r
    rw [inwardNot, evaluate_inward r x, evaluate, Truth.not_not]

theorem negates_inwardNotOf : (es : List Expr) → List.Forall₂ Negates es (inwardNotOf es)
  | [] => .nil
  | x :: rest => .cons (negates_inwardNot x) (negates_inwardNotOf rest)

end

/-- Once moved inward, negations stand only before tests without a complement, and the expression
has the value that it had on every record. -/
theorem negations_move_inward (x : Expr) :
    x.inward.NegationsInmost ∧ ∀ r, x.inward.evaluate r = x.evaluate r :=
  ⟨negationsInmost_inward x, fun r => evaluate_inward r x⟩

end StoreQuery.Expr
