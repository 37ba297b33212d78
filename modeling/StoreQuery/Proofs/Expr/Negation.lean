import StoreQuery.Proofs.Predicate.Value

namespace StoreQuery

namespace Truth

@[simp] theorem not_not (a : Truth) : a.not.not = a := by cases a <;> rfl

@[simp] theorem not_ofBool (b : Bool) : (ofBool b).not = ofBool (!b) := by cases b <;> rfl

end Truth

namespace Inequality

def complement : Inequality → Inequality
  | .lt => .ge
  | .le => .gt
  | .gt => .le
  | .ge => .lt

theorem admits_complement (i : Inequality) (o : Ordering) :
    i.complement.admits o = !i.admits o := by
  cases i <;> cases o <;> rfl

end Inequality

namespace Comparison

def complement : Comparison → Comparison
  | .eq => .ne
  | .ne => .eq
  | .ineq i => .ineq i.complement

theorem evaluate_complement (c : Comparison) (a b : Json) :
    c.complement.evaluate a b = (c.evaluate a b).not := by
  cases c with
  | eq => simp [complement, evaluate]
  | ne => simp [complement, evaluate]
  | ineq i =>
    simp only [complement, evaluate]
    cases a.compare? b with
    | none => rfl
    | some o => simp [Inequality.admits_complement]

end Comparison

namespace Connective

def dual : Connective → Connective
  | .and => .or
  | .or => .and

theorem not_combine (kind : Connective) (a b : Truth) :
    (kind.combine a b).not = kind.dual.combine a.not b.not := by
  cases kind with
  | and => exact Truth.not_and a b
  | or => exact Truth.not_or a b

end Connective

namespace Expr

def Negates (x y : Expr) : Prop := ∀ r, y.evaluate r = (x.evaluate r).not

theorem Negates.symm {x y : Expr} (h : x.Negates y) : y.Negates x := by
  intro r
  rw [h r, Truth.not_not]

theorem negates_not (x : Expr) : x.Negates (.not x) := fun _ => by rw [evaluate]

theorem negates_compare (c : Comparison) (left right : Operand) :
    (compare c left right).Negates (compare c.complement left right) := by
  intro r
  simp only [evaluate]
  cases left.resolve r <;> cases right.resolve r <;>
    first | rfl | exact c.evaluate_complement _ _

theorem negates_join (kind : Connective) {xs ys : List Expr} (h : List.Forall₂ Negates xs ys) :
    (kind.join xs).Negates (kind.dual.join ys) := by
  intro r
  rw [evaluate_join, evaluate_join]
  induction h with
  | nil => cases kind <;> rfl
  | cons head _ ih =>
    rw [List.map_cons, List.map_cons, Connective.fold_cons, Connective.fold_cons, ih, head r,
      kind.not_combine]

end Expr

end StoreQuery
