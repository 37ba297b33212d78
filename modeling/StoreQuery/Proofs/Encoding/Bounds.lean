import StoreQuery.Encoding.Predicate
import StoreQuery.Proofs.Encoding.Scalar
import StoreQuery.Proofs.Wire.Expr

namespace StoreQuery

open Except (Yields)

variable {l : Leaf} {e : Encoder} {bin : String}

namespace Expr

theorem selectorsOf_eq_flatMap (es : List Expr) : selectorsOf es = es.flatMap selectors := by
  induction es with
  | nil => rfl
  | cons x rest ih => rw [selectorsOf, List.flatMap_cons, ih]

variable {es : List Expr}

theorem forall_mem_selectorsOf (h : ∀ x ∈ es, x.BoundsNonNull) :
    ∀ s ∈ selectorsOf es, s.BoundsNonNull := by
  rw [selectorsOf_eq_flatMap]
  intro s mem
  obtain ⟨x, member, inside⟩ := List.mem_flatMap.1 mem
  exact h x member s inside

theorem boundsNonNull_allOf (h : ∀ x ∈ es, x.BoundsNonNull) : (allOf es).BoundsNonNull := by
  match es with
  | [] => simp [allOf, BoundsNonNull, selectors]
  | [x] => exact h x (List.mem_singleton_self x)
  | x :: y :: rest => exact forall_mem_selectorsOf h

theorem boundsNonNull_anyOf (h : ∀ x ∈ es, x.BoundsNonNull) : (anyOf es).BoundsNonNull := by
  match es with
  | [] => simp [anyOf, BoundsNonNull, selectors]
  | [x] => exact h x (List.mem_singleton_self x)
  | x :: y :: rest => exact forall_mem_selectorsOf h

theorem boundsNonNull_of_nil {x : Expr} (h : x.selectors = []) : x.BoundsNonNull := by
  rw [BoundsNonNull, h]
  exact List.forall_mem_nil _

end Expr

theorem Connective.boundsNonNull_join (kind : Connective) {es : List Expr}
    (h : ∀ x ∈ es, x.BoundsNonNull) : (kind.join es).BoundsNonNull := by
  cases kind with
  | and => exact Expr.boundsNonNull_allOf h
  | or => exact Expr.boundsNonNull_anyOf h

theorem ne_null_of_orderable {op : Operation} {v : Json} (h : checkOrderable op v = .ok ()) :
    some v ≠ some .null := by
  rintro ⟨⟩
  cases h

theorem successor_yields (op : Operation) (v : Json) :
    (successor op v).Yields (· ≠ some .null) := by
  cases v with
  | num n =>
    simp only [successor]
    split
    · rename_i m _
      cases next? m with
      | none => exact .ok nofun
      | some next => exact .ok nofun
    · exact .error _
  | str s => exact .ok nofun
  | _ => exact .error _

theorem requireSuccessor_yields (op : Operation) (v : Json) :
    (requireSuccessor op v).Yields (some · ≠ some .null) := by
  apply Yields.bind
  intro next found
  cases next with
  | none => exact .error _
  | some next => exact .ok (successor_yields op v _ found)

namespace ElementOp

theorem selector_yields (op : ElementOp) :
    (op.selector l e).Yields Selector.BoundsNonNull := by
  rw [selector]
  split
  · exact .error _
  apply Yields.bind
  intro v value
  match op with
  | .contains es | .lacks es => exact .ok trivial
  | .between es =>
    apply Yields.bind
    intro upper _
    apply Yields.bind
    intro _ bounds
    obtain ⟨⟨⟩, orderable, -⟩ := Except.bind_eq_ok_iff.1 bounds
    apply Yields.bind
    intro next found
    exact .ok ⟨ne_null_of_orderable orderable, successor_yields _ _ _ found⟩
  | .listValue .gt =>
    apply Yields.bind
    intro lower found
    exact .ok ⟨requireSuccessor_yields _ _ _ found, nofun⟩
  | .listValue .ge =>
    apply Yields.bind
    intro _ orderable
    exact .ok ⟨ne_null_of_orderable orderable, nofun⟩
  | .listValue .lt =>
    apply Yields.bind
    intro _ orderable
    exact .ok ⟨nofun, ne_null_of_orderable orderable⟩
  | .listValue .le =>
    apply Yields.bind
    intro next found
    cases next with
    | none => exact .ok ⟨nofun, nofun⟩
    | some upper => exact .ok ⟨nofun, successor_yields _ _ _ found⟩

theorem expression_yields (op : ElementOp) :
    (op.expression l e bin).Yields Expr.BoundsNonNull := by
  apply Yields.bind
  intro s selects
  have bounds := op.selector_yields s selects
  cases op <;> exact .ok (by simpa [Expr.BoundsNonNull, Expr.selectors, Operand.selectors])

end ElementOp

open StoreQuery.Expr (boundsNonNull_of_nil boundsNonNull_allOf boundsNonNull_anyOf)

namespace Leaf

theorem compareBin_yields (c : Comparison) (v : Json) :
    (l.compareBin e bin c v).Yields Expr.BoundsNonNull := by
  apply Yields.bind
  intro ty _
  exact .ok (boundsNonNull_of_nil rfl)

theorem equality_yields (negated : Bool) (v : Json) :
    (l.equality e bin negated v).Yields Expr.BoundsNonNull := by
  obtain ⟨s, rfl, ignoreCase⟩ | compared := l.equality_cases e bin negated v
  · simp only [equality, ignoreCase]
    cases negated <;> exact .ok (boundsNonNull_of_nil rfl)
  · rw [compared]
    exact compareBin_yields _ v

theorem keyCheck_yields (key : Json) : (l.keyCheck key).Yields Expr.BoundsNonNull := by
  apply Yields.bind
  intro ty _
  exact .ok (boundsNonNull_of_nil rfl)

theorem idExpression_yields (target : Ids) :
    (l.idExpression target).Yields Expr.BoundsNonNull := by
  cases target with
  | one key =>
    apply Yields.bind
    intro x compiled
    exact .ok (boundsNonNull_allOf (by simpa using keyCheck_yields key x compiled))
  | many keys =>
    apply Yields.bind
    intro xs compiled
    exact .ok (boundsNonNull_anyOf (Yields.mapM keyCheck_yields keys xs compiled))

end Leaf

namespace ScalarOp

theorem metadataOperand_yields (v : Json) :
    (metadataOperand l v).Yields fun operand => operand.selectors = [] := by
  rw [metadataOperand]
  split
  · exact .ok rfl
  · exact .error _

theorem boundsNonNull_metadata {c : Comparison} {field : MetadataField} {operand : Operand}
    (h : operand.selectors = []) : (Expr.compare c (.metadata field) operand).BoundsNonNull :=
  boundsNonNull_of_nil h

theorem metadataComparisons_yields (field : MetadataField) (c : Comparison) (values : List Json) :
    (metadataComparisons l field c values).Yields fun xs => ∀ x ∈ xs, x.BoundsNonNull := by
  apply Yields.mapM
  intro v
  apply Yields.bind
  intro operand literal
  exact .ok (boundsNonNull_metadata (metadataOperand_yields v operand literal))

theorem metadataExpression_yields (field : MetadataField) (op : ScalarOp) :
    (op.metadataExpression l field).Yields Expr.BoundsNonNull := by
  cases op with
  | compare c =>
    apply Yields.bind
    intro v _
    apply Yields.bind
    intro operand literal
    exact .ok (boundsNonNull_metadata (metadataOperand_yields v operand literal))
  | between =>
    apply Yields.bind
    intro v _
    apply Yields.bind
    intro low lowLiteral
    apply Yields.bind
    intro w _
    apply Yields.bind
    intro high highLiteral
    refine .ok (boundsNonNull_allOf (List.forall_mem_cons.2 ⟨?_, List.forall_mem_singleton.2 ?_⟩))
    · exact boundsNonNull_metadata (metadataOperand_yields v low lowLiteral)
    · exact boundsNonNull_metadata (metadataOperand_yields w high highLiteral)
  | isIn =>
    apply Yields.bind
    intro v _
    apply Yields.bind
    intro values _
    apply Yields.bind
    intro xs compared
    exact .ok (boundsNonNull_anyOf (metadataComparisons_yields field _ values xs compared))
  | notIn =>
    apply Yields.bind
    intro v _
    apply Yields.bind
    intro values _
    apply Yields.bind
    intro xs compared
    exact .ok (boundsNonNull_allOf (metadataComparisons_yields field _ values xs compared))
  | isNull | isNotNull => exact .error _

theorem expression_yields (op : ScalarOp) :
    (op.expression l e bin).Yields Expr.BoundsNonNull := by
  match op with
  | .compare .eq | .compare .ne =>
    apply Yields.bind
    intro v _
    exact Leaf.equality_yields _ v
  | .compare (.ineq i) =>
    apply Yields.bind
    intro v _
    apply Yields.bind
    intro _ _
    exact Leaf.compareBin_yields _ v
  | .between =>
    apply Yields.bind
    intro low _
    apply Yields.bind
    intro high _
    apply Yields.bind
    intro _ _
    apply Yields.bind
    intro _ _
    apply Yields.bind
    intro ty _
    refine .ok (boundsNonNull_allOf (List.forall_mem_cons.2 ⟨?_, List.forall_mem_singleton.2 ?_⟩))
    · exact boundsNonNull_of_nil rfl
    · exact boundsNonNull_of_nil rfl
  | .isIn =>
    apply Yields.bind
    intro v _
    apply Yields.bind
    intro values _
    apply Yields.bind
    intro xs compared
    exact .ok (boundsNonNull_anyOf (Yields.mapM (Leaf.equality_yields _) values xs compared))
  | .notIn =>
    apply Yields.bind
    intro v _
    apply Yields.bind
    intro values _
    apply Yields.bind
    intro xs compared
    exact .ok (boundsNonNull_allOf (Yields.mapM (Leaf.equality_yields _) values xs compared))
  | .isNull | .isNotNull => exact .ok (boundsNonNull_of_nil rfl)

end ScalarOp

theorem PatternOp.expression_yields (op : PatternOp) :
    (op.expression l bin).Yields Expr.BoundsNonNull := by
  apply Yields.bind
  intro v _
  apply Yields.bind
  intro text _
  cases op <;> exact .ok (boundsNonNull_of_nil rfl)

theorem KeyedOp.expression_yields (op : KeyedOp) :
    (op.expression l e bin).Yields Expr.BoundsNonNull := by
  apply Yields.bind
  intro key _
  cases op with
  | compare c =>
    apply Yields.bind
    intro v _
    apply Yields.bind
    intro ty _
    exact .ok (boundsNonNull_of_nil rfl)
  | between =>
    apply Yields.bind
    intro bounds _
    apply Yields.bind
    intro ty _
    refine .ok (boundsNonNull_allOf (List.forall_mem_cons.2 ⟨?_, List.forall_mem_singleton.2 ?_⟩))
    · exact boundsNonNull_of_nil rfl
    · exact boundsNonNull_of_nil rfl
  | startsWith | endsWith | containing =>
    apply Yields.bind
    intro v _
    apply Yields.bind
    intro text _
    exact .ok (boundsNonNull_of_nil rfl)
  -- These count the keys that are equal to one, which is no range.
  | present | absent =>
    exact .ok (by simp [Expr.BoundsNonNull, Expr.selectors, Operand.selectors,
      Selector.BoundsNonNull])

theorem Leaf.expression_yields (l : Leaf) (e : Encoder) :
    (l.expression e).Yields Expr.BoundsNonNull := by
  rw [expression]
  split
  · exact idExpression_yields _
  · split
    · exact ScalarOp.metadataExpression_yields _ _
    · exact .error _
  · split
    · exact ScalarOp.expression_yields _
    · exact PatternOp.expression_yields _
    · exact ElementOp.expression_yields _
    · exact KeyedOp.expression_yields _
    · apply Yields.bind
      intro region _
      exact .ok (boundsNonNull_of_nil rfl)

namespace Predicate

mutual

theorem expression_yields (e : Encoder) : (p : Predicate) →
    (p.expression e).Yields fun x => ∀ y ∈ x, y.BoundsNonNull
  | .leaf l => by
    apply Yields.bind
    intro y compiled
    apply Yields.ok
    rintro _ ⟨⟩
    exact l.expression_yields e y compiled
  | .node kind children settings => by
    apply Yields.bind
    intro members compiled
    apply Yields.ok
    split
    · nofun
    · rintro _ ⟨⟩
      exact kind.boundsNonNull_join (expressionsOf_yields e children members compiled)

theorem expressionsOf_yields (e : Encoder) : (ps : List Predicate) →
    (expressionsOf e ps).Yields fun xs => ∀ x ∈ xs, x.BoundsNonNull
  | [] => .ok (List.forall_mem_nil _)
  | p :: rest => by
    apply Yields.bind
    intro first compiled
    apply Yields.bind
    intro others compiledRest
    refine .ok (List.forall_mem_append.2 ⟨?_, ?_⟩)
    · intro x mem
      exact expression_yields e p first compiled x (Option.mem_toList.1 mem)
    · exact expressionsOf_yields e rest others compiledRest

end

end Predicate

end StoreQuery
