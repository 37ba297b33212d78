import StoreQuery.Proofs.Encoding.Leaf
import StoreQuery.Proofs.Encoding.Items
import StoreQuery.Proofs.Encoding.SharedOperands
import StoreQuery.Proofs.Expr.Negation

/-!
Operations that are each other's complement. The negated form of a condition is built in a way of
its own each time: by the opposite comparison, by a negation around a match, by AND in place of OR,
by a count that is zero in place of positive. All of them negate the other form on every record, and
leave unknown what it leaves unknown.
-/

namespace StoreQuery

open Except (Parallel)
open QueryError (SameKind)
open StoreQuery.Expr (Negates)

inductive Operation.Complements : Operation → Operation → Prop
  | compare (c : Comparison) : Complements (.scalar (.compare c)) (.scalar (.compare c.complement))
  | isIn : Complements (.scalar .isIn) (.scalar .notIn)
  | isNull : Complements (.scalar .isNull) (.scalar .isNotNull)
  | containing : Complements (.pattern .containing) (.pattern .notContaining)
  | contains (es : Elements) : Complements (.element (.contains es)) (.element (.lacks es))
  | compareByKey (c : Comparison) :
    Complements (.keyed (.compare c)) (.keyed (.compare c.complement))
  | present : Complements (.keyed .present) (.keyed .absent)

variable {l m : Leaf} {e : Encoder} {bin : String}

namespace Leaf.SharesOperands

variable (same : l.SharesOperands e m)
include same

theorem compareBin_negates (c : Comparison) (v : Json) :
    Parallel SameKind Negates (l.compareBin e bin c v) (m.compareBin e bin c.complement v) := by
  apply Parallel.bind_eq (requireType_parallel l.op m.op .nonNull v)
  intro ty
  rw [same.literal v]
  exact .ok (Expr.negates_compare c _ _)

theorem equality_negates (negated : Bool) (v : Json) :
    Parallel SameKind Negates (l.equality e bin negated v) (m.equality e bin (!negated) v) := by
  by_cases folded : (∃ s, v = .str s) ∧ l.ignoreCase = true
  · obtain ⟨⟨s, rfl⟩, ignoreCase⟩ := folded
    simp only [equality, ignoreCase, ← same.ignoreCase]
    cases negated with
    | false => exact .ok (Expr.negates_not _)
    | true => exact .ok (Expr.negates_not _).symm
  · have plain : ∀ s, v = .str s → l.ignoreCase = true → False :=
      fun s isText ignoreCase => folded ⟨⟨s, isText⟩, ignoreCase⟩
    rw [equality_eq_compareBin plain, equality_eq_compareBin (same.ignoreCase ▸ plain)]
    cases negated with
    | false => exact same.compareBin_negates .eq v
    | true => exact same.compareBin_negates .ne v

theorem comparedValue_parallel (c : Comparison) :
    Parallel SameKind Eq (l.comparedValue c) (m.comparedValue c.complement) := by
  apply Parallel.bind_eq same.rejectIgnoreCase_parallel
  intro _
  apply Parallel.bind_eq same.requireValue_parallel
  intro v
  cases c with
  | ineq i =>
    apply Parallel.bind_eq (checkOrderable_parallel l.op m.op v)
    intro _
    exact .ok rfl
  | eq | ne => exact .ok rfl

end Leaf.SharesOperands

namespace ScalarOp

variable (same : l.SharesOperands e m)
include same

theorem compare_negates (c : Comparison) :
    Parallel SameKind Negates (expression l e bin (.compare c))
      (expression m e bin (.compare c.complement)) := by
  cases c with
  | eq =>
    apply Parallel.bind_eq same.requireValue_parallel
    exact same.equality_negates false
  | ne =>
    apply Parallel.bind_eq same.requireValue_parallel
    exact same.equality_negates true
  | ineq i =>
    apply Parallel.bind_eq same.requireValue_parallel
    intro v
    apply Parallel.bind_eq (same.checkOrdering_parallel v)
    intro _
    exact same.compareBin_negates (.ineq i) v

theorem isIn_negates :
    Parallel SameKind Negates (expression l e bin .isIn) (expression m e bin .notIn) := by
  apply Parallel.bind_eq same.requireValue_parallel
  intro v
  apply Parallel.bind_eq (requireList_parallel l.op m.op v)
  intro values
  apply Parallel.bind (Parallel.mapM (same.equality_negates false) values)
  intro xs ys each
  exact .ok (Expr.negates_join .or each)

end ScalarOp

namespace ScalarOp

theorem metadataOperand_parallel (l m : Leaf) (v : Json) :
    Parallel SameKind Eq (metadataOperand l v) (metadataOperand m v) := by
  rw [metadataOperand, metadataOperand]
  cases v.int64? with
  | some n => exact .ok rfl
  | none => exact .error rfl

theorem metadataComparison_negates (field : MetadataField) (c : Comparison) (v : Json) :
    Parallel SameKind Negates
      (do return .compare c (.metadata field) (← metadataOperand l v))
      (do return .compare c.complement (.metadata field) (← metadataOperand m v)) := by
  apply Parallel.bind_eq (metadataOperand_parallel l m v)
  intro operand
  exact .ok (Expr.negates_compare c _ _)

variable (same : l.SharesOperands e m) (field : MetadataField)
include same

theorem compareMetadata_negates (c : Comparison) :
    Parallel SameKind Negates (metadataExpression l field (.compare c))
      (metadataExpression m field (.compare c.complement)) := by
  apply Parallel.bind_eq same.requireValue_parallel
  intro v
  exact metadataComparison_negates field c v

theorem isInMetadata_negates :
    Parallel SameKind Negates (metadataExpression l field .isIn)
      (metadataExpression m field .notIn) := by
  apply Parallel.bind_eq same.requireValue_parallel
  intro v
  apply Parallel.bind_eq (requireList_parallel l.op m.op v)
  intro values
  apply Parallel.bind (Parallel.mapM (metadataComparison_negates field .eq) values)
  intro xs ys each
  exact .ok (Expr.negates_join .or each)

end ScalarOp

theorem PatternOp.containing_negates (same : l.SharesOperands e m)
    (isContaining : l.op = .pattern .containing) (isNot : m.op = .pattern .notContaining) :
    Parallel SameKind Negates (PatternOp.containing.expression l bin)
      (PatternOp.notContaining.expression m bin) := by
  apply Parallel.bind_eq same.requireValue_parallel
  intro v
  apply Parallel.bind_eq (requireString_parallel l.op m.op v)
  intro text
  simp only [isContaining, isNot, same.ignoreCase]
  exact .ok (Expr.negates_not _)

theorem Expr.negates_count (bin : String) (path : Path) (es : Elements) (s : Selector) :
    Negates (compare (.ineq .gt) (.count bin path es s) (.literal (.int 0)))
      (compare .eq (.count bin path es s) (.literal (.int 0))) := by
  intro r
  rw [evaluate_count, evaluate_count]
  cases ((r.bin? bin).bind path.resolve).bind (s.count es) with
  | none => rfl
  | some n =>
    simp only [Comparison.evaluate_count_gt, Comparison.evaluate_count_eq, Truth.not_ofBool]
    congr 1
    rw [← decide_not, decide_eq_decide]
    omega

structure Leaf.Twin (l m : Leaf) : Prop where
  target : l.target = m.target
  key : l.key = m.key
  value : l.value = m.value
  upper : l.upper = m.upper
  ignoreCase : l.ignoreCase = m.ignoreCase
  path : l.path = m.path
  settings : l.settings = m.settings

namespace Leaf.Twin

variable (twin : l.Twin m)
include twin

theorem sharesOperands (e : Encoder) : l.SharesOperands e m where
  value := twin.value
  upper := twin.upper
  ignoreCase := twin.ignoreCase
  literal v := by rw [literal, literal, twin.settings]

theorem requireKey_parallel : Parallel SameKind Eq l.requireKey m.requireKey := by
  rw [requireKey, requireKey, twin.key]
  exact require_parallel .key m.key

theorem selector_parallel (es : Elements) :
    Parallel SameKind Eq ((ElementOp.contains es).selector l e)
      ((ElementOp.lacks es).selector m e) := by
  simp only [ElementOp.selector, twin.ignoreCase]
  cases m.ignoreCase with
  | true => exact .error rfl
  | false =>
    apply Parallel.bind_eq (twin.sharesOperands e).requireValue_parallel
    intro v
    refine .ok ?_
    simp only [ElementOp.member, twin.settings]

theorem contains_negates (es : Elements) :
    Parallel SameKind Negates ((ElementOp.contains es).expression l e bin)
      ((ElementOp.lacks es).expression m e bin) := by
  apply Parallel.bind_eq (twin.selector_parallel es)
  intro s
  rw [twin.path]
  exact .ok (Expr.negates_count bin m.path es s)

theorem compareByKey_negates (c : Comparison) :
    Parallel SameKind Negates ((KeyedOp.compare c).expression l e bin)
      ((KeyedOp.compare c.complement).expression m e bin) := by
  apply Parallel.bind_eq twin.requireKey_parallel
  intro key
  apply Parallel.bind_eq ((twin.sharesOperands e).comparedValue_parallel c)
  intro v
  apply Parallel.bind_eq (requireType_parallel l.op m.op .nonNull v)
  intro ty
  rw [twin.path, twin.settings, (twin.sharesOperands e).literal v]
  exact .ok (Expr.negates_compare c _ _)

theorem present_negates :
    Parallel SameKind Negates (KeyedOp.present.expression l e bin)
      (KeyedOp.absent.expression m e bin) := by
  apply Parallel.bind_eq twin.requireKey_parallel
  intro key
  rw [twin.path, twin.settings]
  exact .ok (Expr.negates_count bin m.path .mapKeys _)

theorem negates_of_field (target : m.target = .field bin) (h : l.op.Complements m.op) :
    Parallel SameKind Negates (l.expression e) (m.expression e) := by
  have same := twin.sharesOperands e
  simp only [expression, twin.target, target]
  generalize isOp : l.op = a, isOp' : m.op = b at h
  cases h with
  | compare c => exact ScalarOp.compare_negates same c
  | isIn => exact ScalarOp.isIn_negates same
  | isNull => exact .ok (Expr.negates_not _).symm
  | containing => exact PatternOp.containing_negates same isOp isOp'
  | contains es => exact twin.contains_negates es
  | compareByKey c => exact twin.compareByKey_negates c
  | present => exact twin.present_negates

theorem negates_of_metadata {field : MetadataField} (target : m.target = .metadata field)
    (h : l.op.Complements m.op) :
    Parallel SameKind Negates (l.expression e) (m.expression e) := by
  have same := twin.sharesOperands e
  simp only [expression, twin.target, target]
  generalize l.op = a, m.op = b at h
  cases h with
  | compare c => exact ScalarOp.compareMetadata_negates same field c
  | isIn => exact ScalarOp.isInMetadata_negates same field
  | isNull | containing | contains | compareByKey | present => exact .error rfl

theorem negates (noId : m.id? = none) (h : l.op.Complements m.op) :
    Parallel SameKind Negates (l.expression e) (m.expression e) := by
  cases target : m.target with
  | field bin => exact twin.negates_of_field target h
  | metadata field => exact twin.negates_of_metadata target h
  | id ids =>
    rw [id?, target] at noId
    cases noId

end Leaf.Twin

theorem Operation.Complements.isKeyed_eq {a b : Operation} (h : a.Complements b) :
    a.isKeyed = b.isKeyed := by
  cases h <;> rfl

namespace Leaf

theorem twin_withOp {op : Operation} (h : l.op.isKeyed = op.isKeyed) : l.Twin { l with op } where
  target := rfl
  key := by simp only [key, h]
  value := by simp only [value, h]
  upper := by simp only [upper, h]
  ignoreCase := rfl
  path := rfl
  settings := rfl

/-- A condition on a bin or on metadata and the complementary condition on the same operands are
both refused for the same kind of reason, or one has the opposite value of the other wherever it has
any, so that no record meets both. -/
theorem complement_negates {l : Leaf} {op : Operation} (e : Encoder) (noId : l.id? = none)
    (h : l.op.Complements op) :
    Parallel SameKind Negates (l.expression e) ({ l with op }.expression e) ∧
      ∀ x y, l.expression e = .ok x → { l with op }.expression e = .ok y →
        ∀ r, ¬(x.evaluate r = .holds ∧ y.evaluate r = .holds) := by
  have parallel := (twin_withOp h.isKeyed_eq).negates (e := e) noId h
  refine ⟨parallel, ?_⟩
  rintro x y compiled compiledToo r ⟨holds, holdsToo⟩
  have negates : x.Negates y := parallel.of_ok compiled compiledToo
  rw [negates r, holds] at holdsToo
  cases holdsToo

theorem complement_negates_of_mixed_list :
    let oneOf : Leaf := {
      target := .field "name", op := .scalar .isIn,
      value1 := some (.arr [.str "Al", .int 7]), ignoreCase := true }
    ∃ x y, oneOf.expression .json = .ok x ∧
      { oneOf with op := .scalar .notIn }.expression .json = .ok y ∧
      ∀ r, y.evaluate r = (x.evaluate r).not ∧
        ¬(x.evaluate r = .holds ∧ y.evaluate r = .holds) := by
  intro oneOf
  obtain ⟨parallel, apart⟩ := complement_negates (l := oneOf) .json rfl .isIn
  exact ⟨_, _, rfl, rfl, fun r => ⟨parallel.of_ok rfl rfl r, apart _ _ rfl rfl r⟩⟩

end Leaf

end StoreQuery
