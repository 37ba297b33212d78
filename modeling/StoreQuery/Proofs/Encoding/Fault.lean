import StoreQuery.Proofs.Encoding.Leaf
import StoreQuery.Proofs.Predicate.Valid

namespace StoreQuery

open Except (FailsOnly)

variable {l : Leaf} {e : Encoder} {bin : String}

inductive Leaf.Fault (l : Leaf) : QueryError → Prop
  | missing {role : Role} (misses : l.Misses role) : l.Fault (.missingOperand l.op role)
  | mismatch (expected : Expectation) (found : Json) : l.Fault (.mismatch l.op expected found)
  | ignoreCase : l.Fault (.ignoreCaseUnsupported l.op)
  | metadata {field : MetadataField} (target : l.target = .metadata field)
      (inapplicable : l.op.appliesToMetadata = false) :
      l.Fault (.malformed (.notOnMetadata l.op field))
  | noneAbove (op : l.op = .element (.listValue .gt)) (value : l.value = some (.int64 .maxValue)) :
      l.Fault (.rangeOverflow l.op .maxValue)

namespace Leaf

theorem require_failsOnly (noId : l.id? = none) (role : Role)
    (needed : l.op.needs.has role = true) :
    (l.require role (l.operand role)).FailsOnly l.Fault := by
  cases found : l.operand role with
  | none => exact .error (.missing ⟨noId, needed, found⟩)
  | some v => exact .ok v

theorem requireKey_failsOnly (noId : l.id? = none) (needed : l.op.needs.key = true) :
    l.requireKey.FailsOnly l.Fault := require_failsOnly noId .key needed

theorem requireValue_failsOnly (noId : l.id? = none) (needed : l.op.needs.value = true) :
    l.requireValue.FailsOnly l.Fault := require_failsOnly noId .value needed

theorem requireUpper_failsOnly (noId : l.id? = none) (needed : l.op.needs.upper = true) :
    l.requireUpper.FailsOnly l.Fault := require_failsOnly noId .upper needed

theorem checkOrderable_failsOnly (v : Json) : (checkOrderable l.op v).FailsOnly l.Fault := by
  cases v with
  | null | bool => exact .error (.mismatch ..)
  | num | str | arr | obj => exact .ok ()

theorem checkBounds_failsOnly (low high : Json) :
    (checkBounds l.op low high).FailsOnly l.Fault := by
  apply FailsOnly.bind (checkOrderable_failsOnly low)
  intro _ _
  apply FailsOnly.bind (checkOrderable_failsOnly high)
  intro _ _
  split
  · exact .ok ()
  · exact .ok ()
  · exact .ok ()
  · exact .ok ()
  · exact .error (.mismatch ..)

theorem requireString_failsOnly (v : Json) : (requireString l.op v).FailsOnly l.Fault := by
  cases v with
  | str s => exact .ok s
  | _ => exact .error (.mismatch ..)

theorem requireList_failsOnly (v : Json) : (requireList l.op v).FailsOnly l.Fault := by
  cases v with
  | arr items => exact .ok items
  | _ => exact .error (.mismatch ..)

theorem requireType_failsOnly (expected : Expectation) (v : Json) :
    (requireType l.op expected v).FailsOnly l.Fault := by
  rw [requireType]
  split
  · exact .ok _
  · exact .error (.mismatch ..)

theorem successor_failsOnly (v : Json) : (successor l.op v).FailsOnly l.Fault := by
  cases v with
  | num n =>
    simp only [successor]
    split
    · exact .ok _
    · exact .error (.mismatch ..)
  | str s => exact .ok _
  | _ => exact .error (.mismatch ..)

theorem compareBin_failsOnly (c : Comparison) (v : Json) :
    (l.compareBin e bin c v).FailsOnly l.Fault := by
  apply FailsOnly.bind (requireType_failsOnly .nonNull v)
  intro ty _
  exact .ok _

theorem equality_failsOnly (negated : Bool) (v : Json) :
    (l.equality e bin negated v).FailsOnly l.Fault := by
  obtain ⟨s, rfl, ignoreCase⟩ | compared := l.equality_cases e bin negated v
  · simp only [equality, ignoreCase]
    exact .ok _
  · rw [compared]
    exact compareBin_failsOnly _ v

theorem checkOrdering_failsOnly (v : Json) : (l.checkOrdering v).FailsOnly l.Fault := by
  apply FailsOnly.bind (checkOrderable_failsOnly v)
  intro _ _
  split
  · split
    · exact .error .ignoreCase
    · exact .ok ()
  · exact .ok ()

theorem rejectIgnoreCase_failsOnly : l.rejectIgnoreCase.FailsOnly l.Fault := by
  rw [rejectIgnoreCase]
  split
  · exact .error .ignoreCase
  · exact .ok ()

theorem comparedValue_failsOnly (noId : l.id? = none) (needed : l.op.needs.value = true)
    (c : Comparison) : (l.comparedValue c).FailsOnly l.Fault := by
  apply FailsOnly.bind rejectIgnoreCase_failsOnly
  intro _ _
  apply FailsOnly.bind (requireValue_failsOnly noId needed)
  intro v _
  cases c with
  | eq | ne => exact .ok v
  | ineq i =>
    apply FailsOnly.bind (checkOrderable_failsOnly v)
    intro _ _
    exact .ok v

theorem boundsByKey_failsOnly (noId : l.id? = none) (isBetween : l.op = .keyed .between) :
    l.boundsByKey.FailsOnly l.Fault := by
  apply FailsOnly.bind rejectIgnoreCase_failsOnly
  intro _ _
  apply FailsOnly.bind (requireValue_failsOnly noId (by rw [isBetween]; rfl))
  intro low _
  apply FailsOnly.bind (requireUpper_failsOnly noId (by rw [isBetween]; rfl))
  intro high _
  apply FailsOnly.bind (checkBounds_failsOnly low high)
  intro _ _
  exact .ok (low, high)

theorem region_failsOnly (noId : l.id? = none) (isGeo : l.op = .geoWithin) :
    l.region.FailsOnly l.Fault := by
  apply FailsOnly.bind (requireValue_failsOnly noId (by rw [isGeo]; rfl))
  intro v _
  cases v with
  | obj fields => exact .ok _
  | str text =>
    simp only
    split
    · exact .ok _
    · exact .error (.mismatch ..)
  | _ => exact .error (.mismatch ..)

theorem keyCheck_failsOnly (key : Json) : (l.keyCheck key).FailsOnly l.Fault := by
  apply FailsOnly.bind (requireType_failsOnly .nonNullKey key)
  intro ty _
  exact .ok _

theorem idExpression_failsOnly (target : Ids) : (l.idExpression target).FailsOnly l.Fault := by
  cases target with
  | one key =>
    apply FailsOnly.bind (keyCheck_failsOnly key)
    intro x _
    exact .ok _
  | many keys =>
    apply FailsOnly.bind (FailsOnly.mapM keyCheck_failsOnly keys)
    intro xs _
    exact .ok _

end Leaf

namespace ScalarOp

open Leaf

theorem metadataOperand_failsOnly (v : Json) : (metadataOperand l v).FailsOnly l.Fault := by
  rw [metadataOperand]
  split
  · exact .ok _
  · exact .error (.mismatch ..)

theorem metadataComparisons_failsOnly (field : MetadataField) (c : Comparison)
    (values : List Json) : (metadataComparisons l field c values).FailsOnly l.Fault := by
  apply FailsOnly.mapM
  intro v
  apply FailsOnly.bind (metadataOperand_failsOnly v)
  intro operand _
  exact .ok _

theorem metadataExpression_failsOnly {field : MetadataField} (target : l.target = .metadata field)
    {op : ScalarOp} (isScalar : l.op = .scalar op) :
    (op.metadataExpression l field).FailsOnly l.Fault := by
  have noId : l.id? = none := by rw [id?, target]
  cases op with
  | compare c =>
    apply FailsOnly.bind (requireValue_failsOnly noId (by rw [isScalar]; rfl))
    intro v _
    apply FailsOnly.bind (metadataOperand_failsOnly v)
    intro operand _
    exact .ok _
  | between =>
    apply FailsOnly.bind (requireValue_failsOnly noId (by rw [isScalar]; rfl))
    intro v _
    apply FailsOnly.bind (metadataOperand_failsOnly v)
    intro low _
    apply FailsOnly.bind (requireUpper_failsOnly noId (by rw [isScalar]; rfl))
    intro v _
    apply FailsOnly.bind (metadataOperand_failsOnly v)
    intro high _
    exact .ok _
  | isIn | notIn =>
    apply FailsOnly.bind (requireValue_failsOnly noId (by rw [isScalar]; rfl))
    intro v _
    apply FailsOnly.bind (requireList_failsOnly v)
    intro values _
    apply FailsOnly.bind (metadataComparisons_failsOnly field _ values)
    intro xs _
    exact .ok _
  | isNull | isNotNull => exact .error (.metadata target (by rw [isScalar]; rfl))

theorem expression_failsOnly (noId : l.id? = none) {op : ScalarOp} (isScalar : l.op = .scalar op) :
    (op.expression l e bin).FailsOnly l.Fault := by
  match op with
  | .compare .eq | .compare .ne =>
    apply FailsOnly.bind (requireValue_failsOnly noId (by rw [isScalar]; rfl))
    intro v _
    exact equality_failsOnly _ v
  | .compare (.ineq i) =>
    apply FailsOnly.bind (requireValue_failsOnly noId (by rw [isScalar]; rfl))
    intro v _
    apply FailsOnly.bind (checkOrdering_failsOnly v)
    intro _ _
    exact compareBin_failsOnly _ v
  | .between =>
    apply FailsOnly.bind (requireValue_failsOnly noId (by rw [isScalar]; rfl))
    intro low _
    apply FailsOnly.bind (requireUpper_failsOnly noId (by rw [isScalar]; rfl))
    intro high _
    apply FailsOnly.bind (checkBounds_failsOnly low high)
    intro _ _
    apply FailsOnly.bind (checkOrdering_failsOnly low)
    intro _ _
    apply FailsOnly.bind (requireType_failsOnly .nonNull low)
    intro ty _
    exact .ok _
  | .isIn | .notIn =>
    apply FailsOnly.bind (requireValue_failsOnly noId (by rw [isScalar]; rfl))
    intro v _
    apply FailsOnly.bind (requireList_failsOnly v)
    intro values _
    apply FailsOnly.bind (FailsOnly.mapM (equality_failsOnly _) values)
    intro xs _
    exact .ok _
  | .isNull | .isNotNull => exact .ok _

end ScalarOp

namespace PatternOp

open Leaf

theorem expression_failsOnly (noId : l.id? = none) {op : PatternOp}
    (isPattern : l.op = .pattern op) : (op.expression l bin).FailsOnly l.Fault := by
  apply FailsOnly.bind (requireValue_failsOnly noId (by rw [isPattern]; rfl))
  intro v _
  apply FailsOnly.bind (requireString_failsOnly v)
  intro text _
  cases op <;> exact .ok _

end PatternOp

namespace ElementOp

open Leaf

theorem eq_maxValue_of_successor {op : Operation} {v : Json} (h : successor op v = .ok none) :
    v = .int64 .maxValue := by
  cases v with
  | num n =>
    simp only [successor] at h
    split at h
    · rename_i n isInt
      have atMax : n = .maxValue := next?_eq_none_iff.1 (Option.map_eq_none_iff.1 (Except.ok.inj h))
      exact Json.int64?_eq_some_iff.1 (isInt.trans (congrArg some atMax))
    · cases h
  | _ => cases h

theorem requireSuccessor_failsOnly {v : Json} (op : l.op = .element (.listValue .gt))
    (value : l.value = some v) : (requireSuccessor l.op v).FailsOnly l.Fault := by
  apply FailsOnly.bind (successor_failsOnly v)
  intro next found
  cases next with
  | some next => exact .ok next
  | none =>
    obtain rfl := eq_maxValue_of_successor found
    exact .error (.noneAbove op value)

theorem selector_failsOnly (noId : l.id? = none) {op : ElementOp} (isElement : l.op = .element op) :
    (op.selector l e).FailsOnly l.Fault := by
  rw [selector]
  split
  · exact .error .ignoreCase
  have needed : l.op.needs.value = true := by
    rw [isElement]
    cases op <;> rfl
  apply FailsOnly.bind (requireValue_failsOnly noId needed)
  intro v value
  cases op with
  | contains | lacks => exact .ok _
  | between =>
    apply FailsOnly.bind (requireUpper_failsOnly noId (by rw [isElement]; rfl))
    intro upper _
    apply FailsOnly.bind (checkBounds_failsOnly v upper)
    intro _ _
    apply FailsOnly.bind (successor_failsOnly upper)
    intro next _
    exact .ok _
  | listValue i =>
    cases i with
    | gt =>
      apply FailsOnly.bind (requireSuccessor_failsOnly isElement (requireValue_eq_ok_iff.1 value))
      intro lower _
      exact .ok _
    | ge | lt =>
      apply FailsOnly.bind (checkOrderable_failsOnly v)
      intro _ _
      exact .ok _
    | le =>
      apply FailsOnly.bind (successor_failsOnly v)
      intro next _
      cases next <;> exact .ok _

theorem expression_failsOnly (noId : l.id? = none) {op : ElementOp}
    (isElement : l.op = .element op) : (op.expression l e bin).FailsOnly l.Fault := by
  apply FailsOnly.bind (selector_failsOnly noId isElement)
  intro s _
  cases op <;> exact .ok _

end ElementOp

namespace KeyedOp

open Leaf

theorem expression_failsOnly (noId : l.id? = none) {op : KeyedOp} (isKeyed : l.op = .keyed op) :
    (op.expression l e bin).FailsOnly l.Fault := by
  have needed : l.op.needs.key = true := by rw [Operation.needs_key, isKeyed]; rfl
  apply FailsOnly.bind (requireKey_failsOnly noId needed)
  intro key _
  cases op with
  | compare c =>
    apply FailsOnly.bind (comparedValue_failsOnly noId (by rw [isKeyed]; rfl) c)
    intro v _
    apply FailsOnly.bind (requireType_failsOnly .nonNull v)
    intro ty _
    exact .ok _
  | between =>
    apply FailsOnly.bind (boundsByKey_failsOnly noId isKeyed)
    intro bounds _
    apply FailsOnly.bind (requireType_failsOnly .nonNull bounds.1)
    intro ty _
    exact .ok _
  | startsWith | endsWith | containing =>
    apply FailsOnly.bind (requireValue_failsOnly noId (by rw [isKeyed]; rfl))
    intro v _
    apply FailsOnly.bind (requireString_failsOnly v)
    intro text _
    exact .ok _
  | present | absent => exact .ok _

end KeyedOp

theorem Leaf.expression_failsOnly (l : Leaf) (e : Encoder) :
    (l.expression e).FailsOnly l.Fault := by
  cases target : l.target with
  | id ids =>
    simp only [expression, target]
    exact idExpression_failsOnly ids
  | metadata field =>
    cases op : l.op with
    | scalar =>
      simp only [expression, target, op]
      exact ScalarOp.metadataExpression_failsOnly target op
    | pattern | element | keyed | geoWithin =>
      simp only [expression, target, op]
      rw [← op]
      exact .error (.metadata target (by rw [op]; rfl))
  | field bin =>
    have noId : l.id? = none := by rw [id?, target]
    cases op : l.op with
    | scalar =>
      simp only [expression, target, op]
      exact ScalarOp.expression_failsOnly noId op
    | pattern =>
      simp only [expression, target, op]
      exact PatternOp.expression_failsOnly noId op
    | element =>
      simp only [expression, target, op]
      exact ElementOp.expression_failsOnly noId op
    | keyed =>
      simp only [expression, target, op]
      exact KeyedOp.expression_failsOnly noId op
    | geoWithin =>
      simp only [expression, target, op]
      apply FailsOnly.bind (region_failsOnly noId op)
      intro region _
      exact .ok _

end StoreQuery
