import StoreQuery.Proofs.Encoding.Failure
import StoreQuery.Proofs.Encoding.SharedOperands

/-!
Conditions on the map value under a key, against the same conditions on a whole bin. Both are one
test, made of the value under the key and of the value of the bin. Where there is no such value the
condition is unknown, and how keys are stored makes no difference.
-/

namespace StoreQuery

open Except (Parallel Yields)
open QueryError (SameKind)

structure Expr.Tests (x : Expr) (look : Record → Option Json) (test : Option Json → Truth) :
    Prop where
  evaluate_eq : ∀ r, x.evaluate r = test (look r)
  absent : test none = .unknown

namespace Expr

variable {look : Record → Option Json} {source : Operand} {ty : ValueType}

def compareTest (c : Comparison) (ty : ValueType) (v : Json) (stored : Option Json) : Truth :=
  match stored.bind ty.read? with
  | some w => c.evaluate w v
  | none => .unknown

theorem tests_compare (reads : ∀ r, source.resolve r = (look r).bind ty.read?) (c : Comparison)
    (v : Json) : (compare c source (.literal v)).Tests look (compareTest c ty v) where
  evaluate_eq r := by
    have literal : (Operand.literal v).resolve r = some v := rfl
    simp only [evaluate, reads, literal, compareTest]
    cases (look r).bind ty.read? <;> rfl
  absent := rfl

theorem tests_regex (reads : ∀ r, source.resolve r = (look r).bind ty.read?) (pattern : String)
    (flags : PatternFlags) :
    (regex source pattern flags).Tests look
      (fun stored => evaluateRegex flags pattern (stored.bind ty.read?)) where
  evaluate_eq r := by simp only [evaluate, reads]
  absent := rfl

theorem tests_allOf_pair {x y : Expr} {t u : Option Json → Truth} (hx : x.Tests look t)
    (hy : y.Tests look u) :
    (allOf [x, y]).Tests look (fun stored => (t stored).and (u stored)) where
  evaluate_eq r := by
    simp only [allOf, evaluate, evaluateAll, hx.evaluate_eq, hy.evaluate_eq]
    cases u (look r) <;> rfl
  absent := by
    rw [hx.absent, hy.absent]
    rfl

end Expr

theorem Encoder.keyText?_encodeKey (key : Json) (s : Settings) :
    (json.encodeKey key s).keyText? = key.keyText? := by
  simp only [json]
  cases s.keepKeyTypes with
  | true => rfl
  | false => cases key <;> rfl

theorem Record.mapValue?_encodeKey (r : Record) (bin : String) (path : Path) (key : Json)
    (s : Settings) :
    r.mapValue? bin path (Encoder.json.encodeKey key s) = r.mapValue? bin path key := by
  simp only [mapValue?, Encoder.keyText?_encodeKey]

theorem Leaf.checkOrdering_of_plain {l : Leaf} (plain : l.ignoreCase = false) (v : Json) :
    l.checkOrdering v = checkOrderable l.op v := by
  cases v with
  | str s =>
    simp only [checkOrdering, plain]
    exact bind_pure _
  | _ => exact bind_pure _

theorem Leaf.checkBounds_bind_checkOrdering {l : Leaf} (plain : l.ignoreCase = false)
    (low high : Json) (next : Except QueryError α) :
    (do checkBounds l.op low high; l.checkOrdering low; next) =
      (do checkBounds l.op low high; next) := by
  rw [checkOrdering_of_plain plain]
  cases bounds : checkBounds l.op low high with
  | error err => rfl
  | ok _ => rw [Except.ok_bind, checkOrderable_of_checkBounds bounds, Except.ok_bind]

namespace KeyedOp

/-- A condition by key and the operation that asks the same of a whole bin. Only the conditions on
texts may disregard case. -/
inductive Mirrors : KeyedOp → Operation → Bool → Prop
  | compare (c : Comparison) : Mirrors (.compare c) (.scalar (.compare c)) false
  | between : Mirrors .between (.scalar .between) false
  | startsWith (icase : Bool) : Mirrors .startsWith (.pattern .startsWith) icase
  | endsWith (icase : Bool) : Mirrors .endsWith (.pattern .endsWith) icase
  | containing (icase : Bool) : Mirrors .containing (.pattern .containing) icase

def readsValue : KeyedOp → Bool
  | .present => false
  | .absent => false
  | _ => true

end KeyedOp

def SameTest (bin : String) (path : Path) (key : Json) (bin' : String) (x y : Expr) : Prop :=
  ∃ test, x.Tests (fun r => r.mapValue? bin path key) test ∧ y.Tests (fun r => r.bin? bin') test

namespace KeyedOp

variable {l m : Leaf} {bin bin' : String} {key : Json}

theorem resolve_encodedKey (bin : String) (path : Path) (key : Json) (s : Settings)
    (ty : ValueType) (r : Record) :
    (Operand.mapValue bin path (Encoder.json.encodeKey key s) ty).resolve r =
      (r.mapValue? bin path key).bind ty.read? := by
  rw [resolve_mapValue, Record.mapValue?_encodeKey]

theorem sameTest_compare (path : Path) (s : Settings) (c : Comparison) (ty : ValueType) (v : Json) :
    SameTest bin path key bin'
      (.compare c (.mapValue bin path (Encoder.json.encodeKey key s) ty) (.literal v))
      (.compare c (.bin bin' ty) (.literal v)) :=
  ⟨_, Expr.tests_compare (resolve_encodedKey bin path key s ty) c v,
    Expr.tests_compare (ScalarOp.resolve_bin bin' ty) c v⟩

theorem sameTest_regex (path : Path) (s : Settings) (pattern : String) (flags : PatternFlags) :
    SameTest bin path key bin'
      (.regex (.mapValue bin path (Encoder.json.encodeKey key s) .string) pattern flags)
      (.regex (.bin bin' .string) pattern flags) :=
  ⟨_, Expr.tests_regex (resolve_encodedKey bin path key s .string) pattern flags,
    Expr.tests_regex (ScalarOp.resolve_bin bin' .string) pattern flags⟩

theorem sameTest_allOf_pair {path : Path} {x₁ x₂ y₁ y₂ : Expr}
    (first : SameTest bin path key bin' x₁ y₁) (second : SameTest bin path key bin' x₂ y₂) :
    SameTest bin path key bin' (.allOf [x₁, x₂]) (.allOf [y₁, y₂]) := by
  obtain ⟨_, hx₁, hy₁⟩ := first
  obtain ⟨_, hx₂, hy₂⟩ := second
  exact ⟨_, Expr.tests_allOf_pair hx₁ hx₂, Expr.tests_allOf_pair hy₁ hy₂⟩

variable (same : l.SharesOperands .json m)
include same

theorem matchText_sameTest (samePattern : ∀ text, l.op.patternFor text = m.op.patternFor text) :
    Parallel SameKind (SameTest bin l.path key bin')
      (do
        let text ← requireString l.op (← l.requireValue)
        return .regex (.mapValue bin l.path (Encoder.json.encodeKey key l.settings) .string)
          (l.op.patternFor text) { icase := l.ignoreCase })
      (do
        let text ← requireString m.op (← m.requireValue)
        return .regex (.bin bin' .string) (m.op.patternFor text) { icase := m.ignoreCase }) := by
  apply Parallel.bind_eq same.requireValue_parallel
  intro v
  apply Parallel.bind_eq (requireString_parallel l.op m.op v)
  intro text
  rw [samePattern, same.ignoreCase]
  exact .ok (sameTest_regex l.path l.settings _ _)

variable (requireKey : l.requireKey = .ok key)
include requireKey

theorem compare_sameTest (c : Comparison) (plain : l.ignoreCase = false) :
    Parallel SameKind (SameTest bin l.path key bin') ((compare c).expression l .json bin)
      ((ScalarOp.compare c).expression m .json bin') := by
  have plainToo : m.ignoreCase = false := same.ignoreCase ▸ plain
  have compared (v : Json) : Parallel SameKind (SameTest bin l.path key bin')
      (do return .compare c (.mapValue bin l.path (Encoder.json.encodeKey key l.settings)
        (← requireType l.op .nonNull v)) (l.literal .json v))
      (m.compareBin .json bin' c v) := by
    apply Parallel.bind_eq (requireType_parallel l.op m.op .nonNull v)
    intro ty
    rw [same.literal v]
    exact .ok (sameTest_compare l.path l.settings c ty _)
  have equality (negated : Bool) (v : Json) :
      m.equality .json bin' negated v = m.compareBin .json bin' (if negated then .ne else .eq) v :=
    Leaf.equality_eq_compareBin fun _ _ ignoreCase => by simp [plainToo] at ignoreCase
  simp only [expression, requireKey, Except.ok_bind, Leaf.comparedValue, Leaf.rejectIgnoreCase,
    plain, Bool.false_eq_true, if_false, bind_assoc]
  cases c with
  | eq | ne =>
    apply Parallel.bind_eq same.requireValue_parallel
    intro v
    rw [equality]
    exact compared v
  | ineq i =>
    apply Parallel.bind_eq same.requireValue_parallel
    intro v
    rw [Leaf.checkOrdering_of_plain plainToo]
    simp only [bind_assoc]
    apply Parallel.bind_eq (checkOrderable_parallel l.op m.op v)
    intro _
    exact compared v

theorem between_sameTest (plain : l.ignoreCase = false) :
    Parallel SameKind (SameTest bin l.path key bin') (between.expression l .json bin)
      (ScalarOp.between.expression m .json bin') := by
  have plainToo : m.ignoreCase = false := same.ignoreCase ▸ plain
  simp only [expression, ScalarOp.expression, requireKey, Except.ok_bind, Leaf.boundsByKey,
    Leaf.rejectIgnoreCase, plain, Bool.false_eq_true, if_false, bind_assoc,
    Leaf.checkBounds_bind_checkOrdering plainToo]
  apply Parallel.bind_eq same.requireValue_parallel
  intro low
  apply Parallel.bind_eq same.requireUpper_parallel
  intro high
  apply Parallel.bind_eq (checkBounds_parallel l.op m.op low high)
  intro _
  apply Parallel.bind_eq (requireType_parallel l.op m.op .nonNull low)
  intro ty
  rw [same.literal low, same.literal high]
  exact .ok (sameTest_allOf_pair (sameTest_compare l.path l.settings _ ty _)
    (sameTest_compare l.path l.settings _ ty _))

theorem sameTest_of_mirrors {op : KeyedOp} (isKeyed : l.op = .keyed op)
    (mirrors : op.Mirrors m.op l.ignoreCase) (target : l.target = .field bin)
    (target' : m.target = .field bin') :
    Parallel SameKind (SameTest bin l.path key bin') (l.expression .json) (m.expression .json) := by
  simp only [Leaf.expression, target, target', isKeyed]
  generalize isOp : m.op = b, isCase : l.ignoreCase = icase at mirrors
  cases mirrors with
  | compare c => exact compare_sameTest same requireKey c isCase
  | between => exact between_sameTest same requireKey isCase
  | startsWith | endsWith | containing =>
    simp only [expression, requireKey, Except.ok_bind]
    apply matchText_sameTest same
    intro text
    rw [isKeyed, isOp]
    rfl

end KeyedOp

namespace SameTest

variable {bin bin' : String} {path : Path} {key : Json} {x y z : Expr}

theorem evaluate_eq (h : SameTest bin path key bin' x y) {r r' : Record} {v : Json}
    (stored : r.mapValue? bin path key = some v) (stored' : r'.bin? bin' = some v) :
    x.evaluate r = y.evaluate r' := by
  obtain ⟨test, hx, hy⟩ := h
  rw [hx.evaluate_eq, hy.evaluate_eq, stored, stored']

theorem unknown (h : SameTest bin path key bin' x y) {r : Record}
    (absent : r.mapValue? bin path key = none) : x.evaluate r = .unknown := by
  obtain ⟨test, hx, -⟩ := h
  rw [hx.evaluate_eq, absent, hx.absent]

theorem evaluate_eq_of_common (hx : SameTest bin path key bin' x y)
    (hz : SameTest bin path key bin' z y) (r : Record) : x.evaluate r = z.evaluate r := by
  cases stored : r.mapValue? bin path key with
  | none => rw [hx.unknown stored, hz.unknown stored]
  | some v =>
    have whole : Record.bin? { bins := [(bin', v)] } bin' = some v := by simp [Record.bin?]
    rw [hx.evaluate_eq stored whole, hz.evaluate_eq stored whole]

end SameTest

namespace Leaf

theorem requireKey_eq_ok {l : Leaf} {key : Json} (hasKey : l.key = some key) :
    l.requireKey = .ok key := by
  rw [requireKey, hasKey, require]

theorem sharesOperands_json {l m : Leaf} (value : l.value = m.value) (upper : l.upper = m.upper)
    (ignoreCase : l.ignoreCase = m.ignoreCase) : l.SharesOperands .json m where
  value := value
  upper := upper
  ignoreCase := ignoreCase
  literal v := by cases v <;> rfl

/-- A condition by key is refused like the condition on a whole bin. Otherwise it has the value that
the other one has on any record whose bin is the value under the key, and is unknown where there is
none; whether the types of keys are kept does not matter. -/
theorem byKey_evaluates_as_whole {byKey whole : Leaf} {op : KeyedOp} {bin bin' : String}
    {key : Json} (target : byKey.target = .field bin) (isKeyed : byKey.op = .keyed op)
    (hasKey : byKey.key = some key) (target' : whole.target = .field bin')
    (mirrors : op.Mirrors whole.op byKey.ignoreCase) (value : byKey.value = whole.value)
    (upper : byKey.upper = whole.upper) (ignoreCase : byKey.ignoreCase = whole.ignoreCase) :
    Parallel SameKind
        (fun x y => ∀ r,
          (∀ v r', r.mapValue? bin byKey.path key = some v → r'.bin? bin' = some v →
            x.evaluate r = y.evaluate r') ∧
          (r.mapValue? bin byKey.path key = none → x.evaluate r = .unknown))
        (byKey.expression .json) (whole.expression .json) ∧
      ∀ settings, Parallel SameKind (fun x y => ∀ r, x.evaluate r = y.evaluate r)
        (byKey.expression .json) ({ byKey with settings }.expression .json) := by
  have requireKey := requireKey_eq_ok hasKey
  have parallel := KeyedOp.sameTest_of_mirrors (sharesOperands_json value upper ignoreCase)
    requireKey isKeyed mirrors target target'
  constructor
  · apply parallel.imp
    intro x y same r
    exact ⟨fun v r' stored stored' => same.evaluate_eq stored stored', same.unknown⟩
  · intro settings
    have parallelToo := KeyedOp.sameTest_of_mirrors (l := { byKey with settings })
      (sharesOperands_json value upper ignoreCase) requireKey isKeyed mirrors target target'
    apply parallel.meet parallelToo
    · intro a b c h h'
      exact h.trans h'.symm
    · intro x z y
      exact SameTest.evaluate_eq_of_common

theorem byKey_evaluates_as_whole_of_number :
    let byKey : Leaf := {
      target := .field "doc", op := .keyed .between, value1 := some (.int 7),
      value2 := some (.int 1), value3 := some (.int 9), path := [.mapKey (.str "marks")],
      settings := { keepKeyTypes := true } }
    let whole := Leaf.onBin "mark" (.scalar .between) (.int 1) (some (.int 9))
    let doc (v : Json) : Record := { bins := [("doc", .obj [("marks", .obj [("7", v)])])] }
    ∃ x y, byKey.expression .json = .ok x ∧ whole.expression .json = .ok y ∧
      (∀ v, x.evaluate (doc v) = y.evaluate { bins := [("mark", v)] }) ∧
      x.evaluate { bins := [("doc", .obj [("marks", .obj [])])] } = .unknown := by
  intro byKey whole doc
  have parallel := (@byKey_evaluates_as_whole byKey whole _ _ _ _ rfl rfl rfl rfl .between rfl rfl
    rfl).1
  have same := parallel.of_ok rfl rfl
  refine ⟨_, _, rfl, rfl, fun v => ?_, ?_⟩
  · exact (same _).1 v _ rfl rfl
  · exact (same _).2 rfl

end Leaf

end StoreQuery
