import StoreQuery.Proofs.Encoding.Presence

/-!
Conditions on a bin that a record lacks. What is asked about the value of the bin can be told
neither way, so no such condition finds the record, and no AND that has one among its members.
-/

namespace StoreQuery

open Except (Yields)

def Record.Lacks (r : Record) (bin : String) : Prop := r.bin? bin = none ∨ r.bin? bin = some .null

theorem ValueType.read?_null (ty : ValueType) : ty.read? .null = none := by cases ty <;> rfl

theorem Path.eq_null_of_resolve_null {p : Path} {v : Json} (h : p.resolve .null = some v) :
    v = .null := by
  cases p with
  | nil => exact (Option.some.inj h).symm
  | cons step rest => cases step <;> cases h

namespace Record.Lacks

variable {r : Record} {bin : String} (lacks : r.Lacks bin)
include lacks

theorem resolve_bin (ty : ValueType) : (Operand.bin bin ty).resolve r = none := by
  rw [ScalarOp.resolve_bin]
  obtain missing | null := lacks
  · rw [missing, Option.bind_none]
  · rw [null, Option.bind_some, ty.read?_null]

theorem eq_null_of_resolve {path : Path} {v : Json} (h : (r.bin? bin).bind path.resolve = some v) :
    v = .null := by
  obtain missing | null := lacks
  · rw [missing] at h
    cases h
  · rw [null] at h
    exact Path.eq_null_of_resolve_null h

theorem resolve_mapValue (path : Path) (key : Json) (ty : ValueType) :
    (Operand.mapValue bin path key ty).resolve r = none := by
  rw [KeyedOp.resolve_mapValue, Option.bind_eq_none_iff]
  intro v stored
  obtain ⟨fields, resolved, -⟩ := exists_entry_of_mapValue? stored
  cases lacks.eq_null_of_resolve resolved

theorem resolve_count (path : Path) (es : Elements) (s : Selector) :
    (Operand.count bin path es s).resolve r = none := by
  rw [Operand.resolve_count, Option.map_eq_none_iff, Option.bind_eq_none_iff]
  intro v resolved
  rw [lacks.eq_null_of_resolve resolved]
  cases es <;> rfl

end Record.Lacks

namespace Expr

variable {r : Record}

def UnknownOn (r : Record) (x : Expr) : Prop := x.evaluate r = .unknown

theorem unknownOn_compare {left : Operand} (h : left.resolve r = none) (c : Comparison)
    (right : Operand) : (compare c left right).UnknownOn r := by
  rw [UnknownOn, evaluate, h]

theorem unknownOn_regex {source : Operand} (h : source.resolve r = none) (pattern : String)
    (flags : PatternFlags) : (regex source pattern flags).UnknownOn r := by
  rw [UnknownOn, evaluate, h]
  rfl

theorem unknownOn_geoWithin {source : Operand} (h : source.resolve r = none) (region : Json) :
    (geoWithin source region).UnknownOn r := by
  rw [UnknownOn, evaluate, h]
  rfl

theorem UnknownOn.not {x : Expr} (h : x.UnknownOn r) : (not x).UnknownOn r := by
  rw [UnknownOn, evaluate, h]
  rfl

theorem unknownOn_join (kind : Connective) {es : List Expr} (nonempty : es ≠ [])
    (h : ∀ x ∈ es, x.UnknownOn r) : (kind.join es).UnknownOn r := by
  rw [UnknownOn, evaluate_join]
  induction es with
  | nil => exact absurd rfl nonempty
  | cons x rest ih =>
    obtain ⟨first, others⟩ := List.forall_mem_cons.1 h
    rw [List.map_cons, Connective.fold_cons, first]
    by_cases single : rest = []
    · rw [single]
      cases kind <;> rfl
    · rw [ih single others]
      cases kind <;> rfl

theorem unknownOn_allOf_pair {x y : Expr} (hx : x.UnknownOn r) (hy : y.UnknownOn r) :
    (allOf [x, y]).UnknownOn r :=
  unknownOn_join .and (List.cons_ne_nil x [y])
    (List.forall_mem_cons.2 ⟨hx, List.forall_mem_singleton.2 hy⟩)

end Expr

open StoreQuery.Expr (UnknownOn unknownOn_compare unknownOn_regex unknownOn_geoWithin unknownOn_join
  unknownOn_allOf_pair)

theorem Leaf.values_ne_nil {l : Leaf} {v : Json} {values : List Json}
    (value : l.requireValue = .ok v) (listed : requireList l.op v = .ok values)
    (choice : l.value ≠ some (.arr [])) : values ≠ [] := by
  rintro rfl
  cases v with
  | arr items =>
    cases listed
    exact choice (requireValue_eq_ok_iff.1 value)
  | _ => cases listed

section

variable {l : Leaf} {e : Encoder} {bin : String} {r : Record} (lacks : r.Lacks bin)
include lacks

theorem Leaf.compareBin_unknown (c : Comparison) (v : Json) :
    (l.compareBin e bin c v).Yields (UnknownOn r) := by
  apply Yields.bind
  intro ty _
  exact .ok (unknownOn_compare (lacks.resolve_bin ty) c _)

theorem Leaf.equality_unknown (negated : Bool) (v : Json) :
    (l.equality e bin negated v).Yields (UnknownOn r) := by
  obtain ⟨s, rfl, ignoreCase⟩ | compared := l.equality_cases e bin negated v
  · have same := unknownOn_regex (lacks.resolve_bin .string)
      (Operation.patternFor (.scalar (.compare .eq)) s) { icase := true }
    simp only [equality, ignoreCase]
    cases negated with
    | false => exact .ok same
    | true => exact .ok same.not
  · rw [compared]
    exact compareBin_unknown lacks _ v

theorem Leaf.join_equality_unknown (kind : Connective) (negated : Bool) {values : List Json}
    (nonempty : values ≠ []) :
    (do return kind.join (← values.mapM (l.equality e bin negated))).Yields (UnknownOn r) := by
  apply Yields.bind
  intro xs compiled
  exact .ok (unknownOn_join kind (Yields.mapM_ne_nil nonempty xs compiled)
    (Yields.mapM (equality_unknown lacks negated) values xs compiled))

theorem ScalarOp.expression_unknown (op : ScalarOp) (noNullCheck : op ≠ .isNull ∧ op ≠ .isNotNull)
    (choice : op = .isIn ∨ op = .notIn → l.value ≠ some (.arr [])) :
    (op.expression l e bin).Yields (UnknownOn r) := by
  match op with
  | .compare .eq | .compare .ne =>
    apply Yields.bind
    intro v _
    exact Leaf.equality_unknown lacks _ v
  | .compare (.ineq i) =>
    apply Yields.bind
    intro v _
    apply Yields.bind
    intro _ _
    exact Leaf.compareBin_unknown lacks _ v
  | .between =>
    apply Yields.bind
    intro low _
    apply Yields.bind
    intro high _
    apply Yields.bind
    intro _ _
    apply Yields.bind
    intro _ _
    apply Yields.bind
    intro ty _
    have unread := lacks.resolve_bin ty
    exact .ok (unknownOn_allOf_pair (unknownOn_compare unread _ _) (unknownOn_compare unread _ _))
  | .isIn =>
    apply Yields.bind
    intro v value
    apply Yields.bind
    intro values listed
    have nonempty := Leaf.values_ne_nil value listed (choice (.inl rfl))
    exact Leaf.join_equality_unknown lacks .or false nonempty
  | .notIn =>
    apply Yields.bind
    intro v value
    apply Yields.bind
    intro values listed
    have nonempty := Leaf.values_ne_nil value listed (choice (.inr rfl))
    exact Leaf.join_equality_unknown lacks .and true nonempty
  | .isNull => exact absurd rfl noNullCheck.1
  | .isNotNull => exact absurd rfl noNullCheck.2

theorem PatternOp.expression_unknown (op : PatternOp) :
    (op.expression l bin).Yields (UnknownOn r) := by
  apply Yields.bind
  intro v _
  apply Yields.bind
  intro text _
  have unread := lacks.resolve_bin .string
  cases op with
  | notContaining => exact .ok (unknownOn_regex unread _ _).not
  | startsWith | endsWith | containing | like => exact .ok (unknownOn_regex unread _ _)

theorem ElementOp.expression_unknown (op : ElementOp) :
    (op.expression l e bin).Yields (UnknownOn r) := by
  apply Yields.bind
  intro s _
  have unread := lacks.resolve_count l.path op.elements s
  cases op <;> exact .ok (unknownOn_compare unread _ _)

theorem KeyedOp.expression_unknown (op : KeyedOp) :
    (op.expression l e bin).Yields (UnknownOn r) := by
  apply Yields.bind
  intro key _
  have unread := lacks.resolve_mapValue l.path (e.encodeKey key l.settings)
  have uncounted := lacks.resolve_count l.path .mapKeys (.value (e.encodeKey key l.settings))
  cases op with
  | compare c =>
    apply Yields.bind
    intro v _
    apply Yields.bind
    intro ty _
    exact .ok (unknownOn_compare (unread ty) c _)
  | between =>
    apply Yields.bind
    intro bounds _
    apply Yields.bind
    intro ty _
    exact .ok (unknownOn_allOf_pair (unknownOn_compare (unread ty) _ _)
      (unknownOn_compare (unread ty) _ _))
  | startsWith | endsWith | containing =>
    apply Yields.bind
    intro v _
    apply Yields.bind
    intro text _
    exact .ok (unknownOn_regex (unread .string) _ _)
  | present | absent => exact .ok (unknownOn_compare uncounted _ _)

end

namespace Leaf

/-- The condition is about the value of the bin: it is no null check, and no choice from an empty
list of values. -/
structure OnValue (l : Leaf) : Prop where
  noNullCheck : l.op ≠ .scalar .isNull ∧ l.op ≠ .scalar .isNotNull
  choice : l.op = .scalar .isIn ∨ l.op = .scalar .notIn → l.value ≠ some (.arr [])

theorem expression_unknown {l : Leaf} {e : Encoder} {bin : String} {r : Record}
    (target : l.target = .field bin) (onValue : l.OnValue) (lacks : r.Lacks bin) :
    (l.expression e).Yields (UnknownOn r) := by
  obtain ⟨noNullCheck, choice⟩ := onValue
  simp only [expression, target]
  cases isOp : l.op with
  | scalar op =>
    simp only [isOp, Operation.scalar.injEq, ne_eq] at noNullCheck choice
    exact op.expression_unknown lacks noNullCheck choice
  | pattern op => exact op.expression_unknown lacks
  | element op => exact op.expression_unknown lacks
  | keyed op => exact op.expression_unknown lacks
  | geoWithin =>
    apply Yields.bind
    intro region _
    exact .ok (unknownOn_geoWithin (lacks.resolve_bin .geo) region)

/-- A condition on the value of a bin that a record lacks is unknown there, in the negative as well,
and no predicate that requires it lets the record pass. -/
theorem unknown_without_bin {l : Leaf} {e : Encoder} {bin : String} {x : Expr} {r : Record}
    (target : l.target = .field bin) (onValue : l.OnValue) (compiled : l.expression e = .ok x)
    (lacks : r.Lacks bin) :
    x.evaluate r = .unknown ∧
      ∀ (p : Predicate) y, p.Requires l → p.expression e = .ok y → ¬r.Passes y := by
  have unknown : x.evaluate r = .unknown := expression_unknown target onValue lacks x compiled
  refine ⟨unknown, ?_⟩
  intro p y required whole passes
  obtain ⟨y, z, rfl, own, holds⟩ := required.holds whole
  cases compiled.symm.trans own
  have := holds r (Record.passes_some.1 passes)
  rw [unknown] at this
  cases this

theorem unknown_without_bin_of_null_name :
    let l : Leaf := .onBin "name" (.scalar .notIn) (.arr [.str "Al", .str "Bo"])
    let p : Predicate := .and [.compare .eq "age" (.int 20), .and [.leaf l]]
    let r : Record := { bins := [("age", .int 20), ("name", .null)] }
    ∃ x y, l.OnValue ∧ l.expression .json = .ok x ∧ r.Lacks "name" ∧ p.Requires l ∧
      p.expression .json = .ok y ∧ x.evaluate r = .unknown ∧ ¬r.Passes y := by
  intro l p r
  have onValue : l.OnValue := ⟨by simp [l, onBin], by simp [l, onBin, value, Operation.isKeyed]⟩
  have lacks : r.Lacks "name" := .inr rfl
  have required : p.Requires l := .and {} (.tail _ (.head _)) (.and {} (.head _) .leaf)
  obtain ⟨unknown, never⟩ := unknown_without_bin rfl onValue rfl lacks
  exact ⟨_, _, onValue, rfl, lacks, required, rfl, unknown, never p _ required rfl⟩

end Leaf

end StoreQuery
