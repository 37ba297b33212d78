import StoreQuery.Predicate.Basic
import StoreQuery.Predicate.Draft
import StoreQuery.Proofs.Except

namespace StoreQuery

def RoleSet.has (s : RoleSet) : Role → Bool
  | .key => s.key
  | .value => s.value
  | .upper => s.upper

theorem Operation.needs_key (op : Operation) : op.needs.key = op.isKeyed := by
  cases op with
  | scalar s | element s | keyed s => cases s <;> rfl
  | pattern | geoWithin => rfl

inductive Target.Takes : Target → Operation → Prop
  | field {bin : String} (named : bin ≠ "") (op : Operation) : Takes (.field bin) op
  | metadata (field : MetadataField) {op : Operation} (applies : op.appliesToMetadata = true) :
    Takes (.metadata field) op
  | key (key : Json) : Takes (.id (.one key)) (.scalar (.compare .eq))
  | keys (keys : List Json) : Takes (.id (.many keys)) (.scalar .isIn)

namespace Target

variable {op : Operation}

theorem takes_field_iff {bin : String} : (field bin).Takes op ↔ bin ≠ "" :=
  ⟨fun (.field named _) => named, fun named => .field named op⟩

theorem takes_metadata_iff {field : MetadataField} :
    (metadata field).Takes op ↔ op.appliesToMetadata = true :=
  ⟨fun (.metadata _ applies) => applies, .metadata field⟩

theorem takes_key_iff {key : Json} : (id (.one key)).Takes op ↔ op = .scalar (.compare .eq) := by
  constructor
  · rintro ⟨⟩
    rfl
  · rintro rfl
    exact .key key

theorem takes_keys_iff {keys : List Json} : (id (.many keys)).Takes op ↔ op = .scalar .isIn := by
  constructor
  · rintro ⟨⟩
    rfl
  · rintro rfl
    exact .keys keys

end Target

namespace Leaf

variable {l : Leaf}

def operand (l : Leaf) : Role → Option Json
  | .key => l.key
  | .value => l.value
  | .upper => l.upper

/-- An operand is needed and is not there. Conditions on the record key have theirs in the
target. -/
structure Misses (l : Leaf) (role : Role) : Prop where
  noId : l.id? = none
  needed : l.op.needs.has role = true
  absent : l.operand role = none

theorem exists_require_eq_ok_iff {role : Role} {v : Option Json} :
    (∃ w, l.require role v = .ok w) ↔ v ≠ none := by
  cases v <;> simp [require]

theorem checkOperands_eq_ok_iff :
    l.checkOperands = .ok () ↔
      (∀ role, l.op.needs.has role = true → l.operand role ≠ none) ∧
        (l.path = [] ∨ l.op.acceptsPath = true) := by
  simp only [checkOperands, Except.ite_check_eq_ok_iff, requireKey, requireValue, requireUpper,
    exists_require_eq_ok_iff]
  constructor
  · rintro ⟨key, value, upper, path⟩
    constructor
    · rintro (_ | _ | _)
      · exact key
      · exact value
      · exact upper
    · by_cases h : l.path = [] <;> simp_all
  · rintro ⟨present, path⟩
    refine ⟨present .key, present .value, present .upper, ?_⟩
    by_cases h : l.path = [] <;> simp_all

structure WellFormed (l : Leaf) : Prop where
  target : l.target.Takes l.op
  operands : ∀ role, ¬l.Misses role
  path : l.path = [] ∨ l.op.acceptsPath = true

theorem forall_not_misses_iff (noId : l.id? = none) :
    (∀ role, ¬l.Misses role) ↔ ∀ role, l.op.needs.has role = true → l.operand role ≠ none :=
  forall_congr' fun _ => ⟨fun h needed absent => h ⟨noId, needed, absent⟩,
    fun h misses => h misses.needed misses.absent⟩

theorem wellFormed_iff_of_noId (noId : l.id? = none) :
    l.WellFormed ↔ l.target.Takes l.op ∧ l.checkOperands = .ok () := by
  rw [checkOperands_eq_ok_iff, ← forall_not_misses_iff noId]
  exact ⟨fun h => ⟨h.target, h.operands, h.path⟩, fun ⟨target, operands, path⟩ =>
    ⟨target, operands, path⟩⟩

theorem wellFormed_iff_of_id {ids : Ids} (target : l.target = .id ids) :
    l.WellFormed ↔ l.target.Takes l.op ∧ l.path = [] := by
  constructor
  · rintro ⟨takes, -, path⟩
    refine ⟨takes, path.resolve_right ?_⟩
    rw [target] at takes
    generalize l.op = op at takes ⊢
    cases takes <;> simp [Operation.acceptsPath]
  · rintro ⟨takes, path⟩
    refine ⟨takes, ?_, .inl path⟩
    rintro role ⟨noId, -, -⟩
    rw [id?, target] at noId
    cases noId

theorem validate_eq_ok_iff : l.validate = .ok () ↔ l.WellFormed := by
  cases target : l.target with
  | field bin =>
    rw [wellFormed_iff_of_noId (by rw [id?, target]), target, Target.takes_field_iff]
    simp only [validate, target]
    split <;> simp_all
  | metadata field =>
    rw [wellFormed_iff_of_noId (by rw [id?, target]), target, Target.takes_metadata_iff]
    simp only [validate, target]
    split <;> simp_all
  | id ids =>
    rw [wellFormed_iff_of_id target, target]
    simp only [validate, target]
    cases ids with
    | one key =>
      rw [Target.takes_key_iff]
      by_cases eq : l.op = .scalar (.compare .eq) <;> by_cases path : l.path = [] <;>
        simp [eq, path]
    | many keys =>
      rw [Target.takes_keys_iff]
      by_cases isIn : l.op = .scalar .isIn <;> by_cases path : l.path = [] <;>
        simp [isIn, path]

theorem wellFormed_onBin {bin : String} {op : Operation} {upper : Option Json} (named : bin ≠ "")
    (noKey : op.isKeyed = false) (bounded : op.needs.upper = false ∨ upper ≠ none) (value : Json) :
    (onBin bin op value upper).WellFormed where
  target := .field named op
  operands := by
    rintro role ⟨-, needed, absent⟩
    simp only [onBin] at needed
    cases role with
    | key =>
      rw [RoleSet.has, Operation.needs_key, noKey] at needed
      cases needed
    | value => simp [onBin, operand, Leaf.value, noKey] at absent
    | upper =>
      simp only [onBin, operand, Leaf.upper, noKey, Bool.false_eq_true, if_false] at absent
      obtain unbounded | bound := bounded
      · cases unbounded.symm.trans needed
      · exact bound absent
  path := .inl rfl

end Leaf

namespace LeafDraft

variable {d : LeafDraft} {op : Operation} {l : Leaf}

theorem build_eq (chosen : d.op = some op) (keyOnly : d.key ≠ none → op.isKeyed = true) :
    d.build = do (d.leaf op).validate; return d.leaf op := by
  simp only [build, chosen]
  cases keyed : op.isKeyed with
  | true => rfl
  | false =>
    cases key : d.key with
    | none => rfl
    | some v => exact absurd (keyOnly (by simp [key])) (by simp [keyed])

theorem build_eq_ok_iff (chosen : d.op = some op) (keyOnly : d.key ≠ none → op.isKeyed = true) :
    d.build = .ok l ↔ (d.leaf op).WellFormed ∧ l = d.leaf op := by
  rw [build_eq chosen keyOnly, ← Leaf.validate_eq_ok_iff]
  cases (d.leaf op).validate <;> simp [eq_comm]

theorem exists_op_of_build (h : d.build = .ok l) :
    ∃ op, d.op = some op ∧ (d.key ≠ none → op.isKeyed = true) ∧
      (d.leaf op).validate = .ok () ∧ l = d.leaf op := by
  cases chosen : d.op with
  | none =>
    rw [build, chosen] at h
    cases h
  | some op =>
    have keyOnly : d.key ≠ none → op.isKeyed = true := by
      intro key
      cases keyed : op.isKeyed with
      | true => rfl
      | false => simp [build, chosen, keyed, Option.isSome_iff_ne_none, key] at h
    rw [build_eq chosen keyOnly] at h
    obtain ⟨_, valid, h⟩ := Except.bind_eq_ok_iff.1 h
    exact ⟨op, rfl, keyOnly, valid, (Except.ok.inj h).symm⟩

theorem key_leaf (h : d.key ≠ none → op.isKeyed = true) : (d.leaf op).key = d.key := by
  cases keyed : op.isKeyed with
  | true => simp [leaf, Leaf.key, keyed]
  | false => simpa [leaf, Leaf.key, keyed, eq_comm] using h

theorem value_leaf (d : LeafDraft) (op : Operation) : (d.leaf op).value = d.value := by
  cases keyed : op.isKeyed <;> simp [leaf, Leaf.value, keyed]

theorem upper_leaf (d : LeafDraft) (op : Operation) : (d.leaf op).upper = d.upper := by
  cases keyed : op.isKeyed <;> simp [leaf, Leaf.upper, keyed]

end LeafDraft

namespace Predicate

def Valid (p : Predicate) : Prop := ∀ l ∈ p.leaves, l.validate = .ok ()

theorem valid_leaf_iff {l : Leaf} : (leaf l).Valid ↔ l.validate = .ok () := by
  rw [Valid, leaves, List.forall_mem_singleton]

/-- Predicates made by a constructor for one condition. Nothing is checked then, so the name of a
bin may be empty; here it is not. -/
inductive Constructed : Predicate → Prop
  | compare (c : Comparison) {bin : String} (named : bin ≠ "") (value : Json) :
    Constructed (.compare c bin value)
  | between {bin : String} (named : bin ≠ "") (low high : Json) :
    Constructed (.between bin low high)
  | isIn {bin : String} (named : bin ≠ "") (values : List Json) : Constructed (.isIn bin values)
  | pattern (op : PatternOp) {bin : String} (named : bin ≠ "") (text : String) :
    Constructed (.pattern op bin text)
  | id (key : Json) : Constructed (.id key)
  | ids (keys : List Json) : Constructed (.ids keys)

theorem Constructed.valid {p : Predicate} (h : p.Constructed) : p.Valid := by
  have onBin {bin : String} {op : Operation} {upper : Option Json} (named : bin ≠ "")
      (noKey : op.isKeyed = false) (bounded : op.needs.upper = false ∨ upper ≠ none)
      (value : Json) : (leaf (.onBin bin op value upper)).Valid :=
    valid_leaf_iff.2 (Leaf.validate_eq_ok_iff.2 (Leaf.wellFormed_onBin named noKey bounded value))
  cases h with
  | compare c named value => exact onBin named rfl (.inl rfl) value
  | between named low high => exact onBin named rfl (.inr (Option.some_ne_none high)) low
  | isIn named values => exact onBin named rfl (.inl rfl) _
  | pattern op named text => exact onBin named rfl (.inl rfl) _
  | id key => exact valid_leaf_iff.2 rfl
  | ids keys => exact valid_leaf_iff.2 rfl

end Predicate

end StoreQuery
