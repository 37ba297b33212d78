import StoreQuery.Proofs.Predicate.Valid
import StoreQuery.Proofs.Wire.Predicate

namespace StoreQuery

open Wire

namespace LeafDraft

variable {d : LeafDraft} {op : Operation} {v₁ v₂ v₃ : Option Json} {fs : Fields}

/-- The positions that the operands of a draft have in JSON: the key comes first, where the
operation takes one. -/
inductive Places (d : LeafDraft) : Operation → Option Json → Option Json → Option Json → Prop
  | byKey (op : KeyedOp) : Places d (.keyed op) d.key d.value d.upper
  | plain {op : Operation} (noKey : op.isKeyed = false) : Places d op d.value d.upper none

structure NullFree (d : LeafDraft) : Prop where
  key : d.key ≠ some .null
  value : d.value ≠ some .null
  upper : d.upper ≠ some .null

theorem Places.leaf_eq (h : d.Places op v₁ v₂ v₃) : d.leaf op =
    { target := d.target, op, value1 := v₁, value2 := v₂, value3 := v₃, ignoreCase := d.ignoreCase,
      path := d.path, settings := d.settings } := by
  cases h with
  | byKey op => rfl
  | plain noKey => simp only [leaf, noKey, Bool.false_eq_true, if_false]

theorem NullFree.leaf (h : d.NullFree) (op : Operation) : (d.leaf op).NullFree := by
  cases keyed : op.isKeyed with
  | true => simpa [LeafDraft.leaf, Leaf.NullFree, keyed] using ⟨h.key, h.value, h.upper⟩
  | false => simpa [LeafDraft.leaf, Leaf.NullFree, keyed] using ⟨h.value, h.upper⟩

/-- Building a leaf and reading it from JSON, where its operands stand by position, come to the same
leaf or to the same error; to a leaf just if its parts fit together. -/
theorem build_agrees_with_reading (chosen : d.op = some op)
    (keyOnly : d.key ≠ none → op.isKeyed = true) (nullFree : d.NullFree)
    (places : d.Places op v₁ v₂ v₃)
    (written : Leaf.WrittenIn
      { target := d.target, op, value1 := v₁, value2 := v₂, value3 := v₃,
        ignoreCase := d.ignoreCase, path := d.path, settings := d.settings } fs) :
    (∀ l, d.build = .ok l ↔ Leaf.ofJson (.obj fs) = .ok l) ∧
      (∀ err, d.build = .error err ↔ Leaf.ofJson (.obj fs) = .error (.leaf err)) ∧
      ∀ l, d.build = .ok l ↔ (d.leaf op).WellFormed ∧ l = d.leaf op := by
  rw [← places.leaf_eq] at written
  have read := written.ofJson_eq
  rw [Leaf.withoutNulls_eq_self_iff.2 (nullFree.leaf op)] at read
  refine ⟨?_, ?_, fun l => build_eq_ok_iff chosen keyOnly⟩
  all_goals
    rw [read, build_eq chosen keyOnly]
    cases (d.leaf op).validate <;> simp

theorem build_agrees_with_reading_of_range :
    let range (upper : Option Json) : LeafDraft := {
      target := .field "marks", op := some (.keyed .between), key := some (.str "math"),
      value := some (.int 1), upper, path := [.listIndex 0] }
    let fields : Fields := [("value2", .int 1), ("path", .arr [.obj [("list_index", .int 0)]]),
      ("op", .str "MAP_VAL_BETWEEN_BY_KEY"), ("target", .obj [("field", .str "marks")]),
      ("value1", .str "math")]
    Leaf.ofJson (.obj (("value3", .int 9) :: fields)) =
        .ok ((range (some (.int 9))).leaf (.keyed .between)) ∧
      Leaf.ofJson (.obj fields) = .error (.leaf (.missingOperand (.keyed .between) .upper)) := by
  intro range fields
  have nullFree (upper : Option Json) (h : upper ≠ some .null) : (range upper).NullFree :=
    ⟨nofun, nofun, h⟩
  have wholeWritten :
      ((range (some (.int 9))).leaf (.keyed .between)).WrittenIn (("value3", .int 9) :: fields) := {
    distinct := by simp [fields]
    target := rfl, op := rfl, value1 := rfl, value2 := rfl, value3 := rfl
    ignoreCase := .inr ⟨rfl, rfl⟩, path := .inl rfl, settings := .inr ⟨rfl, rfl⟩ }
  have partWritten : ((range none).leaf (.keyed .between)).WrittenIn fields := {
    distinct := by simp [fields]
    target := rfl, op := rfl, value1 := rfl, value2 := rfl, value3 := rfl
    ignoreCase := .inr ⟨rfl, rfl⟩, path := .inl rfl, settings := .inr ⟨rfl, rfl⟩ }
  have whole := build_agrees_with_reading rfl (fun _ => rfl) (nullFree (some (.int 9)) nofun)
    (.byKey .between) wholeWritten
  have part := build_agrees_with_reading rfl (fun _ => rfl) (nullFree none nofun) (.byKey .between)
    partWritten
  exact ⟨(whole.1 _).1 rfl, (part.2.1 _).1 rfl⟩

end LeafDraft

end StoreQuery
