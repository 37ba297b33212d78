import StoreQuery.Proofs.Encoding.Fault
import StoreQuery.Proofs.Wire.Valid

namespace StoreQuery

inductive QueryError.IsStructural : QueryError → Prop
  | missingOperand (op : Operation) (role : Role) : IsStructural (.missingOperand op role)
  | malformed (cause : Malformed) : IsStructural (.malformed cause)

namespace Leaf

variable {l : Leaf} {e : Encoder} {err : QueryError}

theorem Fault.not_isStructural (wellFormed : l.WellFormed) (fault : l.Fault err) :
    ¬err.IsStructural := by
  cases fault with
  | missing misses => exact absurd misses (wellFormed.operands _)
  | metadata target inapplicable =>
    have takes := wellFormed.target
    rw [target, Target.takes_metadata_iff, inapplicable] at takes
    cases takes
  | mismatch | ignoreCase | noneAbove => nofun

theorem Fault.of_rangeOverflow {op : Operation} {bound : Int64}
    (fault : l.Fault (.rangeOverflow op bound)) :
    l.op = .element (.listValue .gt) ∧ l.value = some (.int64 .maxValue) := by
  cases fault with
  | noneAbove isGreater value => exact ⟨isGreater, value⟩

theorem WellFormed.indexFilter_error (wellFormed : l.WellFormed)
    (h : l.indexFilter e = .error err) : ¬err.IsStructural := by
  obtain refused | ⟨-, bound, rfl⟩ := expression_error_of_filter_error h
  · exact (l.expression_failsOnly e err refused).not_isStructural wellFormed
  · nofun

inductive Arises : Leaf → Prop
  | built {d : LeafDraft} {l : Leaf} (h : d.build = .ok l) : Arises l
  | read {v : Json} {l : Leaf} (h : Leaf.ofJson v = .ok l) : Arises l
  | readWithin {v : Json} {p : Predicate} {l : Leaf} (h : Predicate.ofJson v = .ok p)
    (mem : l ∈ p.leaves) : Arises l
  | asked {text : String} {q : Query} {p : Predicate} {l : Leaf} (h : Query.ofText text = .ok q)
    (predicate : q.predicate = some p) (mem : l ∈ p.leaves) : Arises l
  | constructed {p : Predicate} {l : Leaf} (h : p.Constructed) (mem : l ∈ p.leaves) : Arises l

theorem Arises.validate_eq_ok (h : l.Arises) : l.validate = .ok () := by
  cases h with
  | built h =>
    obtain ⟨op, -, -, valid, rfl⟩ := LeafDraft.exists_op_of_build h
    exact valid
  | read h => exact Leaf.ofJson_yields _ _ h
  | readWithin h mem => exact Predicate.ofJson_yields _ _ h _ mem
  | asked h predicate mem => exact Query.ofText_yields _ _ h _ predicate _ mem
  | constructed h mem => exact h.valid _ mem

/-- Every leaf that comes about is valid. A valid leaf is encoded, or refused for the values of its
operands alone; in an expression no bound overflows but the greatest integer where an element has to
be above it. And what is built has the operands that were given, each in its role. -/
theorem valid_leaf_refused_for_values_only :
    (∀ l : Leaf, l.Arises → l.validate = .ok ()) ∧
    (∀ (l : Leaf) (e : Encoder), l.validate = .ok () →
      (∀ err, l.expression e = .error err → ¬err.IsStructural ∧
        ∀ op bound, err = .rangeOverflow op bound →
          l.op = .element (.listValue .gt) ∧ l.value = some (.int64 .maxValue)) ∧
      ∀ err, l.indexFilter e = .error err → ¬err.IsStructural) ∧
    ∀ (d : LeafDraft) (l : Leaf), d.build = .ok l →
      l.key = d.key ∧ l.value = d.value ∧ l.upper = d.upper := by
  refine ⟨fun l => Arises.validate_eq_ok, fun l e valid => ?_, fun d l built => ?_⟩
  · have wellFormed := validate_eq_ok_iff.1 valid
    constructor
    · intro err refused
      have fault := l.expression_failsOnly e err refused
      refine ⟨fault.not_isStructural wellFormed, ?_⟩
      rintro op bound rfl
      exact fault.of_rangeOverflow
    · intro err refused
      exact wellFormed.indexFilter_error refused
  · obtain ⟨op, -, keyOnly, -, rfl⟩ := LeafDraft.exists_op_of_build built
    exact ⟨LeafDraft.key_leaf keyOnly, LeafDraft.value_leaf d op, LeafDraft.upper_leaf d op⟩

theorem valid_leaf_refused_for_values_only_of_bounds :
    let above : Leaf := .onBin "years" (.element (.listValue .gt)) (.int64 .maxValue)
    let within : LeafDraft := {
      target := .field "marks", op := some (.keyed .between), key := some (.str "math"),
      value := some (.int 1), upper := some (.str "9") }
    above.expression .json = .error (.rangeOverflow (.element (.listValue .gt)) .maxValue) ∧
      above.value = some (.int64 .maxValue) ∧
      ∃ l, within.build = .ok l ∧ l.validate = .ok () ∧
        (l.key = some (.str "math") ∧ l.value = some (.int 1) ∧ l.upper = some (.str "9")) ∧
        ∃ err, l.indexFilter .json = .error err ∧ ¬err.IsStructural := by
  intro above within
  obtain ⟨valid, refused, roles⟩ := valid_leaf_refused_for_values_only
  have built : within.build = .ok (within.leaf (.keyed .between)) := rfl
  have validWithin := valid _ (.built built)
  exact ⟨rfl, ((refused above .json rfl).1 _ rfl).2 _ _ rfl |>.2, _, built, validWithin,
    roles within _ built, _, rfl, (refused _ .json validWithin).2 _ rfl⟩

end Leaf

end StoreQuery
