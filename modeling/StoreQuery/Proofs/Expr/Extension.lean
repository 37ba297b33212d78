import StoreQuery.Proofs.Predicate.Value

namespace StoreQuery

namespace Truth

inductive RefinedTo : Truth → Truth → Prop
  | refl (a : Truth) : RefinedTo a a
  | unknown (b : Truth) : RefinedTo .unknown b

namespace RefinedTo

variable {a b c : Truth}

theorem trans (h : a.RefinedTo b) (h' : b.RefinedTo c) : a.RefinedTo c := by
  cases h with
  | refl => exact h'
  | unknown => exact .unknown c

theorem not (h : a.RefinedTo b) : a.not.RefinedTo b.not := by
  cases h with
  | refl => exact .refl a.not
  | unknown => exact .unknown b.not

theorem eq_of_ne_unknown (h : a.RefinedTo b) (known : a ≠ .unknown) : b = a := by
  cases h with
  | refl => rfl
  | unknown => exact absurd rfl known

end RefinedTo

end Truth

namespace Connective

open Truth (RefinedTo)

variable {a b c d : Truth}

theorem combine_refinedTo_left (kind : Connective) (h : a.RefinedTo b) (c : Truth) :
    (kind.combine a c).RefinedTo (kind.combine b c) := by
  cases h with
  | refl => exact .refl _
  | unknown => cases kind <;> cases b <;> cases c <;> constructor

theorem combine_refinedTo (kind : Connective) (left : a.RefinedTo b) (right : c.RefinedTo d) :
    (kind.combine a c).RefinedTo (kind.combine b d) := by
  -- One side after the other, and each of them on the left.
  apply (kind.combine_refinedTo_left left c).trans
  rw [kind.combine_comm b c, kind.combine_comm b d]
  exact kind.combine_refinedTo_left right b

theorem fold_refinedTo (kind : Connective) {as bs : List Truth}
    (h : List.Forall₂ RefinedTo as bs) : (kind.fold as).RefinedTo (kind.fold bs) := by
  induction h with
  | nil => exact .refl _
  | cons head _ ih => exact kind.combine_refinedTo head ih

end Connective

structure Record.ExtendedBy (r r' : Record) : Prop where
  bin? : ∀ {name v}, r.bin? name = some v → r'.bin? name = some v
  key : ∀ {k}, r.key = some k → r'.key = some k
  metadata : r.metadata = r'.metadata

theorem Record.extendedBy_append (r : Record) (more : List (String × Json)) :
    r.ExtendedBy { r with bins := r.bins ++ more } where
  bin? {name v} stored := by
    rw [Record.bin?] at stored ⊢
    rw [List.lookup_append, stored, Option.some_or]
  key := id
  metadata := rfl

variable {r r' : Record}

theorem Record.mapValue?_of_extendedBy (h : r.ExtendedBy r') {bin : String} {path : Path}
    {key v : Json} (found : r.mapValue? bin path key = some v) :
    r'.mapValue? bin path key = some v := by
  obtain ⟨w, stored, inside⟩ := Option.bind_eq_some_iff.1 found
  exact Option.bind_eq_some_iff.2 ⟨w, h.bin? stored, inside⟩

theorem Operand.resolve_of_extendedBy (o : Operand) (h : r.ExtendedBy r') {v : Json}
    (read : o.resolve r = some v) : o.resolve r' = some v := by
  cases o with
  | bin name ty =>
    obtain ⟨w, stored, typed⟩ := Option.bind_eq_some_iff.1 read
    exact Option.bind_eq_some_iff.2 ⟨w, h.bin? stored, typed⟩
  | metadata field => rwa [resolve, ← h.metadata]
  | key ty =>
    obtain ⟨k, stored, typed⟩ := Option.bind_eq_some_iff.1 read
    exact Option.bind_eq_some_iff.2 ⟨k, h.key stored, typed⟩
  | literal => exact read
  | mapValue name path key ty =>
    obtain ⟨w, found, typed⟩ := Option.bind_eq_some_iff.1 read
    exact Option.bind_eq_some_iff.2 ⟨w, Record.mapValue?_of_extendedBy h found, typed⟩
  | count name path es s =>
    obtain ⟨w, stored, counted⟩ := Option.bind_eq_some_iff.1 read
    exact Option.bind_eq_some_iff.2 ⟨w, h.bin? stored, counted⟩

theorem Operand.test_refinedTo (o : Operand) (h : r.ExtendedBy r') (test : Option Json → Truth)
    (absent : test none = .unknown) :
    (test (o.resolve r)).RefinedTo (test (o.resolve r')) := by
  cases read : o.resolve r with
  | none =>
    rw [absent]
    exact .unknown _
  | some v =>
    rw [o.resolve_of_extendedBy h read]
    exact .refl _

namespace Expr

open Truth (RefinedTo)

mutual

def presenceTests : Expr → List String
  | .const _ => []
  | .compare .. => []
  | .regex .. => []
  | .binExists bin => [bin]
  | .geoWithin .. => []
  | .and es => presenceTestsOf es
  | .or es => presenceTestsOf es
  | .not e => presenceTests e

def presenceTestsOf : List Expr → List String
  | [] => []
  | e :: rest => presenceTests e ++ presenceTestsOf rest

end

theorem compare_refinedTo (h : r.ExtendedBy r') (c : Comparison) (left right : Operand) :
    ((compare c left right).evaluate r).RefinedTo ((compare c left right).evaluate r') := by
  rw [evaluate, evaluate]
  cases readLeft : left.resolve r with
  | none => exact .unknown _
  | some a =>
    cases readRight : right.resolve r with
    | none => exact .unknown _
    | some b =>
      rw [left.resolve_of_extendedBy h readLeft, right.resolve_of_extendedBy h readRight]
      exact .refl _

mutual

theorem evaluate_refinedTo (h : r.ExtendedBy r') : (x : Expr) → x.presenceTests = [] →
    (x.evaluate r).RefinedTo (x.evaluate r')
  | .const b, _ => .refl _
  | .compare c left right, _ => compare_refinedTo h c left right
  | .regex source pattern flags, _ => source.test_refinedTo h (evaluateRegex flags pattern) rfl
  | .geoWithin source region, _ => source.test_refinedTo h (evaluateGeo region) rfl
  | .and es, noTests => by
    rw [evaluate_and, evaluate_and]
    exact Connective.and.fold_refinedTo (values_refinedTo h es noTests)
  | .or es, noTests => by
    rw [evaluate_or, evaluate_or]
    exact Connective.or.fold_refinedTo (values_refinedTo h es noTests)
  | .not x, noTests => by
    rw [evaluate, evaluate]
    exact (evaluate_refinedTo h x noTests).not

theorem values_refinedTo (h : r.ExtendedBy r') : (es : List Expr) → presenceTestsOf es = [] →
    List.Forall₂ RefinedTo (es.map (·.evaluate r)) (es.map (·.evaluate r'))
  | [], _ => .nil
  | x :: rest, noTests => by
    obtain ⟨first, others⟩ := List.append_eq_nil_iff.1 noTests
    exact .cons (evaluate_refinedTo h x first) (values_refinedTo h rest others)

end

/-- An expression that holds on a record, or fails, does the same on any record that has all of the
first one's bins, its key if it has one, and its metadata. -/
theorem definite_value_kept {x : Expr} (noTests : x.presenceTests = []) (h : r.ExtendedBy r') :
    (x.evaluate r = .holds → x.evaluate r' = .holds) ∧
      (x.evaluate r = .fails → x.evaluate r' = .fails) := by
  have refined := evaluate_refinedTo h x noTests
  constructor
  · intro holds
    rw [refined.eq_of_ne_unknown (by simp [holds]), holds]
  · intro fails
    rw [refined.eq_of_ne_unknown (by simp [fails]), fails]

theorem definite_value_kept_of_later_name :
    let x : Expr := .not (.and [
      .compare (.ineq .ge) (.bin "age" .int) (.literal (.int 30)),
      .not (.compare .eq (.bin "name" .string) (.literal (.str "Al")))])
    let r : Record := { bins := [("age", .int 20)] }
    let r' : Record := { bins := [("age", .int 20), ("name", .str "Al")] }
    x.presenceTests = [] ∧ r.ExtendedBy r' ∧ x.evaluate r = .holds ∧ x.evaluate r' = .holds := by
  intro x r r'
  have extended : r.ExtendedBy r' := r.extendedBy_append [("name", .str "Al")]
  have holds : x.evaluate r = .holds := by decide
  exact ⟨rfl, extended, holds, (definite_value_kept (x := x) rfl extended).1 holds⟩

end Expr

end StoreQuery
