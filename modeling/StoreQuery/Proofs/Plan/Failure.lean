import StoreQuery.Plan.Query
import StoreQuery.Proofs.Encoding.Leaf
import StoreQuery.Proofs.Plan.KeySplit
import StoreQuery.Proofs.Plan.Selection

namespace StoreQuery

variable {p : Predicate} {e : Encoder}

namespace Predicate.Splits

variable {l : Leaf} {rest : Option Predicate} {err : QueryError}

theorem expression_error_of_leaf (splits : Splits e p l rest) (h : l.expression e = .error err) :
    ∃ err', p.expression e = .error err' := by
  refine Except.not_ok_iff.1 fun whole => ?_
  exact Except.not_ok_iff.2 ⟨err, h⟩ (splits.ok_iff.1 whole).1

theorem expression_error_of_rest (splits : Splits e p l rest)
    (h : residualExpression e rest = .error err) : ∃ err', p.expression e = .error err' := by
  refine Except.not_ok_iff.1 fun whole => ?_
  exact Except.not_ok_iff.2 ⟨err, h⟩ (splits.ok_iff.1 whole).2

end Predicate.Splits

namespace Scope

variable {s : Scope} {selection : Selection}

theorem expression_ok_of_select {x : Option Expr} (h : s.select p = .ok selection)
    (left : residualExpression s.encoder selection.residual = .ok x) :
    ∃ whole, p.expression s.encoder = .ok whole := by
  obtain rfl | ⟨l, f, rest, filter, splits, rfl⟩ := eq_of_select h
  · exact ⟨x, left⟩
  · obtain ⟨y, own, -⟩ := Leaf.answers_of_filter filter
    simp only at left
    split at left
    · exact ⟨x, left⟩
    · exact (splits s.encoder).ok_iff.2 ⟨⟨y, own⟩, x, left⟩

theorem expression_error_of_residual {err : QueryError} (h : s.select p = .ok selection)
    (left : residualExpression s.encoder selection.residual = .error err) :
    ∃ err', p.expression s.encoder = .error err' := by
  obtain rfl | ⟨l, f, rest, -, splits, rfl⟩ := eq_of_select h
  · exact ⟨err, left⟩
  · simp only at left
    split at left
    · exact ⟨err, left⟩
    · exact (splits s.encoder).expression_error_of_rest left

theorem expression_error_of_select {err : QueryError} (h : s.select p = .error err) :
    (∃ err', p.expression s.encoder = .error err') ∨
      ∃ l, s.Chosen p l ∧ l.AtLimit ∧ ∃ v, err = .rangeOverflow l.op v := by
  obtain ⟨l, rest, chosen, failed, splits⟩ := chosen_of_select_error h
  obtain own | overflow := Leaf.expression_error_of_filter_error failed
  · exact .inl ((splits s.encoder).expression_error_of_leaf own)
  · exact .inr ⟨l, chosen, overflow⟩

end Scope

namespace Query

variable {q : Query} {d : Directory} {config : Config}

theorem withoutIndex_eq_error_iff {err : QueryError} :
    q.withoutIndex config e = .error err ↔ residualExpression e q.predicate = .error err := by
  rw [withoutIndex]
  cases residualExpression e q.predicate <;> simp

theorem selection_cases (q : Query) (d : Directory) (config : Config) (e : Encoder)
    (p : Predicate) :
    q.selection d config e p = .ok (.unchanged p) ∨
      config.indexSelection ∧
        q.selection d config e p = (Scope.mk d q.ns q.set e).select p := by
  rw [selection]
  split
  · rename_i enabled
    exact .inr ⟨enabled, rfl⟩
  · exact .inl rfl

theorem keySplit_eq_none_of_compile {scan : Scan} (predicate : q.predicate = some p)
    (h : q.compile d config e = .ok (.query scan)) : p.keySplit = .ok none := by
  simp only [compile, predicate] at h
  obtain ⟨split, splitOff, h⟩ := Except.bind_eq_ok_iff.1 h
  cases split with
  | none => exact splitOff
  | some split =>
    obtain ⟨x, -, h⟩ := Except.bind_eq_ok_iff.1 h
    cases h

theorem query_of_compile {plan : Plan} (predicate : q.predicate = some p)
    (noKeys : p.keySplit = .ok none) (h : q.compile d config e = .ok plan) :
    ∃ selection x, q.selection d config e p = .ok selection ∧
      residualExpression e selection.residual = .ok x ∧
        plan = .query
          ⟨q.ns, q.set, selection.indexFilter, x, config.maxRecords q.maxRecords⟩ := by
  simp only [compile, predicate, noKeys, Except.ok_bind] at h
  obtain ⟨selection, selected, h⟩ := Except.bind_eq_ok_iff.1 h
  obtain ⟨x, left, h⟩ := Except.bind_eq_ok_iff.1 h
  cases h
  exact ⟨selection, x, selected, left, rfl⟩

theorem expression_ok_of_selection {selection : Selection} {x : Option Expr}
    (h : q.selection d config e p = .ok selection)
    (left : residualExpression e selection.residual = .ok x) :
    ∃ whole, p.expression e = .ok whole := by
  obtain unchanged | ⟨-, chosen⟩ := q.selection_cases d config e p
  · cases unchanged.symm.trans h
    exact ⟨x, left⟩
  · exact Scope.expression_ok_of_select (chosen ▸ h) left

/-- The leaf that is chosen for an index is a strict comparison that no integer can meet. -/
def Overflows (q : Query) (d : Directory) (config : Config) (e : Encoder) : Prop :=
  config.indexSelection ∧ ∃ p l, q.predicate = some p ∧ (Scope.mk d q.ns q.set e).Chosen p l ∧
    l.AtLimit

theorem error_of_selection_error {err : QueryError} (predicate : q.predicate = some p)
    (h : q.selection d config e p = .error err) :
    (∃ err', p.expression e = .error err') ∨
      q.Overflows d config e ∧ ∃ op v, err = .rangeOverflow op v := by
  obtain unchanged | ⟨enabled, chosen⟩ := q.selection_cases d config e p
  · cases unchanged.symm.trans h
  · obtain whole | ⟨l, chosen, atLimit, v, rfl⟩ := Scope.expression_error_of_select (chosen ▸ h)
    · exact .inl whole
    · exact .inr ⟨⟨enabled, p, l, predicate, chosen, atLimit⟩, l.op, v, rfl⟩

theorem error_of_residual_error {selection : Selection} {err : QueryError}
    (h : q.selection d config e p = .ok selection)
    (left : residualExpression e selection.residual = .error err) :
    ∃ err', p.expression e = .error err' := by
  obtain unchanged | ⟨-, chosen⟩ := q.selection_cases d config e p
  · cases unchanged.symm.trans h
    exact ⟨err, left⟩
  · exact Scope.expression_error_of_residual (chosen ▸ h) left

theorem compile_error_cases {err : QueryError} (h : q.compile d config e = .error err) :
    (∃ n, err = .multipleIdQualifiers n) ∨ (∃ err', q.withoutIndex config e = .error err') ∨
      q.Overflows d config e ∧ ∃ op v, err = .rangeOverflow op v := by
  cases predicate : q.predicate with
  | none =>
    simp only [compile, predicate] at h
    cases h
  | some p =>
    have failed : (∃ err', p.expression e = .error err') →
        ∃ err', q.withoutIndex config e = .error err' := by
      simp only [withoutIndex_eq_error_iff, predicate, residualExpression]
      exact id
    simp only [compile, predicate] at h
    obtain refused | ⟨split, splitOff, h⟩ := Except.bind_eq_error_iff.1 h
    · obtain ⟨children, st, -, -, rfl⟩ := Predicate.keySplit_eq_error_iff.1 refused
      exact .inl ⟨_, rfl⟩
    right
    cases split with
    | some split =>
      obtain ⟨l, ids, -, -, splits⟩ := Predicate.splits_of_keySplit e splitOff
      obtain left | ⟨x, -, h⟩ := Except.bind_eq_error_iff.1 h
      · exact .inl (failed (splits.expression_error_of_rest left))
      · cases h
    | none =>
      obtain unselected | ⟨selection, selected, h⟩ := Except.bind_eq_error_iff.1 h
      · exact (error_of_selection_error predicate unselected).imp_left failed
      obtain left | ⟨x, -, h⟩ := Except.bind_eq_error_iff.1 h
      · exact .inl (failed (error_of_residual_error selected left))
      · cases h

/-- No error is lost where no keys are split off, and none is made up but for an overflow. -/
theorem compile_failure (q : Query) (d : Directory) (config : Config) (e : Encoder) :
    ((∀ p ∈ q.predicate, p.keySplit = .ok none) →
      (∃ err, q.withoutIndex config e = .error err) → ∃ err, q.compile d config e = .error err) ∧
    (∀ err, q.compile d config e = .error err → (∀ op v, err ≠ .rangeOverflow op v) →
      (∀ n, err ≠ .multipleIdQualifiers n) → ∃ err', q.withoutIndex config e = .error err') ∧
    ∀ op v, q.compile d config e = .error (.rangeOverflow op v) →
      (∃ err, q.withoutIndex config e = .error err) ∨ q.Overflows d config e := by
  refine ⟨fun noKeys failed => ?_, fun err h notOverflow notIds => ?_, fun op v h => ?_⟩
  · obtain ⟨err, failed⟩ := failed
    rw [withoutIndex_eq_error_iff] at failed
    refine Except.not_ok_iff.1 fun ⟨plan, compiled⟩ => ?_
    cases predicate : q.predicate with
    | none =>
      rw [predicate] at failed
      cases failed
    | some p =>
      obtain ⟨selection, x, selected, left, -⟩ :=
        query_of_compile predicate (noKeys p predicate) compiled
      rw [predicate] at failed
      exact Except.not_ok_iff.2 ⟨err, failed⟩ (expression_ok_of_selection selected left)
  · obtain ⟨n, ids⟩ | failed | ⟨-, op, v, overflow⟩ := compile_error_cases h
    · exact absurd ids (notIds n)
    · exact failed
    · exact absurd overflow (notOverflow op v)
  · obtain ⟨n, ids⟩ | failed | ⟨overflows, -⟩ := compile_error_cases h
    · cases ids
    · exact .inl failed
    · exact .inr overflows

theorem compile_failure_of_overflow :
    let above (bound : Json) : Query :=
      { ns := "ns", predicate := some (.compare (.ineq .gt) "age" bound) }
    let d := Catalog.directory ⟨[.onBin .numeric "ns" "" "age"]⟩
    let greatest := above (.int64 .maxValue)
    (∃ full, greatest.withoutIndex {} .json = .ok full) ∧ greatest.Overflows d {} .json ∧
      (∃ err, (above .null).compile d {} .json = .error err) ∧
        ∃ err, (above .null).withoutIndex {} .json = .error err := by
  intro above d greatest
  have full : ∃ full, greatest.withoutIndex {} .json = .ok full := ⟨_, rfl⟩
  have refused : greatest.compile d {} .json =
      .error (.rangeOverflow (.scalar (.compare (.ineq .gt))) .maxValue) := rfl
  have overflows := ((compile_failure greatest d {} .json).2.2 _ _ refused).resolve_left
    fun failed => Except.not_ok_iff.2 failed full
  obtain ⟨noneLost, noneMadeUp, -⟩ := compile_failure (above .null) d {} .json
  obtain ⟨err, compiled⟩ := noneLost (by rintro p ⟨⟩; rfl) ⟨_, rfl⟩
  obtain rfl : err = .mismatch (.scalar (.compare (.ineq .gt))) .orderable .null := by
    cases compiled
    rfl
  exact ⟨full, overflows, ⟨_, compiled⟩,
    noneMadeUp _ compiled (fun _ _ => nofun) fun _ => nofun⟩

end Query

end StoreQuery
