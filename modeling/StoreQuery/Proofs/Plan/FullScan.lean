import StoreQuery.Plan.Explanation
import StoreQuery.Proofs.Plan.Failure

namespace StoreQuery

namespace Scan

variable {s : Scan} {config : Config}

theorem isFull_iff : s.isFull ↔ s.indexFilter = none ∧ s.expression = none := by
  simp [isFull]

theorem guard_eq_error_iff (disabled : config.scansEnabled = false) :
    s.guard config = .error (.scanDisabled s.ns s.set) ↔ s.isFull := by
  simp [guard, disabled]

theorem guard_eq_ok_iff (disabled : config.scansEnabled = false) :
    s.guard config = .ok () ↔ ¬s.isFull := by
  simp [guard, disabled]

theorem accessPath_eq_fullScan_iff : s.accessPath = .fullScan ↔ s.isFull := by
  rw [isFull_iff, accessPath]
  cases s.indexFilter <;> cases s.expression <;> simp

end Scan

namespace Query

variable {q : Query} {d : Directory} {config : Config} {e : Encoder} {p : Predicate} {scan : Scan}

/-- There is no predicate, or none of its nodes has a leaf below it. -/
def Unconditional (q : Query) : Prop := ∀ p ∈ q.predicate, p.leaves = []

structure Reads (q : Query) (scan : Scan) : Prop where
  ns : scan.ns = q.ns
  set : scan.set = q.set
  isFull_iff : scan.isFull ↔ q.Unconditional

theorem unfiltered_iff_of_selection {selection : Selection} {x : Option Expr}
    (h : q.selection d config e p = .ok selection)
    (left : residualExpression e selection.residual = .ok x) :
    selection.indexFilter = none ∧ x = none ↔ p.leaves = [] := by
  have unchanged (h : selection = .unchanged p) :
      selection.indexFilter = none ∧ x = none ↔ p.leaves = [] := by
    subst h
    simp only [Selection.unchanged, true_and]
    exact Predicate.eq_none_iff_of_expression left
  obtain same | ⟨-, chosen⟩ := q.selection_cases d config e p
  · exact unchanged (Except.ok.inj (h.symm.trans same))
  · obtain same | ⟨l, f, rest, -, splits, rfl⟩ := Scope.eq_of_select (chosen ▸ h)
    · exact unchanged same
    · have conditional := List.ne_nil_of_mem (splits e).mem_leaves
      simp [conditional]

theorem reads_of_compile (h : q.compile d config e = .ok (.query scan)) : q.Reads scan := by
  cases predicate : q.predicate with
  | none =>
    simp only [compile, predicate] at h
    cases h
    exact ⟨rfl, rfl, by simp [Scan.isFull, Unconditional, predicate]⟩
  | some p =>
    have noKeys := keySplit_eq_none_of_compile predicate h
    obtain ⟨selection, x, selected, left, isQuery⟩ := query_of_compile predicate noKeys h
    cases isQuery
    refine ⟨rfl, rfl, ?_⟩
    rw [Scan.isFull_iff, unfiltered_iff_of_selection selected left]
    simp [Unconditional, predicate]

theorem reads_of_withoutIndex (h : q.withoutIndex config e = .ok scan) : q.Reads scan := by
  obtain ⟨x, whole, rfl⟩ := Except.bind_pure_eq_ok_iff.1 h
  refine ⟨rfl, rfl, ?_⟩
  rw [Scan.isFull_iff]
  cases predicate : q.predicate with
  | none =>
    rw [predicate] at whole
    cases whole
    simp [Unconditional, predicate]
  | some p =>
    rw [predicate] at whole
    simp [Unconditional, predicate, Predicate.eq_none_iff_of_expression whole]

/-- A scan has neither a filter nor an expression just where the query has no condition. So with
scans switched off these queries are refused and no others, and they alone are explained as full
scans. -/
theorem full_scan_iff_unconditional (q : Query) (d : Directory) (config : Config) (e : Encoder)
    (scan : Scan)
    (h : q.compile d config e = .ok (.query scan) ∨ q.withoutIndex config e = .ok scan) :
    (scan.indexFilter = none ∧ scan.expression = none ↔ q.Unconditional) ∧
    (∀ c : Config, c.scansEnabled = false →
      (scan.guard c = .error (.scanDisabled q.ns q.set) ↔ q.Unconditional) ∧
      (scan.guard c = .ok () ↔ ¬q.Unconditional)) ∧
    ∃ a, Explanation.ofPlan (.query scan) = .accepted a ∧
      (a.accessPath = .fullScan ↔ q.Unconditional) := by
  have reads : q.Reads scan := h.elim reads_of_compile reads_of_withoutIndex
  refine ⟨?_, fun c disabled => ⟨?_, ?_⟩, _, rfl, ?_⟩
  · rw [← reads.isFull_iff, Scan.isFull_iff]
  · rw [← reads.isFull_iff, ← reads.ns, ← reads.set, Scan.guard_eq_error_iff disabled]
  · rw [← reads.isFull_iff, Scan.guard_eq_ok_iff disabled]
  · exact Scan.accessPath_eq_fullScan_iff.trans reads.isFull_iff

theorem full_scan_iff_unconditional_of_empty_nodes :
    let off : Config := { scansEnabled := false }
    let d := Catalog.directory ⟨[.onBin .numeric "ns" "" "age"]⟩
    let indexed : Query :=
      { ns := "ns", predicate := some (.and [.or [], .and [.compare .eq "age" (.int 30)]]) }
    let empty : Query := { ns := "ns", predicate := some (.and [.or [], .and [.and []]]) }
    (∃ scan, indexed.compile d off .json = .ok (.query scan) ∧ scan.expression = none ∧
      scan.guard off = .ok ()) ∧
    ∃ scan, empty.withoutIndex off .json = .ok scan ∧
      scan.guard off = .error (.scanDisabled "ns" "") := by
  intro off d indexed empty
  constructor
  · obtain ⟨scan, compiled, nothing⟩ : ∃ scan, indexed.compile d off .json = .ok (.query scan) ∧
        scan.expression = none := ⟨_, rfl, rfl⟩
    have conditional : ¬indexed.Unconditional := fun h => nomatch h _ rfl
    obtain ⟨-, guarded, -⟩ := full_scan_iff_unconditional indexed d off .json scan (.inl compiled)
    exact ⟨scan, compiled, nothing, (guarded off rfl).2.2 conditional⟩
  · obtain ⟨scan, compiled⟩ : ∃ scan, empty.withoutIndex off .json = .ok scan := ⟨_, rfl⟩
    have unconditional : empty.Unconditional := by
      rintro p ⟨⟩
      rfl
    obtain ⟨-, guarded, -⟩ := full_scan_iff_unconditional empty d off .json scan (.inr compiled)
    exact ⟨scan, compiled, (guarded off rfl).1.2 unconditional⟩

end Query

end StoreQuery
