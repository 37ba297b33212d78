import Mathlib
import StoreQuery.Proofs.Plan.Failure

namespace StoreQuery

variable {read : RegionReader} {p : Predicate}

def Predicate.ReadsBack (read : RegionReader) (p : Predicate) : Prop :=
  ∀ l ∈ p.leaves, l.ReadsBack read

def Scan.Admits (read : RegionReader) (s : Scan) (r : Record) : Prop :=
  (∀ f ∈ s.indexFilter, f.Admits read r) ∧ r.Passes s.expression

/-- The filter of a leaf together with what is left of the predicate says what the predicate says;
where the leaf is checked again, it does so with the predicate itself. -/
theorem Predicate.Splits.meaning {e : Encoder} {l : Leaf} {rest : Option Predicate}
    {f : IndexFilter} {x whole : Option Expr} (splits : Splits e p l rest)
    (filter : l.indexFilter e = .ok (some f)) (readsBack : p.ReadsBack read)
    (left : residualExpression e (if l.op.isDual then some p else rest) = .ok x)
    (compiled : p.expression e = .ok whole) (r : Record) (int64Only : f.Int64Only r) :
    f.Admits read r ∧ r.Passes x ↔ r.Passes whole := by
  obtain ⟨y, own, answers⟩ := Leaf.answers_of_filter filter
  have found := answers read (readsBack l splits.mem_leaves)
  obtain ⟨-, z, restCompiled⟩ := splits.ok_iff.1 ⟨whole, compiled⟩
  have passes_iff := splits.passes_iff (r := r) compiled own restCompiled
  split at left
  · -- The whole predicate is checked again, so the filter only must not lose a record.
    obtain rfl := Except.ok.inj (left.symm.trans compiled)
    refine and_iff_right_of_imp fun passes => ?_
    exact found.finds_all r int64Only (passes_iff.1 passes).1
  · rename_i notDual
    obtain rfl := Except.ok.inj (left.symm.trans restCompiled)
    rw [passes_iff]
    exact and_congr_left fun _ =>
      ⟨found.finds_only notDual r int64Only, found.finds_all r int64Only⟩

theorem Scope.meaning_of_select {s : Scope} {selection : Selection} {x whole : Option Expr}
    (h : s.select p = .ok selection) (readsBack : p.ReadsBack read)
    (left : residualExpression s.encoder selection.residual = .ok x)
    (compiled : p.expression s.encoder = .ok whole) (r : Record)
    (int64Only : ∀ f ∈ selection.indexFilter, f.Int64Only r) :
    (∀ f ∈ selection.indexFilter, f.Admits read r) ∧ r.Passes x ↔ r.Passes whole := by
  obtain rfl | ⟨l, f, rest, filter, splits, rfl⟩ := eq_of_select h
  · obtain rfl := Except.ok.inj (left.symm.trans compiled)
    simp [Selection.unchanged]
  · simpa using (splits s.encoder).meaning filter readsBack left compiled r (int64Only f rfl)

namespace Query

theorem meaning_of_selection {q : Query} {d : Directory} {config : Config} {e : Encoder}
    {selection : Selection} {x whole : Option Expr} (h : q.selection d config e p = .ok selection)
    (readsBack : p.ReadsBack read) (left : residualExpression e selection.residual = .ok x)
    (compiled : p.expression e = .ok whole) (r : Record)
    (int64Only : ∀ f ∈ selection.indexFilter, f.Int64Only r) :
    (∀ f ∈ selection.indexFilter, f.Admits read r) ∧ r.Passes x ↔ r.Passes whole := by
  obtain unchanged | ⟨-, chosen⟩ := q.selection_cases d config e p
  · obtain rfl := Except.ok.inj (h.symm.trans unchanged)
    obtain rfl := Except.ok.inj (left.symm.trans compiled)
    simp [Selection.unchanged]
  · exact Scope.meaning_of_select (chosen ▸ h) readsBack left compiled r int64Only

/-- Where a query is compiled to a scan, the scan without an index is there for it too, and selects
the same records. -/
theorem compile_preserves_meaning (q : Query) (d : Directory) (config : Config) (e : Encoder)
    (read : RegionReader) (scan : Scan) (readsBack : ∀ p ∈ q.predicate, p.ReadsBack read)
    (compiled : q.compile d config e = .ok (.query scan)) :
    ∃ full, q.withoutIndex config e = .ok full ∧ full.ns = scan.ns ∧ full.set = scan.set ∧
      full.maxRecords = scan.maxRecords ∧ full.indexFilter = none ∧
      ∀ r, (∀ f ∈ scan.indexFilter, f.Int64Only r) →
        (scan.Admits read r ↔ r.Passes full.expression) := by
  cases predicate : q.predicate with
  | none =>
    simp only [compile, predicate] at compiled
    cases compiled
    refine ⟨_, by rw [withoutIndex, predicate]; rfl, rfl, rfl, rfl, rfl, fun r _ => ?_⟩
    simp [Scan.Admits]
  | some p =>
    have noKeys := keySplit_eq_none_of_compile predicate compiled
    obtain ⟨selection, x, selected, left, isQuery⟩ := query_of_compile predicate noKeys compiled
    cases isQuery
    obtain ⟨whole, compiled⟩ := expression_ok_of_selection selected left
    have meaning := meaning_of_selection selected (readsBack p predicate) left compiled
    refine ⟨⟨q.ns, q.set, none, whole, config.maxRecords q.maxRecords⟩, ?_, rfl, rfl, rfl, rfl,
      meaning⟩
    rw [withoutIndex, predicate, residualExpression, compiled, Except.ok_bind, Except.pure_eq_ok]

theorem compile_preserves_meaning_of_region :
    let region : Json := .obj [("coordinates", .arr [.arr [.int 0, .int 0], .int 5]),
      ("type", .str "AeroCircle")]
    let within : Leaf := .onBin "place" .geoWithin region
    let p : Predicate := .and [.leaf within, .compare .eq "name" (.str "a")]
    let q : Query := { ns := "ns", predicate := some p }
    let d := Catalog.directory ⟨[.onBin .geo2dSphere "ns" "" "place"]⟩
    let f : IndexFilter := { bin := "place", kind := .geoWithin region.toText }
    ∃ scan full, q.compile d {} .json = .ok (.query scan) ∧ scan.indexFilter = some f ∧
      q.withoutIndex {} .json = .ok full ∧
        ∀ r, scan.Admits Json.ofText? r ↔ r.Passes full.expression := by
  intro region within p q d f
  have reads : Json.ofText? region.toText = some region := by cbv
  have readsBack : ∀ p ∈ q.predicate, p.ReadsBack Json.ofText? := by
    rintro p ⟨⟩ l mem op other isRegion
    obtain rfl | rfl : l = within ∨ l = .onBin "name" (.scalar (.compare .eq)) (.str "a") := by
      simpa [p, Predicate.and, Predicate.compare, Predicate.leaves, Predicate.leavesOf] using mem
    · cases isRegion
      exact reads
    · cases op
  obtain ⟨scan, compiled, filter⟩ :
      ∃ scan, q.compile d {} .json = .ok (.query scan) ∧ scan.indexFilter = some f := ⟨_, rfl, rfl⟩
  obtain ⟨full, without, -, -, -, -, meaning⟩ :=
    compile_preserves_meaning q d {} .json Json.ofText? scan readsBack compiled
  refine ⟨scan, full, compiled, filter, without, fun r => meaning r fun g isFilter => ?_⟩
  obtain rfl : f = g := Option.some.inj (filter.symm.trans isFilter)
  exact fun notWhole => absurd rfl notWhole

end Query

end StoreQuery
