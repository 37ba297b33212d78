import StoreQuery.Proofs.Plan.Meaning
import StoreQuery.Proofs.Predicate.Value

namespace StoreQuery

namespace Predicate

/-- One rearrangement somewhere in a tree: children change places, or a node gives its children to a
parent of its own kind. -/
inductive Move : Predicate → Predicate → Prop
  | permute {kind s ps qs} (h : List.Perm ps qs) : Move (.node kind ps s) (.node kind qs s)
  | splice {kind s t} (before inner after : List Predicate) :
    Move (.node kind (before ++ .node kind inner t :: after) s)
      (.node kind (before ++ (inner ++ after)) s)
  | inside {kind s p q} (before after : List Predicate) (h : Move p q) :
    Move (.node kind (before ++ p :: after) s) (.node kind (before ++ q :: after) s)

/-- Rearrangements after each other, forwards and backwards: children spliced into a parent may as
well be wrapped. -/
def Rearranged : Predicate → Predicate → Prop := Relation.EqvGen Move

variable {p q : Predicate}

theorem Move.leaves_perm (h : Move p q) : p.leaves.Perm q.leaves := by
  induction h with
  | permute h =>
    simp only [leaves, leavesOf_eq_flatMap]
    exact h.flatMap_right leaves
  | splice before inner after => simp [leaves, leavesOf_eq_flatMap]
  | inside before after h ih =>
    simp only [leaves, leavesOf_eq_flatMap, List.flatMap_append, List.flatMap_cons]
    exact (ih.append_right _).append_left _

theorem Move.value_eq (v : Leaf → Truth) (h : Move p q) : p.value v = q.value v := by
  induction h with
  | permute h =>
    rw [value, value, values_eq_flatMap, values_eq_flatMap]
    exact Connective.total_perm _ (h.flatMap_right _)
  | splice before inner after =>
    simp only [value, values, values_append]
    exact Connective.total_splice ..
  | inside before after h ih => simp only [value, values, values_append, ih]

namespace Rearranged

theorem leaves_perm (h : Rearranged p q) : p.leaves.Perm q.leaves := by
  induction h with
  | rel p q move => exact move.leaves_perm
  | refl p => exact .refl p.leaves
  | symm p q _ ih => exact ih.symm
  | trans p q s _ _ ih ih' => exact ih.trans ih'

theorem value_eq (v : Leaf → Truth) (h : Rearranged p q) : p.value v = q.value v := by
  induction h with
  | rel p q move => exact move.value_eq v
  | refl p => rfl
  | symm p q _ ih => exact ih.symm
  | trans p q s _ _ ih ih' => exact ih.trans ih'

theorem passes_iff {e : Encoder} {r : Record} {x y : Option Expr} (h : Rearranged p q)
    (hp : p.expression e = .ok x) (hq : q.expression e = .ok y) : r.Passes x ↔ r.Passes y := by
  rw [passes_iff_value hp, passes_iff_value hq, h.value_eq]

theorem forall_leaves {P : Leaf → Prop} (h : Rearranged p q) (all : ∀ l ∈ p.leaves, P l) :
    ∀ l ∈ q.leaves, P l :=
  fun l mem => all l (h.leaves_perm.mem_iff.2 mem)

end Rearranged

end Predicate

namespace Plan

def Admits (read : RegionReader) : Plan → Record → Prop
  | .keys lookup, r => r.HasKeyAmong lookup.keys ∧ r.Passes lookup.expression
  | .query scan, r => scan.Admits read r

def Int64Only : Plan → Record → Prop
  | .keys _, _ => True
  | .query scan, r => ∀ f ∈ scan.indexFilter, f.Int64Only r

end Plan

namespace Query

variable {q : Query} {d : Directory} {config : Config} {e : Encoder} {read : RegionReader}
  {p : Predicate} {plan : Plan}

theorem admits_iff_of_compile (predicate : q.predicate = some p) (nonNull : p.NoNullId)
    (readsBack : p.ReadsBack read) (compiled : q.compile d config e = .ok plan) :
    ∃ whole, p.expression e = .ok whole ∧
      ∀ r, plan.Int64Only r → (plan.Admits read r ↔ r.Passes whole) := by
  cases keys : p.keySplit with
  | error err =>
    simp only [compile, predicate, keys] at compiled
    cases compiled
  | ok split =>
    cases split with
    | none =>
      obtain ⟨selection, x, selected, left, rfl⟩ := query_of_compile predicate keys compiled
      obtain ⟨whole, ok⟩ := expression_ok_of_selection selected left
      exact ⟨whole, ok, meaning_of_selection selected readsBack left ok⟩
    | some split =>
      simp only [compile, predicate, keys, Except.ok_bind] at compiled
      obtain ⟨x, left, rfl⟩ := Except.bind_pure_eq_ok_iff.1 compiled
      obtain ⟨whole, ok, passes_iff⟩ := Predicate.passes_iff_of_keySplit nonNull keys left
      exact ⟨whole, ok, fun r _ => passes_iff r⟩

/-- Plans for rearranged predicates admit the same records, even if one reads keys and the other an
index. -/
theorem rearranged_plans_admit_same {q₁ q₂ : Query} {p₁ p₂ : Predicate} {d₁ d₂ : Directory}
    {config₁ config₂ : Config} (e : Encoder) (read : RegionReader) {plan₁ plan₂ : Plan}
    (predicate₁ : q₁.predicate = some p₁) (predicate₂ : q₂.predicate = some p₂)
    (rearranged : p₁.Rearranged p₂) (nonNull : p₁.NoNullId) (readsBack : p₁.ReadsBack read)
    (compiled₁ : q₁.compile d₁ config₁ e = .ok plan₁)
    (compiled₂ : q₂.compile d₂ config₂ e = .ok plan₂) (r : Record) (int64Only₁ : plan₁.Int64Only r)
    (int64Only₂ : plan₂.Int64Only r) : plan₁.Admits read r ↔ plan₂.Admits read r := by
  obtain ⟨x, whole₁, admits₁⟩ := admits_iff_of_compile predicate₁ nonNull readsBack compiled₁
  obtain ⟨y, whole₂, admits₂⟩ := admits_iff_of_compile predicate₂
    (rearranged.forall_leaves nonNull) (rearranged.forall_leaves readsBack) compiled₂
  rw [admits₁ r int64Only₁, admits₂ r int64Only₂, rearranged.passes_iff whole₁ whole₂]

theorem rearranged_plans_admit_same_of_nested_key :
    let key : Predicate := .id (.str "k")
    let age : Predicate := .compare .eq "age" (.int 30)
    let near : Predicate := .and [age, .and [key]]
    let far : Predicate := .and [.and [.and [key]], age]
    let d := Catalog.directory ⟨[.onBin .numeric "ns" "" "age"]⟩
    let query (p : Predicate) : Query := { ns := "ns", predicate := some p }
    near.Rearranged far ∧ ∃ lookup scan, (query near).compile d {} .json = .ok (.keys lookup) ∧
      (query far).compile d {} .json = .ok (.query scan) ∧
      scan.indexFilter = some { bin := "age", kind := .equal (.int 30) } ∧
      ∀ r, (Plan.keys lookup).Admits Json.ofText? r ↔ (Plan.query scan).Admits Json.ofText? r := by
  intro key age near far d query
  have swapped : Predicate.Move near (.and [.and [key], age]) := .permute (.swap ..)
  have spliced : Predicate.Move far (.and [.and [key], age]) :=
    .inside [] [age] (.splice [] [key] [])
  have rearranged : near.Rearranged far :=
    .trans _ _ _ (.rel _ _ swapped) (.symm _ _ (.rel _ _ spliced))
  have leaves : near.leaves = [.onBin "age" (.scalar (.compare .eq)) (.int 30),
    { target := .id (.one (.str "k")), op := .scalar (.compare .eq) }] := rfl
  have nonNull : near.NoNullId := by
    simp [Predicate.NoNullId, leaves, Leaf.onBin, Ids.keys]
  have readsBack : near.ReadsBack Json.ofText? := by
    simp [Predicate.ReadsBack, Leaf.ReadsBack, leaves, Leaf.onBin]
  obtain ⟨lookup, looksUp⟩ : ∃ lookup, (query near).compile d {} .json = .ok (.keys lookup) :=
    ⟨_, rfl⟩
  obtain ⟨scan, scans, filter⟩ : ∃ scan, (query far).compile d {} .json = .ok (.query scan) ∧
      scan.indexFilter = some { bin := "age", kind := .equal (.int 30) } := ⟨_, rfl, rfl⟩
  refine ⟨rearranged, lookup, scan, looksUp, scans, filter, fun r => ?_⟩
  have int64Only : (Plan.query scan).Int64Only r := by
    intro f isFilter
    obtain rfl := Option.some.inj (filter.symm.trans isFilter)
    exact fun notWhole => absurd rfl notWhole
  exact rearranged_plans_admit_same .json Json.ofText? rfl rfl rearranged nonNull readsBack looksUp
    scans r trivial int64Only

end Query

end StoreQuery
