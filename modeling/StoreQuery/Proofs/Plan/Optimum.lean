import StoreQuery.Plan.Selection

namespace StoreQuery

/-- Place `k` holds a member of known cost, no other is cheaper and none before it is as cheap; or
it is the first place and no cost is known. -/
def FirstOptimum (HasCost : α → Option UInt64 → Prop) (as : List α) (k : Nat) : Prop :=
  (∃ a c, as[k]? = some a ∧ HasCost a (some c) ∧
    (∀ b ∈ as, ∀ d, HasCost b (some d) → c ≤ d) ∧
      ∀ b ∈ as.take k, ∀ d, HasCost b (some d) → c < d) ∨
  k = 0 ∧ as ≠ [] ∧ ∀ a ∈ as, HasCost a none

namespace FirstOptimum

theorem map {HasCost : β → Option UInt64 → Prop} {f : α → β} {as : List α} {k : Nat}
    (h : FirstOptimum (fun a => HasCost (f a)) as k) : FirstOptimum HasCost (as.map f) k := by
  obtain ⟨a, c, at_k, known, least, first⟩ | ⟨rfl, nonempty, unknown⟩ := h
  · refine .inl ⟨f a, c, by simp [at_k], known, ?_, ?_⟩
    · simpa using least
    · simpa [← List.map_take] using first
  · exact .inr ⟨rfl, by simpa using nonempty, by simpa using unknown⟩

variable {cost : α → Option UInt64} {as : List α} {j k : Nat}

theorem singleton (a : α) : FirstOptimum (cost · = ·) [a] 0 := by
  cases h : cost a with
  | none => exact .inr ⟨rfl, List.cons_ne_nil a [], by simp [h]⟩
  | some c => exact .inl ⟨a, c, rfl, h, by simp [h], by simp⟩

theorem not_lt (hj : FirstOptimum (cost · = ·) as j) (hk : FirstOptimum (cost · = ·) as k) :
    ¬j < k := by
  intro lt
  obtain ⟨b, d, at_k, costB, -, firstB⟩ | ⟨rfl, -⟩ := hk
  · obtain ⟨a, c, at_j, costA, leastA, -⟩ | ⟨rfl, -, unknown⟩ := hj
    · have before : a ∈ as.take k :=
        List.mem_of_getElem? ((List.getElem?_take_of_lt lt).trans at_j)
      have le := leastA b (List.mem_of_getElem? at_k) d costB
      exact UInt64.not_lt.2 le (firstB a before c costA)
    · rw [unknown b (List.mem_of_getElem? at_k)] at costB
      cases costB
  · exact Nat.not_lt_zero j lt

theorem unique (hj : FirstOptimum (cost · = ·) as j) (hk : FirstOptimum (cost · = ·) as k) :
    j = k :=
  Nat.le_antisymm (Nat.not_lt.1 (not_lt hk hj)) (Nat.not_lt.1 (not_lt hj hk))

end FirstOptimum

namespace Scope

variable {cost : α → Option UInt64} {as : List α}

theorem cheapest_eq_none_iff : cheapest cost as = none ↔ ∀ a ∈ as, cost a = none := by
  induction as with
  | nil => simp [cheapest]
  | cons a rest ih =>
    rw [cheapest, List.forall_mem_cons, ← ih]
    cases cost a with
    | none => simp
    | some c =>
      cases cheapest cost rest with
      | none => simp
      | some best =>
        simp only [reduceCtorEq, false_and, iff_false]
        split <;> simp

theorem firstOptimum_of_cheapest {a : α} {c : UInt64} (h : cheapest cost as = some (a, c)) :
    ∃ k, as[k]? = some a ∧ cost a = some c ∧ (∀ b ∈ as, ∀ d, cost b = some d → c ≤ d) ∧
      ∀ b ∈ as.take k, ∀ d, cost b = some d → c < d := by
  induction as generalizing a c with
  | nil => cases h
  | cons b rest ih =>
    rw [cheapest] at h
    cases hb : cost b with
    | none =>
      rw [hb] at h
      obtain ⟨k, at_k, known, least, first⟩ := ih h
      exact ⟨k + 1, at_k, known, by simpa [hb] using least, by simpa [hb] using first⟩
    | some d =>
      rw [hb] at h
      cases hr : cheapest cost rest with
      | none =>
        rw [hr] at h
        obtain ⟨rfl, rfl⟩ := Prod.mk.inj (Option.some.inj h)
        have unknown := cheapest_eq_none_iff.1 hr
        refine ⟨0, rfl, hb, ?_, by simp⟩
        simp +contextual [hb, unknown]
      | some best =>
        obtain ⟨a', c'⟩ := best
        obtain ⟨k, at_k, known, least, first⟩ := ih hr
        simp only [hr] at h
        split at h
        · -- Of two members of one cost the search keeps the earlier one.
          rename_i le
          obtain ⟨rfl, rfl⟩ := Prod.mk.inj (Option.some.inj h)
          refine ⟨0, rfl, hb, ?_, by simp⟩
          simpa [hb] using fun b' mem d' known' => UInt64.le_trans le (least b' mem d' known')
        · rename_i not_le
          obtain ⟨rfl, rfl⟩ := Prod.mk.inj (Option.some.inj h)
          have lt := UInt64.not_le.1 not_le
          refine ⟨k + 1, at_k, known, ?_, ?_⟩
          · simpa [hb, UInt64.le_of_lt lt] using least
          · simpa [hb, lt] using first

end Scope

end StoreQuery
