import StoreQuery.Proofs.Plan.Conjuncts

/-!
A leaf taken out of a predicate, and what is left, together say what the whole predicate says. This
holds of a leaf on its own, is kept by every AND around it, and so holds of all leaves within reach.
-/

namespace StoreQuery.Predicate

variable {e : Encoder}

theorem mem_leavesOf {ps : List Predicate} {l : Leaf} :
    l ∈ leavesOf ps ↔ ∃ p ∈ ps, l ∈ p.leaves := by
  rw [leavesOf_eq_flatMap, List.mem_flatMap]

/-- The whole has an expression when both parts have one, and then it is not left out; a record
passes it when it passes both. -/
structure Splits (e : Encoder) (p : Predicate) (l : Leaf) (rest : Option Predicate) : Prop where
  mem_leaves : l ∈ p.leaves
  ok_iff : (∃ x, p.expression e = .ok x) ↔
    (∃ y, l.expression e = .ok y) ∧ ∃ z, residualExpression e rest = .ok z
  ne_none : ∀ {x}, p.expression e = .ok x → x ≠ none
  passes_iff : ∀ {r : Record} {x y z}, p.expression e = .ok x → l.expression e = .ok y →
    residualExpression e rest = .ok z → (r.Passes x ↔ y.evaluate r = .holds ∧ r.Passes z)

theorem splits_leaf (l : Leaf) : Splits e (leaf l) l none where
  mem_leaves := List.mem_singleton.2 rfl
  ok_iff := by
    simp only [expression_leaf_eq_ok_iff, residualExpression]
    constructor
    · rintro ⟨_, y, h, rfl⟩
      exact ⟨⟨y, h⟩, none, rfl⟩
    · rintro ⟨⟨y, h⟩, _⟩
      exact ⟨some y, y, h, rfl⟩
  ne_none := by
    intro x whole
    obtain ⟨y, -, rfl⟩ := expression_leaf_eq_ok_iff.1 whole
    exact Option.some_ne_none y
  passes_iff := by
    intro r x y z whole own left
    obtain ⟨y', own', rfl⟩ := expression_leaf_eq_ok_iff.1 whole
    obtain rfl : y = y' := Except.ok.inj (own.symm.trans own')
    obtain rfl : none = z := Except.ok.inj left
    simp

variable {p : Predicate} {l : Leaf} {rest : Option Predicate} {s : Settings}

theorem Splits.node (h : Splits e p l rest) (before after : List Predicate) :
    Splits e (.node .and (before ++ p :: after) s) l
      (rebuild .and s (before ++ (rest.toList ++ after))) where
  mem_leaves := mem_leavesOf.2 ⟨p, by simp, h.mem_leaves⟩
  -- The members beside the split one are the same in the whole and in what is left.
  ok_iff := by
    simp only [residualExpression_rebuild, expression_node_eq_ok_iff,
      expressionsOf_append_eq_ok_iff, expressionsOf_cons_eq_ok_iff, expressionsOf_toList_eq_ok_iff]
    constructor
    · rintro ⟨_, _, ⟨bs, _, hb, ⟨x, as, hp, ha, rfl⟩, rfl⟩, rfl⟩
      obtain ⟨own, z, hz⟩ := h.ok_iff.1 ⟨x, hp⟩
      exact ⟨own, _, _, ⟨bs, _, hb, ⟨_, as, ⟨z, hz, rfl⟩, ha, rfl⟩, rfl⟩, rfl⟩
    · rintro ⟨own, _, _, ⟨bs, _, hb, ⟨_, as, ⟨z, hz, rfl⟩, ha, rfl⟩, rfl⟩, rfl⟩
      obtain ⟨x, hp⟩ := h.ok_iff.2 ⟨own, z, hz⟩
      exact ⟨_, _, ⟨bs, _, hb, ⟨x, as, hp, ha, rfl⟩, rfl⟩, rfl⟩
  ne_none := by
    intro x whole
    obtain ⟨xs, members, rfl⟩ := expression_node_eq_ok_iff.1 whole
    obtain ⟨bs, _, -, tail, rfl⟩ := expressionsOf_append_eq_ok_iff.1 members
    obtain ⟨x, as, hp, -, rfl⟩ := expressionsOf_cons_eq_ok_iff.1 tail
    obtain ⟨y, rfl⟩ := Option.ne_none_iff_exists'.1 (h.ne_none hp)
    simp
  passes_iff := by
    intro r x y z whole own left
    rw [residualExpression_rebuild] at left
    obtain ⟨xs, members, -⟩ := expression_node_eq_ok_iff.1 whole
    obtain ⟨zs, leftMembers, -⟩ := expression_node_eq_ok_iff.1 left
    rw [passes_and_iff members whole, passes_and_iff leftMembers left]
    obtain ⟨bs, _, hb, tail, rfl⟩ := expressionsOf_append_eq_ok_iff.1 members
    obtain ⟨bs', _, hb', leftTail, rfl⟩ := expressionsOf_append_eq_ok_iff.1 leftMembers
    obtain ⟨x, as, hp, ha, rfl⟩ := expressionsOf_cons_eq_ok_iff.1 tail
    obtain ⟨_, as', hrest, ha', rfl⟩ := expressionsOf_append_eq_ok_iff.1 leftTail
    obtain ⟨z, hz, rfl⟩ := expressionsOf_toList_eq_ok_iff.1 hrest
    obtain rfl : bs = bs' := Except.ok.inj (hb.symm.trans hb')
    obtain rfl : as = as' := Except.ok.inj (ha.symm.trans ha')
    have inner := h.passes_iff (r := r) hp own hz
    simp only [List.mem_append, or_imp, forall_and, Option.mem_toList]
    simp only [Record.Passes, Option.mem_def] at inner
    rw [inner]
    tauto

theorem splits_of_mem_conjuncts {slot : Slot} {children : List Predicate}
    (h : (slot, l) ∈ conjuncts children) :
    Splits e (.node .and children s) l (without .and children s [slot]) := by
  obtain ⟨i, rfl, child⟩ | ⟨i, j, inner, t, rfl, child, grandchild⟩ := mem_conjuncts_cases h
  · obtain ⟨before, after, rfl, rfl⟩ := List.exists_append_of_mem_zipIdx child
    rw [without_child]
    exact (splits_leaf l).node before after
  · obtain ⟨before, after, rfl, rfl⟩ := List.exists_append_of_mem_zipIdx child
    obtain ⟨first, last, rfl, rfl⟩ := List.exists_append_of_mem_zipIdx grandchild
    rw [without_nested]
    exact ((splits_leaf l).node first last).node before after

end StoreQuery.Predicate
