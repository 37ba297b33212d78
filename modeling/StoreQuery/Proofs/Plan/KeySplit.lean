import StoreQuery.Proofs.Json.Integer
import StoreQuery.Proofs.Plan.Split

namespace StoreQuery

/-- The record is stored with a key of the same type as one of the keys, and equal to it. -/
def Record.HasKeyAmong (r : Record) (keys : List Json) : Prop :=
  ∃ own, r.key = some own ∧
    ∃ key ∈ keys, ValueType.of? own = ValueType.of? key ∧ own.equal key

namespace Leaf

theorem id?_eq_some_iff {l : Leaf} {ids : Ids} : l.id? = some ids ↔ l.target = .id ids := by
  cases h : l.target <;> simp [id?, h]

theorem expression_of_id {l : Leaf} {e : Encoder} {ids : Ids} (h : l.id? = some ids) :
    l.expression e = l.idExpression ids := by
  rw [expression, id?_eq_some_iff.1 h]

variable {l : Leaf} {r : Record}

theorem keyCheck_eq_ok_iff {key : Json} {x : Expr} :
    l.keyCheck key = .ok x ↔
      ∃ ty, ValueType.of? key = some ty ∧ x = .compare .eq (.key ty) (.literal key) := by
  rw [keyCheck, requireType]
  cases ValueType.of? key <;> simp [eq_comm]

theorem evaluate_keyCheck_eq_holds_iff {key : Json} {x : Expr} (h : l.keyCheck key = .ok x) :
    x.evaluate r = .holds ↔ r.HasKeyAmong [key] := by
  obtain ⟨ty, hty, rfl⟩ := keyCheck_eq_ok_iff.1 h
  rw [Expr.evaluate_compare_literal_eq_holds_iff]
  simp only [Operand.resolve, Option.bind_eq_bind, Option.bind_eq_some_iff,
    ValueType.read?_eq_some_iff hty, Comparison.evaluate_eq_holds_iff, Record.HasKeyAmong,
    List.mem_singleton, exists_eq_left, hty]
  grind

theorem mapM_keyCheck_ok {keys : List Json} (nonNull : ∀ key ∈ keys, key ≠ .null) :
    ∃ xs, keys.mapM l.keyCheck = .ok xs := by
  induction keys with
  | nil => exact ⟨[], rfl⟩
  | cons key rest ih =>
    obtain ⟨ty, hty⟩ := ValueType.of?_isSome_iff.2 (nonNull key List.mem_cons_self)
    obtain ⟨xs, hxs⟩ := ih fun key h => nonNull key (List.mem_cons_of_mem _ h)
    simp [List.mapM_cons, keyCheck_eq_ok_iff.2 ⟨ty, hty, rfl⟩, hxs]

theorem exists_holds_mapM_keyCheck_iff {keys : List Json} {xs : List Expr}
    (h : keys.mapM l.keyCheck = .ok xs) :
    (∃ x ∈ xs, x.evaluate r = .holds) ↔ r.HasKeyAmong keys := by
  induction keys generalizing xs with
  | nil =>
    obtain rfl : [] = xs := Except.ok.inj h
    simp [Record.HasKeyAmong]
  | cons key rest ih =>
    simp only [List.mapM_cons, Except.bind_eq_ok_iff, Except.pure_eq_ok, Except.ok.injEq] at h
    obtain ⟨x, hx, xs, hxs, rfl⟩ := h
    rw [List.exists_mem_cons_iff, ih hxs, evaluate_keyCheck_eq_holds_iff hx]
    simp only [Record.HasKeyAmong, List.mem_cons]
    grind

theorem idExpression_ok {ids : Ids} (nonNull : ∀ key ∈ ids.keys, key ≠ .null) :
    ∃ x, l.idExpression ids = .ok x := by
  obtain ⟨xs, h⟩ := mapM_keyCheck_ok (l := l) nonNull
  cases ids with
  | one key =>
    obtain ⟨ty, hty⟩ := ValueType.of?_isSome_iff.2 (nonNull key List.mem_cons_self)
    simp [idExpression, keyCheck_eq_ok_iff.2 ⟨ty, hty, rfl⟩]
  | many keys =>
    change keys.mapM l.keyCheck = .ok xs at h
    simp [idExpression, h]

theorem evaluate_idExpression_eq_holds_iff {ids : Ids} {x : Expr}
    (h : l.idExpression ids = .ok x) : x.evaluate r = .holds ↔ r.HasKeyAmong ids.keys := by
  cases ids with
  | one key =>
    obtain ⟨y, hy, rfl⟩ := Except.bind_pure_eq_ok_iff.1 h
    exact evaluate_keyCheck_eq_holds_iff hy
  | many keys =>
    obtain ⟨ys, hys, rfl⟩ := Except.bind_pure_eq_ok_iff.1 h
    rw [Expr.evaluate_anyOf_eq_holds_iff]
    exact exists_holds_mapM_keyCheck_iff hys

end Leaf

namespace Predicate

def idCount (children : List Predicate) : Nat := (withinReach children).countP (·.id?.isSome)

def NoNullId (p : Predicate) : Prop :=
  ∀ l ∈ p.leaves, ∀ ids, l.target = .id ids → ∀ key ∈ ids.keys, key ≠ .null

theorem length_idConjuncts (children : List Predicate) :
    (idConjuncts children).length = idCount children := by
  rw [idConjuncts, List.length_filterMap_eq_countP, idCount, ← conjuncts_map_snd, List.countP_map]
  congr 1
  funext ⟨slot, l⟩
  simp

theorem keySplit_eq_error_iff {p : Predicate} {err : QueryError} :
    p.keySplit = .error err ↔ ∃ children s, p = .node .and children s ∧ 2 ≤ idCount children ∧
      err = .multipleIdQualifiers (idCount children) := by
  match p with
  | .leaf l => simp [keySplit]
  | .node .or children s => simp [keySplit]
  | .node .and children s =>
    rw [keySplit]
    cases h : idConjuncts children with
    | nil => simp [← length_idConjuncts, h]
    | cons a rest => cases rest <;> simp [← length_idConjuncts, h, eq_comm]

theorem keySplit_eq_none_iff {p : Predicate} :
    p.keySplit = .ok none ↔ (∃ l, p = .leaf l ∧ l.id? = none) ∨
      (∃ children s, p = .node .or children s) ∨
        ∃ children s, p = .node .and children s ∧ idCount children = 0 := by
  match p with
  | .leaf l => simp [keySplit]
  | .node .or children s => simp [keySplit]
  | .node .and children s =>
    rw [keySplit]
    cases h : idConjuncts children with
    | nil => simp [← length_idConjuncts, h]
    | cons a rest => cases rest <;> simp [← length_idConjuncts, h]

theorem splits_of_keySplit {p : Predicate} {split : KeySplit} (e : Encoder)
    (h : p.keySplit = .ok (some split)) :
    ∃ l ids, l.id? = some ids ∧ split.keys = ids.keys ∧ Splits e p l split.rest := by
  match p with
  | .node .or children s => cases h
  | .leaf l =>
    obtain ⟨ids, hl, rfl⟩ := Option.map_eq_some_iff.1 (Except.ok.inj h)
    exact ⟨l, ids, hl, rfl, splits_leaf l⟩
  | .node .and children s =>
    rw [keySplit] at h
    split at h
    · cases h
    · rename_i slot keys only
      cases h
      have found : (slot, keys) ∈ idConjuncts children := only ▸ List.mem_singleton.2 rfl
      obtain ⟨⟨slot, l⟩, within, eq⟩ := List.mem_filterMap.1 found
      obtain ⟨ids, hl, eq⟩ := Option.map_eq_some_iff.1 eq
      obtain ⟨rfl, rfl⟩ := Prod.mk.inj eq
      exact ⟨l, ids, hl, rfl, splits_of_mem_conjuncts within⟩
    · cases h

theorem passes_iff_of_keySplit {p : Predicate} {e : Encoder} {split : KeySplit} {x : Option Expr}
    (nonNull : p.NoNullId) (h : p.keySplit = .ok (some split))
    (left : residualExpression e split.rest = .ok x) :
    ∃ whole, p.expression e = .ok whole ∧
      ∀ r : Record, r.HasKeyAmong split.keys ∧ r.Passes x ↔ r.Passes whole := by
  obtain ⟨l, ids, isId, keys, splits⟩ := splits_of_keySplit e h
  obtain ⟨y, own⟩ := Leaf.idExpression_ok (l := l)
    (nonNull l splits.mem_leaves ids (Leaf.id?_eq_some_iff.1 isId))
  have ownLeaf : l.expression e = .ok y := (Leaf.expression_of_id isId).trans own
  obtain ⟨whole, compiled⟩ := splits.ok_iff.2 ⟨⟨y, ownLeaf⟩, x, left⟩
  refine ⟨whole, compiled, fun r => ?_⟩
  rw [splits.passes_iff compiled ownLeaf left, keys, Leaf.evaluate_idExpression_eq_holds_iff own]

/-- Two conditions on the record key within reach of an AND are refused, with their number; keys are
split off where there is just one; and then the keys and the rest find what the predicate finds. -/
theorem keySplit_meaning (p : Predicate) (e : Encoder) (nonNull : p.NoNullId) :
    (∀ err, p.keySplit = .error err ↔ ∃ children s, p = .node .and children s ∧
      2 ≤ idCount children ∧ err = .multipleIdQualifiers (idCount children)) ∧
    (p.keySplit = .ok none ↔ (∃ l, p = .leaf l ∧ l.id? = none) ∨
      (∃ children s, p = .node .or children s) ∨
        ∃ children s, p = .node .and children s ∧ idCount children = 0) ∧
    ∀ split, p.keySplit = .ok (some split) →
      ((∃ x, residualExpression e split.rest = .ok x) ↔ ∃ y, p.expression e = .ok y) ∧
      ∀ x y, residualExpression e split.rest = .ok x → p.expression e = .ok y →
        ∃ z, y = some z ∧
          ∀ r : Record, z.evaluate r = .holds ↔ r.HasKeyAmong split.keys ∧ r.Passes x := by
  refine ⟨fun err => keySplit_eq_error_iff, keySplit_eq_none_iff, fun split h => ?_⟩
  obtain ⟨l, ids, hl, hkeys, splits⟩ := splits_of_keySplit e h
  have own : ∃ z, l.expression e = .ok z := by
    rw [Leaf.expression_of_id hl]
    exact Leaf.idExpression_ok (nonNull l splits.mem_leaves ids (Leaf.id?_eq_some_iff.1 hl))
  refine ⟨⟨fun left => splits.ok_iff.2 ⟨own, left⟩, fun whole => (splits.ok_iff.1 whole).2⟩, ?_⟩
  intro x y left whole
  obtain ⟨z, rfl⟩ := Option.ne_none_iff_exists'.1 (splits.ne_none whole)
  refine ⟨z, rfl, fun r => ?_⟩
  obtain ⟨w, own⟩ := own
  rw [← Record.passes_some, splits.passes_iff whole own left, hkeys]
  rw [Leaf.expression_of_id hl] at own
  rw [Leaf.evaluate_idExpression_eq_holds_iff own]

theorem keySplit_meaning_of_nested_key :
    let other : Predicate := .or [.id (.str "j"), .compare .eq "age" (.int 30)]
    let p : Predicate := .and [other, .and [.id (.str "k")]]
    p.NoNullId ∧ p.keySplit = .ok (some ⟨[.str "k"], some other⟩) ∧
      ∃ x z, other.expression .json = .ok x ∧ p.expression .json = .ok (some z) ∧
        ∀ r : Record, z.evaluate r = .holds ↔ r.HasKeyAmong [.str "k"] ∧ r.Passes x := by
  intro other p
  have nonNull : p.NoNullId := by
    simp [NoNullId, p, other, leaves, leavesOf, Predicate.and, Predicate.or, id, compare,
      Leaf.onBin, Ids.keys]
  have split : p.keySplit = .ok (some ⟨[.str "k"], some other⟩) := rfl
  obtain ⟨x, left⟩ : ∃ x, other.expression .json = .ok x := ⟨_, rfl⟩
  obtain ⟨ok_iff, meaning⟩ := (keySplit_meaning p .json nonNull).2.2 _ split
  obtain ⟨y, whole⟩ := ok_iff.1 ⟨x, left⟩
  obtain ⟨z, rfl, holds_iff⟩ := meaning x y left whole
  exact ⟨nonNull, split, x, z, left, whole, holds_iff⟩

end Predicate

end StoreQuery
