import StoreQuery.Proofs.Predicate.Valid
import StoreQuery.Wire.Text

namespace StoreQuery

open Except (Yields)
open Wire

theorem Leaf.ofJson_yields (v : Json) : (Leaf.ofJson v).Yields (·.validate = .ok ()) := by
  simp only [Leaf.ofJson]
  iterate 9
    apply Yields.bind
    intro _ _
  split
  · exact .ok ‹_›
  · exact .error _

namespace Predicate

mutual

theorem ofJson_yields : (v : Json) → (ofJson v).Yields Valid
  | .obj [(tag, body)] => by
    rw [ofJson]
    split
    · apply Yields.bind
      intro l read
      exact .ok (valid_leaf_iff.2 (Leaf.ofJson_yields body l read))
    split
    · exact nodeOfJson_yields body
    · exact .error _
  | .obj [] | .obj (_ :: _ :: _) | .null | .bool _ | .num _ | .str _ | .arr _ => .error _

theorem nodeOfJson_yields : (v : Json) → (nodeOfJson v).Yields Valid
  | .obj fs => by
    rw [nodeOfJson]
    split
    · exact .error _
    apply Yields.bind
    intro children read
    apply Yields.bind
    intro kind _
    apply Yields.bind
    intro settings _
    exact .ok (childrenIn_yields fs children read)
  | .arr (kind :: children :: rest) => by
    rw [nodeOfJson]
    apply Yields.bind
    intro kind _
    apply Yields.bind
    intro ps read
    have valid : ∀ l ∈ leavesOf ps, l.validate = .ok () := childrenOfJson_yields children ps read
    split
    · exact .ok valid
    · apply Yields.bind
      intro settings _
      exact .ok valid
    · exact .error _
  | .arr [] | .arr [_] | .null | .bool _ | .num _ | .str _ => .error _

theorem childrenIn_yields : (fs : List (String × Json)) →
    (childrenIn fs).Yields fun ps => ∀ l ∈ leavesOf ps, l.validate = .ok ()
  | [] => .error _
  | (name, v) :: rest => by
    rw [childrenIn]
    split
    · exact childrenOfJson_yields v
    · exact childrenIn_yields rest

theorem childrenOfJson_yields : (v : Json) →
    (childrenOfJson v).Yields fun ps => ∀ l ∈ leavesOf ps, l.validate = .ok ()
  | .arr items => itemsOfJson_yields items
  | .obj _ | .null | .bool _ | .num _ | .str _ => .error _

theorem itemsOfJson_yields : (items : List Json) →
    (itemsOfJson items).Yields fun ps => ∀ l ∈ leavesOf ps, l.validate = .ok ()
  | [] => .ok (by simp [leavesOf])
  | item :: rest => by
    rw [itemsOfJson]
    apply Yields.bind
    intro p read
    apply Yields.bind
    intro ps others
    refine .ok ?_
    rw [leavesOf, List.forall_mem_append]
    exact ⟨ofJson_yields item p read, itemsOfJson_yields rest ps others⟩

end

end Predicate

theorem Wire.Fields.optional_yields {read : Json → Read α} {P : α → Prop}
    (each : ∀ v, (read v).Yields P) (fs : Fields) (name : String) :
    (fs.optional name read).Yields fun a => ∀ x ∈ a, P x := by
  rw [optional]
  split
  · rename_i v _
    rw [option.eq_def]
    split
    · exact .ok nofun
    · apply Yields.bind
      intro x isRead
      refine .ok ?_
      rintro _ ⟨⟩
      exact each _ x isRead
  · exact .ok nofun

theorem Query.ofJson_yields (v : Json) :
    (Query.ofJson v).Yields fun q => ∀ p ∈ q.predicate, p.Valid := by
  have predicate (fs : Fields) := fs.optional_yields Predicate.ofJson_yields "predicate"
  rw [Query.ofJson.eq_def]
  split
  · apply Yields.bind
    intro ns _
    apply Yields.bind
    intro set _
    apply Yields.bind
    intro p valid
    apply Yields.bind
    intro maxRecords _
    split
    · exact .error _
    · exact .ok (predicate _ p valid)
  · apply Yields.bind
    intro fs _
    apply Yields.bind
    intro maxRecords _
    apply Yields.bind
    intro _ _
    apply Yields.bind
    intro p valid
    apply Yields.bind
    intro set _
    apply Yields.bind
    intro ns _
    exact .ok (predicate fs p valid)

section MapValues

variable (f : Json → Json)

theorem Leaf.operand_mapValues (l : Leaf) (role : Role) :
    (l.mapValues f).operand role = (l.operand role).map f := by
  cases role <;> cases keyed : l.op.isKeyed <;>
    simp [operand, key, value, upper, mapValues, keyed]

theorem Leaf.Misses.of_mapValues {l : Leaf} {role : Role} (h : (l.mapValues f).Misses role) :
    l.Misses role where
  noId := by
    have noId := h.noId
    simp only [id?, mapValues] at noId ⊢
    cases target : l.target <;> simp_all [Target.mapValues]
  needed := h.needed
  absent := by simpa [operand_mapValues] using h.absent

theorem Leaf.WellFormed.mapValues {l : Leaf} (h : l.WellFormed) : (l.mapValues f).WellFormed where
  target := by
    have takes := h.target
    simp only [Leaf.mapValues]
    generalize l.target = target, l.op = op at takes ⊢
    cases takes with
    | field named op => exact .field named op
    | metadata field applies => exact .metadata field applies
    | key key => exact .key (f key)
    | keys keys => exact .keys (keys.map f)
  operands role misses := h.operands role (misses.of_mapValues f)
  path := h.path.imp_left fun empty => by simp [Leaf.mapValues, empty]

mutual

theorem Predicate.leaves_mapValues : (p : Predicate) →
    (p.mapValues f).leaves = p.leaves.map (Leaf.mapValues f)
  | .leaf _ => rfl
  | .node _ children _ => leavesOf_itemsMapValues children

theorem Predicate.leavesOf_itemsMapValues : (ps : List Predicate) →
    Predicate.leavesOf (Predicate.itemsMapValues f ps) =
      (Predicate.leavesOf ps).map (Leaf.mapValues f)
  | [] => rfl
  | p :: rest => by
    rw [Predicate.itemsMapValues, Predicate.leavesOf, Predicate.leavesOf, List.map_append,
      leaves_mapValues p, leavesOf_itemsMapValues rest]

end

theorem Predicate.Valid.mapValues {p : Predicate} (h : p.Valid) : (p.mapValues f).Valid := by
  rw [Valid, leaves_mapValues, List.forall_mem_map]
  intro l mem
  exact Leaf.validate_eq_ok_iff.2 ((Leaf.validate_eq_ok_iff.1 (h l mem)).mapValues f)

end MapValues

theorem Query.ofText_yields (text : String) :
    (Query.ofText text).Yields fun q => ∀ p ∈ q.predicate, p.Valid := by
  apply Yields.bind
  intro source _
  apply Yields.bind
  intro v _
  apply Yields.bind
  intro q read
  refine .ok ?_
  intro p named
  obtain ⟨unsorted, found, rfl⟩ := Option.map_eq_some_iff.1 named
  exact (Query.ofJson_yields v q read unsorted found).mapValues Json.normalize

end StoreQuery
