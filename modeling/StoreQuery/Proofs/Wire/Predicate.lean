import StoreQuery.Proofs.Wire.Basic
import StoreQuery.Wire.Predicate

namespace StoreQuery

open Wire

def Settings.slots (s : Settings) : List (String × Option Json) :=
  [("converter", s.converter.map .str), ("keep_original_key_types", some (.bool s.keepKeyTypes))]

theorem Settings.toJson_eq_object (s : Settings) : s.toJson = object (s.slots.map slot) := rfl

theorem Settings.ofJson_toJson (s : Settings) : Settings.ofJson s.toJson = .ok s := by
  have distinct : (s.slots.map Prod.fst).Nodup := by simp [slots]
  have found {name : String} {v : Option Json} (mem : (name, v) ∈ s.slots) :
      (written s.slots).lookup name = v := lookup_written distinct mem
  have keepKeyTypes : (written s.slots).withDefault "keep_original_key_types" false bool =
      .ok s.keepKeyTypes := Fields.withDefault_eq (found (by simp [slots])) (bool_bool _)
  have converter : (written s.slots).optional "converter" string = .ok s.converter :=
    Fields.optional_eq .str (found (by simp [slots])) (by simp) fun _ => rfl
  simp only [Settings.ofJson, toJson_eq_object, fields_object _ distinct, keepKeyTypes, converter,
    Except.ok_bind]
  rfl

theorem PathStep.ofJson_toJson (step : PathStep) : PathStep.ofJson step.toJson = .ok step := by
  cases step with
  | mapKey key => rfl
  | listIndex i =>
    change (do return PathStep.listIndex (← int64 (.int64 i))) = _
    rw [int64_int64]
    rfl

theorem Path.ofJson_toJson (p : Path) : Path.ofJson p.toJson = .ok p :=
  Except.mapM_map_eq_ok fun step _ => step.ofJson_toJson

theorem MetadataField.ofJson_name (m : MetadataField) :
    MetadataField.ofJson (.str m.name) = .ok m := by
  cases m <;> rfl

theorem Ids.ofJson_toJson (ids : Ids) : Ids.ofJson ids.toJson = .ok ids := by
  cases ids with
  | one key => rfl
  | many keys =>
    change (do return Ids.many (← list any (.arr keys))) = _
    rw [list_any]
    rfl

theorem Target.ofJson_toJson (t : Target) : Target.ofJson t.toJson = .ok t := by
  cases t with
  | field bin => rfl
  | metadata m =>
    change (do return Target.metadata (← MetadataField.ofJson (.str m.name))) = _
    rw [m.ofJson_name]
    rfl
  | id ids =>
    change (do return Target.id (← Ids.ofJson ids.toJson)) = _
    rw [ids.ofJson_toJson]
    rfl

theorem Operation.ofJson_name (op : Operation) : Operation.ofJson (.str op.name) = .ok op :=
  oneOf_str_name (mem_all op) fun _ _ => name_inj

theorem Connective.ofJson_wireName (kind : Connective) :
    Connective.ofJson (.str kind.wireName) = .ok kind := by
  cases kind <;> rfl

namespace Leaf

def slots (l : Leaf) : List (String × Option Json) :=
  [("ignore_case", if !l.ignoreCase then none else some (.bool l.ignoreCase)),
    ("op", some (.str l.op.name)),
    ("path", if l.path.isEmpty then none else some l.path.toJson),
    ("settings", some l.settings.toJson),
    ("target", some l.target.toJson),
    ("value1", l.value1),
    ("value2", l.value2),
    ("value3", l.value3)]

theorem toJson_eq_object (l : Leaf) : l.toJson = object (l.slots.map slot) := by
  simp only [toJson, slots, omitIf_eq_slot, present_eq_slot, ifSome_eq_slot, List.map_cons,
    List.map_nil]

def withoutNulls (l : Leaf) : Leaf :=
  { l with
    value1 := l.value1.filter (!·.isNull)
    value2 := l.value2.filter (!·.isNull)
    value3 := l.value3.filter (!·.isNull) }

structure WrittenIn (l : Leaf) (fs : Fields) : Prop where
  distinct : (fs.map Prod.fst).Nodup
  target : fs.lookup "target" = some l.target.toJson
  op : fs.lookup "op" = some (.str l.op.name)
  value1 : fs.lookup "value1" = l.value1
  value2 : fs.lookup "value2" = l.value2
  value3 : fs.lookup "value3" = l.value3
  ignoreCase : fs.Holds "ignore_case" (.bool l.ignoreCase) (l.ignoreCase = false)
  path : fs.Holds "path" l.path.toJson (l.path = [])
  settings : fs.Holds "settings" l.settings.toJson (l.settings = {})

theorem writtenIn_slots (l : Leaf) : l.WrittenIn (written l.slots) := by
  have distinct : (l.slots.map Prod.fst).Nodup := by simp [slots]
  have found {name : String} {v : Option Json} (mem : (name, v) ∈ l.slots) :
      (written l.slots).lookup name = v := lookup_written distinct mem
  exact {
    distinct := distinct.sublist (names_sublist l.slots)
    target := found (by simp [slots])
    op := found (by simp [slots])
    value1 := found (by simp [slots])
    value2 := found (by simp [slots])
    value3 := found (by simp [slots])
    ignoreCase := Fields.holds_of_omitIf (!l.ignoreCase) (found (by simp [slots])) (by simp)
    path := Fields.holds_of_omitIf l.path.isEmpty (found (by simp [slots])) (by simp)
    settings := .inl (found (by simp [slots])) }

theorem WrittenIn.ofJson_eq {l : Leaf} {fs : Fields} (h : l.WrittenIn fs) :
    Leaf.ofJson (.obj fs) =
      match l.withoutNulls.validate with
      | .ok () => .ok l.withoutNulls
      | .error cause => .error (.leaf cause) := by
  have target : fs.required "target" Target.ofJson = .ok l.target :=
    Fields.required_eq h.target l.target.ofJson_toJson
  have op : fs.required "op" Operation.ofJson = .ok l.op :=
    Fields.required_eq h.op l.op.ofJson_name
  have value1 : fs.optional "value1" any = .ok (l.value1.filter (!·.isNull)) :=
    Fields.optional_any_eq h.value1
  have value2 : fs.optional "value2" any = .ok (l.value2.filter (!·.isNull)) :=
    Fields.optional_any_eq h.value2
  have value3 : fs.optional "value3" any = .ok (l.value3.filter (!·.isNull)) :=
    Fields.optional_any_eq h.value3
  have ignoreCase : fs.withDefault "ignore_case" false bool = .ok l.ignoreCase :=
    Fields.withDefault_eq_of_holds h.ignoreCase (bool_bool _)
  have path : fs.withDefault "path" [] Path.ofJson = .ok l.path :=
    Fields.withDefault_eq_of_holds h.path l.path.ofJson_toJson
  have settings : fs.withDefault "settings" {} Settings.ofJson = .ok l.settings :=
    Fields.withDefault_eq_of_holds h.settings l.settings.ofJson_toJson
  simp only [Leaf.ofJson, fields_obj _ h.distinct, target, op, value1, value2, value3, ignoreCase,
    path, settings, Except.ok_bind]
  rfl

theorem ofJson_toJson (l : Leaf) : Leaf.ofJson l.toJson =
    match l.withoutNulls.validate with
    | .ok () => .ok l.withoutNulls
    | .error cause => .error (.leaf cause) := by
  rw [toJson_eq_object, object_map_slot]
  exact l.writtenIn_slots.ofJson_eq

def NullFree (l : Leaf) : Prop :=
  l.value1 ≠ some .null ∧ l.value2 ≠ some .null ∧ l.value3 ≠ some .null

theorem filter_isNull_eq_self_iff {v : Option Json} :
    v.filter (!·.isNull) = v ↔ v ≠ some .null := by
  match v with
  | none | some .null | some (.bool _) | some (.num _) | some (.str _) | some (.arr _)
  | some (.obj _) => simp [Json.isNull]

theorem withoutNulls_eq_self_iff {l : Leaf} : l.withoutNulls = l ↔ l.NullFree := by
  cases l
  simp only [withoutNulls, mk.injEq, true_and, and_true, filter_isNull_eq_self_iff, NullFree]

theorem ofJson_toJson_iff {l : Leaf} (valid : l.validate = .ok ()) :
    Leaf.ofJson l.toJson = .ok l ↔ l.NullFree := by
  rw [ofJson_toJson]
  constructor
  · intro h
    -- What was read is the leaf without its nulls, valid or not.
    split at h
    · exact withoutNulls_eq_self_iff.1 (Except.ok.inj h)
    · cases h
  · intro nullFree
    rw [withoutNulls_eq_self_iff.2 nullFree, valid]

end Leaf

namespace Predicate

theorem ofJson_toJson_leaf (l : Leaf) :
    ofJson (toJson (.leaf l)) = do return .leaf (← Leaf.ofJson l.toJson) := rfl

theorem ofJson_toJson_node (kind : Connective) (children : List Predicate) (settings : Settings) :
    ofJson (toJson (.node kind children settings)) =
      do return .node kind (← itemsOfJson (itemsToJson children)) settings := by
  let fs : Fields := [("children", .arr (itemsToJson children)), ("kind", .str kind.wireName),
    ("settings", settings.toJson)]
  have structured : isStructure ["kind", "children", "settings"] fs = true :=
    isStructure_of_nodup _ (by simp [fs])
  have readKind : fs.required "kind" Connective.ofJson = .ok kind :=
    Fields.required_eq rfl kind.ofJson_wireName
  have readSettings : fs.withDefault "settings" {} Settings.ofJson = .ok settings :=
    Fields.withDefault_eq rfl settings.ofJson_toJson
  change nodeOfJson (.obj fs) = _
  rw [nodeOfJson, structured, readKind, readSettings]
  rfl

mutual

theorem ofJson_toJson_iff_leaves : (p : Predicate) →
    (ofJson p.toJson = .ok p ↔ ∀ l ∈ p.leaves, Leaf.ofJson l.toJson = .ok l)
  | .leaf l => by
    rw [ofJson_toJson_leaf, Except.bind_pure_eq_ok_iff]
    simp [leaves]
  | .node kind children settings => by
    rw [ofJson_toJson_node, Except.bind_pure_eq_ok_iff, leaves,
      ← itemsOfJson_itemsToJson_iff_leaves children]
    simp

theorem itemsOfJson_itemsToJson_iff_leaves : (ps : List Predicate) →
    (itemsOfJson (itemsToJson ps) = .ok ps ↔ ∀ l ∈ leavesOf ps, Leaf.ofJson l.toJson = .ok l)
  | [] => by simp [itemsToJson, itemsOfJson, leavesOf]
  | p :: rest => by
    rw [itemsToJson, itemsOfJson, leavesOf, List.forall_mem_append, ← ofJson_toJson_iff_leaves p,
      ← itemsOfJson_itemsToJson_iff_leaves rest]
    simp [Except.bind_eq_ok_iff]

end

/-- A valid predicate comes back as it was just if no operand in it is null. A null that an
operation needs is then missed, and one that it does not look at is gone. -/
theorem ofJson_toJson_eq_ok_iff {p : Predicate} (valid : ∀ l ∈ p.leaves, l.validate = .ok ()) :
    ofJson p.toJson = .ok p ↔ ∀ l ∈ p.leaves, l.NullFree := by
  rw [ofJson_toJson_iff_leaves]
  exact forall₂_congr fun l mem => l.ofJson_toJson_iff (valid l mem)

theorem ofJson_toJson_eq_ok_iff_of_range :
    let bounded (low : Json) : Leaf :=
      { Leaf.onBin "trips" (.element (.between .list)) low (some (.int 9)) with
        path := [.mapKey (.str "years"), .listIndex (-1)]
        settings := { keepKeyTypes := true } }
    let p (low : Json) : Predicate :=
      .node .or [.and [.leaf (bounded low)], .and [], .ids [.null]] { converter := some "people" }
    (∀ low, ∀ l ∈ (p low).leaves, l.validate = .ok ()) ∧
      ofJson (p (.int 1)).toJson = .ok (p (.int 1)) ∧ ofJson (p .null).toJson ≠ .ok (p .null) := by
  intro bounded p
  let byIds : Leaf := { target := .id (.many [.null]), op := .scalar .isIn }
  have leaves_p (low : Json) : (p low).leaves = [bounded low, byIds] := rfl
  have valid (low : Json) : ∀ l ∈ (p low).leaves, l.validate = .ok () := by
    rw [leaves_p, List.forall_mem_cons, List.forall_mem_singleton]
    exact ⟨rfl, rfl⟩
  have ofInt : ∀ l ∈ (p (.int 1)).leaves, l.NullFree := by
    rw [leaves_p, List.forall_mem_cons, List.forall_mem_singleton]
    exact ⟨⟨nofun, nofun, nofun⟩, nofun, nofun, nofun⟩
  refine ⟨valid, (ofJson_toJson_eq_ok_iff (valid _)).2 ofInt, fun back => ?_⟩
  have ofNull := (ofJson_toJson_eq_ok_iff (valid .null)).1 back
  exact (ofNull (bounded .null) (by simp [leaves_p])).1 rfl

end Predicate

end StoreQuery
