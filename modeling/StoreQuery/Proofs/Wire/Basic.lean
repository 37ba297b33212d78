import Mathlib.Data.List.Nodup
import StoreQuery.Proofs.Except
import StoreQuery.Proofs.Json.Integer
import StoreQuery.Wire.Basic

namespace StoreQuery.Wire

def slot : String × Option Json → Option (String × Json)
  | (name, v) => v.map (name, ·)

theorem present_eq_slot (name : String) (v : Json) : present name v = slot (name, some v) := rfl

theorem ifSome_eq_slot (name : String) (v : Option Json) : ifSome name v = slot (name, v) := rfl

theorem omitIf_eq_slot (absent : Bool) (name : String) (v : Json) :
    omitIf absent name v = slot (name, if absent then none else some v) := by
  cases absent <;> rfl

variable {slots : List (String × Option Json)}

def written (slots : List (String × Option Json)) : Fields := slots.filterMap slot

theorem object_map_slot (slots : List (String × Option Json)) :
    object (slots.map slot) = .obj (written slots) := by
  rw [object, List.filterMap_map]
  rfl

theorem names_sublist (slots : List (String × Option Json)) :
    ((written slots).map Prod.fst).Sublist (slots.map Prod.fst) := by
  induction slots with
  | nil => exact .slnil
  | cons field rest ih =>
    obtain ⟨name, v⟩ := field
    cases v with
    | none => exact ih.cons name
    | some v => exact ih.cons_cons name

theorem lookup_eq_none_of_notMem {fs : Fields} {name : String} (h : name ∉ fs.map Prod.fst) :
    fs.lookup name = none := by
  rw [List.lookup_eq_none_iff]
  intro field mem
  rw [bne_iff_ne]
  rintro rfl
  exact h (List.mem_map_of_mem mem)

theorem lookup_written (distinct : (slots.map Prod.fst).Nodup) {name : String}
    {v : Option Json} (mem : (name, v) ∈ slots) : (written slots).lookup name = v := by
  induction slots with
  | nil => cases mem
  | cons field rest ih =>
    obtain ⟨other, w⟩ := field
    obtain ⟨fresh, others⟩ := List.nodup_cons.1 distinct
    obtain eq | later := List.mem_cons.1 mem
    · obtain ⟨rfl, rfl⟩ := Prod.mk.inj eq
      cases v with
      | none => exact lookup_eq_none_of_notMem fun found => fresh ((names_sublist rest).mem found)
      | some v => simp [written, slot]
    · have differs : name ≠ other := by
        rintro rfl
        exact fresh (List.mem_map.2 ⟨_, later, rfl⟩)
      rw [← ih others later]
      cases w with
      | none => rfl
      | some w => simp [written, slot, List.lookup_cons, beq_false_of_ne differs]

theorem isStructure_of_nodup (names : List String) {fs : Fields}
    (distinct : (fs.map Prod.fst).Nodup) : isStructure names fs = true := by
  rw [isStructure, List.all_eq_true]
  intro name _
  have once := List.nodup_iff_count_le_one.1 distinct name
  rw [List.count, List.countP_map, List.countP_eq_length_filter] at once
  exact decide_eq_true once

theorem fields_obj (names : List String) {fs : Fields} (distinct : (fs.map Prod.fst).Nodup) :
    fields names (.obj fs) = .ok fs :=
  if_pos (isStructure_of_nodup names distinct)

theorem fields_object (names : List String) (distinct : (slots.map Prod.fst).Nodup) :
    fields names (object (slots.map slot)) = .ok (written slots) := by
  rw [object_map_slot]
  exact fields_obj names (distinct.sublist (names_sublist slots))

theorem option_any_eq (v : Json) : option any v = .ok ((some v).filter (!·.isNull)) := by
  cases v <;> rfl

theorem option_any_ofOption (v : Option Json) :
    option any (.ofOption id v) = .ok (v.filter (!·.isNull)) := by
  cases v with
  | none => rfl
  | some v => exact option_any_eq v

theorem option_ofOption {read : Json → Read α} {write : α → Json} (a : Option α)
    (notNull : ∀ x, write x ≠ .null) :
    option read (.ofOption write a) =
      match a with
      | none => .ok none
      | some x => do return some (← read (write x)) := by
  cases a with
  | none => rfl
  | some x =>
    rw [Json.ofOption, option]
    exact notNull x

namespace Fields

variable {fs : Fields} {name : String}

theorem required_eq {read : Json → Read α} {a : α} {v : Json} (h : fs.lookup name = some v)
    (read_eq : read v = .ok a) : fs.required name read = .ok a := by
  rw [required, h]
  exact read_eq

theorem withDefault_eq {read : Json → Read α} {default a : α} {v : Json}
    (h : fs.lookup name = some v) (read_eq : read v = .ok a) :
    fs.withDefault name default read = .ok a := by
  rw [withDefault, h]
  exact read_eq

def Holds (fs : Fields) (name : String) (v : Json) (isDefault : Prop) : Prop :=
  fs.lookup name = some v ∨ fs.lookup name = none ∧ isDefault

theorem holds_of_omitIf {isDefault : Prop} (absent : Bool) {v : Json}
    (h : fs.lookup name = if absent then none else some v) (ofAbsent : absent → isDefault) :
    fs.Holds name v isDefault := by
  cases absent with
  | true => exact .inr ⟨h, ofAbsent rfl⟩
  | false => exact .inl h

theorem withDefault_eq_of_holds {read : Json → Read α} {default a : α} {v : Json}
    (h : fs.Holds name v (a = default)) (read_eq : read v = .ok a) :
    fs.withDefault name default read = .ok a := by
  obtain found | ⟨absent, rfl⟩ := h
  · exact withDefault_eq found read_eq
  · rw [withDefault, absent]

theorem optional_eq {read : Json → Read α} (write : α → Json) {a : Option α}
    (h : fs.lookup name = a.map write) (notNull : ∀ x, write x ≠ .null)
    (read_eq : ∀ x, read (write x) = .ok x) : fs.optional name read = .ok a := by
  rw [optional, h]
  cases a with
  | none => rfl
  | some x =>
    simp only [Option.map_some]
    rw [option, read_eq]
    · rfl
    · exact notNull x

theorem lookup_cons (name other : String) (v : Json) (fs : Fields) :
    List.lookup name ((other, v) :: fs) = if name = other then some v else fs.lookup name := by
  by_cases same : name = other
  · simp [same]
  · rw [List.lookup_cons, beq_false_of_ne same, if_neg same]

theorem required_cons {other : String} {v : Json} {read : Json → Read α} :
    required ((other, v) :: fs) name read =
      if name = other then read v else fs.required name read := by
  by_cases same : name = other <;> simp [required, lookup_cons, same]

theorem optional_cons {other : String} {v : Json} {read : Json → Read α} :
    optional ((other, v) :: fs) name read =
      if name = other then option read v else fs.optional name read := by
  by_cases same : name = other <;> simp [optional, lookup_cons, same]

theorem optional_any_eq {v : Option Json} (h : fs.lookup name = v) :
    fs.optional name any = .ok (v.filter (!·.isNull)) := by
  rw [optional, h]
  cases v with
  | none => rfl
  | some v => exact option_any_eq v

end Fields

theorem bool_bool (b : Bool) : bool (.bool b) = .ok b := rfl

theorem int64_int64 (n : Int64) : int64 (.int64 n) = .ok n := by
  change ofOption (int64? n.toInt) = .ok n
  rw [int64?_toInt, ofOption]

theorem uint64_nat (n : UInt64) : uint64 (.nat n.toNat) = .ok n := by
  change ofOption (uint64? n.toNat) = .ok n
  have inRange : (n.toNat : Int) < UInt64.size := by exact_mod_cast n.toNat_lt_size
  rw [uint64?, if_pos ⟨Int.natCast_nonneg _, inRange⟩, Int.toNat_natCast, UInt64.ofNat_toNat]
  rfl

theorem list_any (vs : List Json) : list any (.arr vs) = .ok vs := by
  have read : (vs.map fun v => v).mapM any = .ok vs := Except.mapM_map_eq_ok fun _ _ => rfl
  rwa [List.map_id'] at read

theorem oneOf_str_name {all : List α} {name : α → String} {a : α} (mem : a ∈ all)
    (unique : ∀ b ∈ all, name b = name a → b = a) : oneOf all name (.str (name a)) = .ok a := by
  have some : (all.find? (name · == name a)).isSome :=
    List.find?_isSome.2 ⟨a, mem, beq_self_eq_true (name a)⟩
  obtain ⟨b, found⟩ := Option.isSome_iff_exists.1 some
  have named : (name b == name a) = true := List.find?_some (p := (name · == name a)) found
  obtain rfl := unique b (List.mem_of_find?_eq_some found) (beq_iff_eq.1 named)
  simp [oneOf, choice, found]

end StoreQuery.Wire
