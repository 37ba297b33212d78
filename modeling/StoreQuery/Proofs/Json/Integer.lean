import StoreQuery.Expr.Eval

namespace StoreQuery

@[simp] theorem int64?_toInt (n : Int64) : int64? n.toInt = some n := by
  rw [int64?, if_pos ⟨n.minValue_le_toInt, n.toInt_le⟩, Int64.ofInt_toInt]

theorem int64?_eq_some {i : Int} {n : Int64} (h : int64? i = some n) : i = n.toInt := by
  simp only [int64?, Int64.toInt_minValue, Int64.toInt_maxValue] at h
  split at h
  · rename_i bounds
    obtain rfl := Option.some.inj h
    rw [Int64.toInt_ofInt_of_le (by omega) (by omega)]
  · cases h

namespace Json

@[simp] theorem int64?_int64 (n : Int64) : (int64 n).int64? = some n := int64?_toInt n

@[simp] theorem int64_inj {m n : Int64} : int64 m = int64 n ↔ m = n := by
  simp [int64, int, Int64.toInt_inj]

theorem int64?_eq_some_iff {v : Json} {n : Int64} : v.int64? = some n ↔ v = .int64 n := by
  constructor
  · intro h
    match v, h with
    | .num (.int i), h => rw [int64?_eq_some h]; rfl
  · rintro rfl
    exact int64?_int64 n

@[simp] theorem compare?_int64 (m n : Int64) :
    compare? (int64 m) (int64 n) = some (compare m.toInt n.toInt) := by
  simp [compare?, int64, int, Number.compare?, Number.int64?]

theorem compare?_int64_right_eq_none {v : Json} {n : Int64} (h : ¬v.isNumber) :
    v.compare? (int64 n) = none := by
  cases v with
  | num => exact absurd rfl h
  | _ => rfl

def Indexable (v : Json) : Prop := v.isNumber → ∃ n, v = int64 n

theorem indexable_int64 (n : Int64) : (int64 n).Indexable := fun _ => ⟨n, rfl⟩

theorem equal_int64_iff {v : Json} {n : Int64} (h : v.Indexable) :
    v.equal (int64 n) ↔ v = int64 n := by
  constructor
  · intro eq
    cases v with
    | num =>
      obtain ⟨m, isInt⟩ := h rfl
      rw [isInt] at eq ⊢
      change (compare? (int64 m) (int64 n) == some .eq) = true at eq
      simp only [compare?_int64, beq_iff_eq, Option.some.injEq,
        Std.LawfulEqOrd.compare_eq_iff_eq] at eq
      rw [Int64.toInt_inj.1 eq]
    | _ => cases eq
  · rintro rfl
    change (compare? (int64 n) (int64 n) == some .eq) = true
    simp

@[simp] theorem equal_str_iff {v : Json} {s : String} : v.equal (.str s) ↔ v = .str s := by
  cases v with
  | str t =>
    change (t == s) = true ↔ _
    simp
  | _ => simp [equal, BEq.beq, beq]

end Json

namespace ValueType

theorem of?_eq_int_iff {v : Json} : of? v = some .int ↔ ∃ n, v = .int64 n := by
  constructor
  · intro h
    cases v with
    | num x =>
      cases hx : x.int64? with
      | none => simp [of?, Json.kind, hx] at h
      | some n => exact ⟨n, Json.int64?_eq_some_iff.1 hx⟩
    | _ => simp [of?, Json.kind] at h
  · rintro ⟨n, rfl⟩
    have : (Number.int n.toInt).int64? = some n := int64?_toInt n
    simp [of?, Json.kind, Json.int64, Json.int, this]

theorem of?_eq_string_iff {v : Json} : of? v = some .string ↔ ∃ s, v = .str s := by
  cases v with
  | num x => cases hx : x.int64? <;> simp [of?, Json.kind, hx]
  | _ => simp [of?, Json.kind]

@[simp] theorem of?_int64 (n : Int64) : of? (.int64 n) = some .int := of?_eq_int_iff.2 ⟨n, rfl⟩

@[simp] theorem of?_str (s : String) : of? (.str s) = some .string := rfl

theorem of?_ne_geo (v : Json) : of? v ≠ some .geo := by
  cases v with
  | num x => cases hx : x.int64? <;> simp [of?, Json.kind, hx]
  | _ => simp [of?, Json.kind]

theorem of?_isSome_iff {v : Json} : (∃ ty, of? v = some ty) ↔ v ≠ .null := by
  cases v with
  | num x => cases hx : x.int64? <;> simp [of?, Json.kind, hx]
  | _ => simp [of?, Json.kind]

theorem read?_eq_some_iff {ty : ValueType} {v w x : Json} (h : of? v = some ty) :
    ty.read? w = some x ↔ of? w = some ty ∧ w = x := by
  have notGeo : ty ≠ .geo := fun geo => of?_ne_geo v (geo ▸ h)
  cases ty <;> simp [read?, admits] at notGeo ⊢

theorem read?_geo_eq_some_iff {v w : Json} :
    geo.read? v = some w ↔ (∃ point, Geometry.ofJson? v = some point) ∧ v = w := by
  rw [read?, Option.ite_none_right_eq_some, Option.some.injEq, admits, Option.isSome_iff_exists]

end ValueType

end StoreQuery
