import StoreQuery.Encoding.Operand
import StoreQuery.Proofs.Json.Integer

namespace StoreQuery

def Inequality.Relates : Inequality → Int64 → Int64 → Prop
  | .lt, x, bound => x < bound
  | .le, x, bound => x ≤ bound
  | .gt, x, bound => bound < x
  | .ge, x, bound => bound ≤ x

def Inequality.AtLimit (i : Inequality) (bound : Int64) : Prop :=
  i = .gt ∧ bound = .maxValue ∨ i = .lt ∧ bound = .minValue

theorem Inequality.admits_compare_iff {i : Inequality} {x bound : Int64} :
    i.admits (compare x.toInt bound.toInt) ↔ i.Relates x bound := by
  cases i with
  | lt =>
    simp only [admits, Relates, Ordering.isLT_iff_eq_lt, Std.compare_eq_lt]
    exact Int64.lt_iff_toInt_lt.symm
  | le => exact Std.isLE_compare.trans Int64.le_iff_toInt_le.symm
  | gt =>
    simp only [admits, Relates, Ordering.isGT_iff_eq_gt, Std.compare_eq_gt]
    exact Int64.lt_iff_toInt_lt.symm
  | ge => exact Std.isGE_compare.trans Int64.le_iff_toInt_le.symm

theorem Int64.toInt_add_one {n : Int64} (h : n ≠ .maxValue) : (n + 1).toInt = n.toInt + 1 := by
  have upper : n.toInt ≠ 2 ^ 63 - 1 := fun eq => h (Int64.toInt_inj.1 eq)
  have := n.toInt_lt
  have := n.le_toInt
  rw [Int64.toInt_add, Int64.toInt_one, Int.bmod_eq_of_le] <;> omega

theorem Int64.toInt_sub_one {n : Int64} (h : n ≠ .minValue) : (n - 1).toInt = n.toInt - 1 := by
  have lower : n.toInt ≠ -2 ^ 63 := fun eq => h (Int64.toInt_inj.1 eq)
  have := n.toInt_lt
  have := n.le_toInt
  rw [Int64.toInt_sub, Int64.toInt_one, Int.bmod_eq_of_le] <;> omega

theorem Int64.add_one_le_iff {n x : Int64} (h : n ≠ .maxValue) : n + 1 ≤ x ↔ n < x := by
  rw [Int64.le_iff_toInt_le, Int64.lt_iff_toInt_lt, Int64.toInt_add_one h]
  omega

theorem Int64.lt_add_one_iff {n x : Int64} (h : n ≠ .maxValue) : x < n + 1 ↔ x ≤ n := by
  rw [Int64.le_iff_toInt_le, Int64.lt_iff_toInt_lt, Int64.toInt_add_one h]
  omega

theorem Int64.le_sub_one_iff {n x : Int64} (h : n ≠ .minValue) : x ≤ n - 1 ↔ x < n := by
  rw [Int64.le_iff_toInt_le, Int64.lt_iff_toInt_lt, Int64.toInt_sub_one h]
  omega

theorem mem_indexRange {op : Operation} {i : Inequality} {bound first last : Int64}
    (h : indexRange op (.ineq i) bound = .ok (first, last)) (x : Int64) :
    first ≤ x ∧ x ≤ last ↔ i.Relates x bound := by
  cases i with
  | lt =>
    simp only [indexRange] at h
    split at h
    · cases h
    · rename_i inside
      cases h
      simp [Inequality.Relates, Int64.le_sub_one_iff inside]
  | le =>
    cases h
    simp [Inequality.Relates]
  | gt =>
    simp only [indexRange] at h
    split at h
    · cases h
    · rename_i inside
      cases h
      simp [Inequality.Relates, Int64.add_one_le_iff inside]
  | ge =>
    cases h
    simp [Inequality.Relates]

theorem indexRange_eq_error {op : Operation} {i : Inequality} {bound : Int64} {err : QueryError}
    (h : indexRange op (.ineq i) bound = .error err) :
    err = .rangeOverflow op bound ∧ i.AtLimit bound := by
  cases i with
  | lt =>
    simp only [indexRange] at h
    split at h
    · rename_i atMin
      cases h
      exact ⟨rfl, .inr ⟨rfl, atMin⟩⟩
    · cases h
  | gt =>
    simp only [indexRange] at h
    split at h
    · rename_i atMax
      cases h
      exact ⟨rfl, .inl ⟨rfl, atMax⟩⟩
    · cases h
  | le | ge => cases h

def Operation.inequality? : Operation → Option Inequality
  | .scalar (.compare (.ineq i)) => some i
  | .element (.listValue i) => some i
  | .keyed (.compare (.ineq i)) => some i
  | _ => none

/-- The filter of the leaf is refused with this error, since no integer is on the side of the bound
to which a strict comparison looks. -/
structure Leaf.OverflowsAt (l : Leaf) (i : Inequality) (bound : Int64) (err : QueryError) :
    Prop where
  value : l.requireValue = .ok (.int64 bound)
  atLimit : i.AtLimit bound
  error : err = .rangeOverflow l.op bound

theorem Leaf.overflowsAt_of_indexRange {l : Leaf} {i : Inequality} {bound : Int64}
    {err : QueryError} (value : l.requireValue = .ok (.int64 bound))
    (h : indexRange l.op (.ineq i) bound = .error err) : l.OverflowsAt i bound err :=
  ⟨value, (indexRange_eq_error h).2, (indexRange_eq_error h).1⟩

end StoreQuery
