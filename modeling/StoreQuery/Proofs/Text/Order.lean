import StoreQuery.Text.Basic

namespace StoreQuery.Text

theorem not_lt_least (c : Char) : ¬c < '\x00' := by
  simp [Char.lt_def]

theorem lt_concat_least_iff {s t : List Char} : t < s ++ ['\x00'] ↔ ¬s < t := by
  induction s generalizing t with
  | nil =>
    cases t with
    | nil => simp
    | cons c t => simp [List.cons_lt_cons_iff, not_lt_least]
  | cons d s ih =>
    cases t with
    | nil => simp
    | cons c t =>
      rw [List.cons_append, List.cons_lt_cons_iff, List.cons_lt_cons_iff, ih]
      grind

theorem lt_next_iff {s t : String} : t < s ++ "\x00" ↔ t ≤ s := by
  rw [← String.not_lt, String.lt_iff, String.lt_iff, String.toList_append]
  exact lt_concat_least_iff

theorem next_le_iff {s t : String} : s ++ "\x00" ≤ t ↔ s < t := by
  rw [← String.not_lt, lt_next_iff, String.not_le]

theorem isLT_compare {s t : String} : (compare s t).isLT ↔ s < t := by
  rw [Ordering.isLT_iff_eq_lt]
  exact compareOfLessAndEq_eq_lt

theorem isGE_compare {s t : String} : (compare s t).isGE ↔ t ≤ s := by
  rw [← String.not_lt, ← isLT_compare]
  cases compare s t <;> simp

end StoreQuery.Text
