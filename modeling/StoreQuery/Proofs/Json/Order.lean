import StoreQuery.Proofs.Json.Integer
import StoreQuery.Proofs.Text.Order

namespace StoreQuery.Json

def Related (ints : Int64 → Int64 → Prop) (texts : String → String → Prop) (v w : Json) : Prop :=
  (∃ m n, v = .int64 m ∧ w = .int64 n ∧ ints m n) ∨ ∃ s t, v = .str s ∧ w = .str t ∧ texts s t

def Below : Json → Json → Prop := Related (· < ·) (· < ·)

def AtMost : Json → Json → Prop := Related (· ≤ ·) (· ≤ ·)

section Related

variable {ints : Int64 → Int64 → Prop} {texts : String → String → Prop} {v w : Json}

theorem Related.swap (h : Related ints texts v w) :
    Related (fun m n => ints n m) (fun s t => texts t s) w v := by
  obtain ⟨m, n, isInt, isBound, h⟩ | ⟨s, t, isText, isBound, h⟩ := h
  · exact .inl ⟨n, m, isBound, isInt, h⟩
  · exact .inr ⟨t, s, isBound, isText, h⟩

theorem related_swap_iff :
    Related ints texts v w ↔ Related (fun m n => ints n m) (fun s t => texts t s) w v :=
  ⟨Related.swap, Related.swap⟩

theorem related_int64_right_iff {n : Int64} :
    Related ints texts v (.int64 n) ↔ ∃ m, v = .int64 m ∧ ints m n := by
  constructor
  · rintro (⟨m, _, rfl, eq, h⟩ | ⟨_, _, -, eq, -⟩)
    · exact ⟨m, rfl, int64_inj.1 eq ▸ h⟩
    · cases eq
  · rintro ⟨m, rfl, h⟩
    exact .inl ⟨m, n, rfl, rfl, h⟩

theorem related_int64_left_iff {m : Int64} :
    Related ints texts (.int64 m) v ↔ ∃ n, v = .int64 n ∧ ints m n :=
  related_swap_iff.trans related_int64_right_iff

theorem related_str_right_iff {t : String} :
    Related ints texts v (.str t) ↔ ∃ s, v = .str s ∧ texts s t := by
  constructor
  · rintro (⟨_, _, -, eq, -⟩ | ⟨s, _, rfl, ⟨⟩, h⟩)
    · cases eq
    · exact ⟨s, rfl, h⟩
  · rintro ⟨s, rfl, h⟩
    exact .inr ⟨s, t, rfl, rfl, h⟩

theorem related_str_left_iff {s : String} :
    Related ints texts (.str s) v ↔ ∃ t, v = .str t ∧ texts s t :=
  related_swap_iff.trans related_str_right_iff

/-- Values are in order with this one as they compare with it. That needs integers to be exact, and
booleans compare without being in order. -/
structure IsBound (v : Json) : Prop where
  indexable : v.Indexable
  notBool : ∀ b, v ≠ .bool b

theorem isBound_int64 (n : Int64) : (int64 n).IsBound where
  indexable := indexable_int64 n
  notBool b := by simp [int64, int]

theorem isBound_str (s : String) : (str s).IsBound where
  indexable := nofun
  notBool b := by simp

theorem any_compare?_iff {admits : Ordering → Bool} {item bound : Json}
    (ofInts : ∀ m n : Int64, admits (compare m.toInt n.toInt) ↔ ints m n)
    (ofTexts : ∀ s t : String, admits (compare s t) ↔ texts s t) (indexable : item.Indexable)
    (isBound : bound.IsBound) :
    (item.compare? bound).any admits ↔ Related ints texts item bound := by
  cases bound with
  | num x =>
    obtain ⟨n, isInt⟩ := isBound.indexable rfl
    rw [isInt, related_int64_right_iff]
    by_cases number : item.isNumber
    · obtain ⟨m, rfl⟩ := indexable number
      simp [ofInts]
    · rw [compare?_int64_right_eq_none number]
      constructor
      · nofun
      · rintro ⟨m, rfl, -⟩
        exact absurd rfl number
  | str t =>
    rw [related_str_right_iff]
    cases item <;> simp [compare?, ofTexts]
  | bool b => exact absurd rfl (isBound.notBool b)
  | null | arr | obj => cases item <;> simp [compare?, Related, int64, int]

end Related

section Compare

variable {item bound : Json} (indexable : item.Indexable) (isBound : bound.IsBound)

include indexable isBound

theorem any_isLT_compare?_iff : (item.compare? bound).any Ordering.isLT ↔ item.Below bound := by
  apply any_compare?_iff _ (fun s t => Text.isLT_compare) indexable isBound
  intro m n
  rw [Ordering.isLT_iff_eq_lt, Std.compare_eq_lt, Int64.lt_iff_toInt_lt]

theorem any_isGE_compare?_iff : (item.compare? bound).any Ordering.isGE ↔ bound.AtMost item := by
  rw [AtMost, related_swap_iff]
  apply any_compare?_iff _ (fun s t => Text.isGE_compare) indexable isBound
  intro m n
  rw [Std.isGE_compare, Int64.le_iff_toInt_le]

end Compare

end StoreQuery.Json
