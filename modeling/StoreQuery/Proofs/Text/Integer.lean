import StoreQuery.Text.Integer
import StoreQuery.Proofs.Json.Integer

namespace StoreQuery.Text

theorem natOfDigits_toDigits (n : Nat) : natOfDigits (Nat.toDigits 10 n) = n := by
  have back := Nat.ofDigitChars_toDigits (b := 10) (n := n) (by omega) (by omega)
  simpa only [Nat.ofDigitChars, natOfDigits, digit, Nat.mul_comm] using back

theorem toDigits_ne_nil (n : Nat) : Nat.toDigits 10 n ≠ [] := by
  intro h
  have length := Nat.length_toDigits_pos (b := 10) (n := n)
  simp [h] at length

theorem isDigit_of_mem_toDigits (n : Nat) : ∀ c ∈ Nat.toDigits 10 n, c.isDigit = true :=
  fun _ mem => Nat.isDigit_of_mem_toDigits (by omega) (by omega) mem

theorem readNat?_toDigits (n : Nat) : readNat? (Nat.toDigits 10 n) = some n := by
  have digits := List.all_eq_true.2 (isDigit_of_mem_toDigits n)
  rw [readNat?, if_pos ⟨toDigits_ne_nil n, digits⟩, natOfDigits_toDigits]

theorem readInt?_of_isDigit {cs : List Char} (digits : ∀ c ∈ cs, c.isDigit = true) :
    readInt? cs = (readNat? cs).map Int.ofNat := by
  unfold readInt?
  split
  next => simp at digits
  next => simp at digits
  next => rfl

theorem readInt?_toDigits (n : Nat) : readInt? (Nat.toDigits 10 n) = some (n : Int) := by
  rw [readInt?_of_isDigit (isDigit_of_mem_toDigits n), readNat?_toDigits]
  rfl

theorem readInt?_toString (i : Int) : readInt? (toString i).toList = some i := by
  rw [Int.toString_eq_repr]
  cases i with
  | ofNat n =>
    change readInt? n.repr.toList = some (n : Int)
    rw [Nat.toList_repr, readInt?_toDigits]
  | negSucc n =>
    change readInt? ("-" ++ (n + 1).repr).toList = some (-((n + 1 : Nat) : Int))
    rw [String.toList_append, Nat.toList_repr, show "-".toList = ['-'] from rfl,
      List.singleton_append, readInt?, readNat?_toDigits]
    rfl

theorem isDigit_or_of_mem_toString {i : Int} {c : Char} (h : c ∈ (toString i).toList) :
    c.isDigit = true ∨ c = '-' := by
  rw [Int.toString_eq_repr] at h
  cases i with
  | ofNat n =>
    change c ∈ n.repr.toList at h
    rw [Nat.toList_repr] at h
    exact .inl (isDigit_of_mem_toDigits n c h)
  | negSucc n =>
    change c ∈ ("-" ++ (n + 1).repr).toList at h
    rw [String.toList_append, Nat.toList_repr, List.mem_append] at h
    obtain sign | digit := h
    · exact .inr (by simpa using sign)
    · exact .inl (isDigit_of_mem_toDigits (n + 1) c digit)

theorem readInt64?_toString (n : Int64) : readInt64? (toString n.toInt).toList = some n := by
  rw [readInt64?, readInt?_toString, Option.bind_some, int64?_toInt]

end StoreQuery.Text
