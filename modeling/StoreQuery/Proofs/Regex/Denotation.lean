import Mathlib.Data.List.Forall2
import StoreQuery.Proofs.Regex.Spans

/-!
Expressions that take up texts of a kind: where they match depends on nothing but the text that the
match takes up. Sequences and stars of such expressions are such expressions again.
-/

namespace StoreQuery

theorem append_isPrefix_drop_iff {α : Type} {u v text : List α} {i : Nat} :
    u ++ v <+: text.drop i ↔ u <+: text.drop i ∧ v <+: text.drop (i + u.length) := by
  constructor
  · intro found
    refine ⟨(List.prefix_append u v).trans found, ?_⟩
    obtain ⟨after, rest⟩ := found
    rw [← List.drop_drop, ← rest, List.append_assoc, List.drop_left]
    exact List.prefix_append v after
  · rintro ⟨⟨after, rest⟩, second⟩
    rw [← List.drop_drop, ← rest, List.drop_left] at second
    rw [← rest]
    exact (List.prefix_append_right_inj u).2 second

theorem add_length_le_of_isPrefix_drop {α : Type} {v text : List α} {i : Nat}
    (inside : i ≤ text.length) (found : v <+: text.drop i) : i + v.length ≤ text.length := by
  have short := found.length_le
  rw [List.length_drop] at short
  omega

namespace Regex

def Denotes (r : Regex) (P : List Char → Prop) : Prop :=
  ∀ (text : List Char) (i j : Nat), i ≤ text.length →
    (r.Spans text i j ↔ ∃ v, P v ∧ v <+: text.drop i ∧ j = i + v.length)

variable {r : Regex} {P Q : List Char → Prop}

theorem Denotes.congr (denotes : Denotes r P) (same : ∀ v, P v ↔ Q v) : Denotes r Q := by
  intro text i j inside
  simp only [denotes text i j inside, same]

theorem denotes_empty : Denotes .empty (· = []) := by
  intro text i j inside
  simp [Spans, inside, eq_comm]

theorem denotes_set {s : CharSet} {M : Char → Prop} (members : ∀ c, s.contains c ↔ M c) :
    Denotes (.set s) fun v => ∃ c, v = [c] ∧ M c := by
  intro text i j inside
  have first (c : Char) : c ∈ text[i]? ↔ [c] <+: text.drop i := by
    rw [← List.head?_drop, Option.mem_def]
    cases text.drop i <;> simp [List.cons_prefix_cons, eq_comm]
  simp only [Spans, members, first]
  constructor
  · rintro ⟨rfl, c, here, member⟩
    exact ⟨[c], ⟨c, rfl, member⟩, here, rfl⟩
  · rintro ⟨_, ⟨c, rfl, member⟩, here, rfl⟩
    exact ⟨rfl, c, here, member⟩

theorem Denotes.seq {q : Regex} (first : Denotes r P) (second : Denotes q Q) :
    Denotes (.seq r q) fun v => ∃ u w, v = u ++ w ∧ P u ∧ Q w := by
  intro text i j inside
  constructor
  · rintro ⟨k, before, after⟩
    obtain ⟨u, takes, found, rfl⟩ := (first text i k inside).1 before
    have within := add_length_le_of_isPrefix_drop inside found
    obtain ⟨w, takesToo, foundToo, rfl⟩ := (second text _ j within).1 after
    refine ⟨u ++ w, ⟨u, w, rfl, takes, takesToo⟩, append_isPrefix_drop_iff.2 ⟨found, foundToo⟩, ?_⟩
    rw [List.length_append, Nat.add_assoc]
  · rintro ⟨_, ⟨u, w, rfl, takes, takesToo⟩, found, rfl⟩
    obtain ⟨found, foundToo⟩ := append_isPrefix_drop_iff.1 found
    have within := add_length_le_of_isPrefix_drop inside found
    refine ⟨i + u.length, (first text i _ inside).2 ⟨u, takes, found, rfl⟩, ?_⟩
    refine (second text _ _ within).2 ⟨w, takesToo, foundToo, ?_⟩
    rw [List.length_append, Nat.add_assoc]

theorem denotes_ofSequence {α : Type} {f : α → Regex} {T : α → List Char → Prop} {as : List α}
    (each : ∀ a ∈ as, Denotes (f a) (T a)) :
    Denotes (ofSequence (as.map f)) fun v => ∃ vs, as.Forall₂ T vs ∧ v = vs.flatten := by
  induction as with
  | nil => exact denotes_empty.congr fun v => by simp
  | cons a as ih =>
    obtain ⟨first, rest⟩ := List.forall_mem_cons.1 each
    refine (first.seq (ih rest)).congr fun v => ?_
    constructor
    · rintro ⟨u, _, rfl, takes, vs, taken, rfl⟩
      exact ⟨u :: vs, .cons takes taken, rfl⟩
    · rintro ⟨_, all, rfl⟩
      obtain ⟨u, vs, takes, taken, rfl⟩ := List.forall₂_cons_left_iff.1 all
      exact ⟨u, _, rfl, takes, vs, taken, rfl⟩

section Characters

variable {M : Char → Prop} (denotes : Denotes r fun v => ∃ c, v = [c] ∧ M c) {text : List Char}

include denotes

theorem Denotes.times (n : Nat) {i j : Nat} (inside : i ≤ text.length) :
    Times (r.Spans text) n i j ↔
      ∃ v, v.length = n ∧ (∀ c ∈ v, M c) ∧ v <+: text.drop i ∧ j = i + n := by
  induction n generalizing i with
  | zero => simp [Times, eq_comm]
  | succ n ih =>
    constructor
    · rintro ⟨k, first, rest⟩
      obtain ⟨_, ⟨c, rfl, member⟩, found, rfl⟩ := (denotes text i k inside).1 first
      have within := add_length_le_of_isPrefix_drop inside found
      obtain ⟨v, length, members, after, rfl⟩ := (ih within).1 rest
      refine ⟨c :: v, by rw [List.length_cons, length], List.forall_mem_cons.2 ⟨member, members⟩,
        append_isPrefix_drop_iff.2 ⟨found, after⟩, ?_⟩
      rw [List.length_singleton]
      omega
    · rintro ⟨v, length, members, found, rfl⟩
      obtain ⟨c, v, rfl⟩ := List.exists_cons_of_length_eq_add_one length
      obtain ⟨member, members⟩ := List.forall_mem_cons.1 members
      obtain ⟨found, after⟩ := append_isPrefix_drop_iff (u := [c]) |>.1 found
      rw [List.length_singleton] at after
      have within : i + 1 ≤ text.length := add_length_le_of_isPrefix_drop inside found
      refine ⟨i + 1, (denotes text i _ inside).2 ⟨[c], ⟨c, rfl, member⟩, found, rfl⟩, ?_⟩
      refine (ih within).2 ⟨v, Nat.succ.inj length, members, after, ?_⟩
      omega

theorem Denotes.star : Denotes (.repeat r 0 none) fun v => ∀ c ∈ v, M c := by
  intro text i j inside
  constructor
  · rintro ⟨n, -, -, steps⟩
    obtain ⟨v, rfl, members, found, ends⟩ := (denotes.times n inside).1 steps
    exact ⟨v, members, found, ends⟩
  · rintro ⟨v, members, found, ends⟩
    exact ⟨v.length, Nat.zero_le _, by simp,
      (denotes.times _ inside).2 ⟨v, rfl, members, found, ends⟩⟩

end Characters

end Regex

end StoreQuery
