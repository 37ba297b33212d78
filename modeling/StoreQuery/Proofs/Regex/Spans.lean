import Mathlib.Data.List.Forall2
import StoreQuery.Regex.Match

/-!
What an expression matches in a text, as a relation between the positions before and after the
match, and that matching by sets of positions finds exactly this.
-/

namespace StoreQuery

namespace Regex

def Times (R : Nat → Nat → Prop) : Nat → Nat → Nat → Prop
  | 0, i, j => i = j
  | n + 1, i, j => ∃ k, R i k ∧ Times R n k j

def charBefore (first : Option Char) (text : List Char) : Nat → Option Char
  | 0 => first
  | i + 1 => text[i]?

/-- Whether an expression can match from one position to another. A repetition whose upper limit is
below its lower one runs as often as the lower one says. -/
def Spans (text : List Char) : Regex → Nat → Nat → Prop
  | .empty, i, j => i = j ∧ i ≤ text.length
  | .set s, i, j => j = i + 1 ∧ ∃ c ∈ text[i]?, s.contains c
  | .look a, i, j => i = j ∧ i ≤ text.length ∧ a.holds (charBefore none text i) text[i]?
  | .seq a b, i, j => ∃ k, Spans text a i k ∧ Spans text b k j
  | .alt a b, i, j => Spans text a i j ∨ Spans text b i j
  | .repeat r least most, i, j =>
    ∃ n, least ≤ n ∧ (∀ m ∈ most, n ≤ max least m) ∧ Times (Spans text r) n i j

def Forward (size : Nat) (R : Nat → Nat → Prop) : Prop :=
  ∀ i j, i ≤ size → R i j → i ≤ j ∧ j ≤ size

section Times

variable {R : Nat → Nat → Prop} {m n i j size : Nat}

theorem times_add : Times R (m + n) i j ↔ ∃ k, Times R m i k ∧ Times R n k j := by
  induction m generalizing i with
  | zero => simp [Times]
  | succ m ih =>
    rw [Nat.succ_add]
    simp only [Times, ih]
    constructor
    · rintro ⟨k, first, l, middle, last⟩
      exact ⟨l, ⟨k, first, middle⟩, last⟩
    · rintro ⟨l, ⟨k, first, middle⟩, last⟩
      exact ⟨k, first, l, middle, last⟩

theorem times_or_stay : Times (fun i j => i = j ∨ R i j) n i j ↔ ∃ m ≤ n, Times R m i j := by
  induction n generalizing i with
  | zero => simp [Times]
  | succ n ih =>
    simp only [Times, ih]
    constructor
    · rintro ⟨k, rfl | first, m, few, rest⟩
      · exact ⟨m, Nat.le_succ_of_le few, rest⟩
      · exact ⟨m + 1, Nat.succ_le_succ few, k, first, rest⟩
    · rintro ⟨m, few, steps⟩
      cases m with
      | zero => exact ⟨i, .inl rfl, 0, Nat.zero_le n, steps⟩
      | succ m =>
        obtain ⟨k, first, rest⟩ := steps
        exact ⟨k, .inr first, m, Nat.le_of_succ_le_succ few, rest⟩

theorem forward_times (forward : Forward size R) (n : Nat) : Forward size (Times R n) := by
  induction n with
  | zero => exact fun i j inside same => ⟨Nat.le_of_eq same, same ▸ inside⟩
  | succ n ih =>
    rintro i j inside ⟨k, first, rest⟩
    obtain ⟨moved, within⟩ := forward i k inside first
    obtain ⟨further, reached⟩ := ih k j within rest
    exact ⟨Nat.le_trans moved further, reached⟩

/-- Steps that stay where they are can be left out, so there are no more of them than positions. -/
theorem shorten_times (forward : Forward size R) (inside : i ≤ size) (h : Times R n i j) :
    ∃ m ≤ j - i, Times R m i j := by
  induction n generalizing i with
  | zero => exact ⟨0, Nat.zero_le _, h⟩
  | succ n ih =>
    obtain ⟨k, first, rest⟩ := h
    obtain ⟨moved, within⟩ := forward i k inside first
    obtain ⟨m, few, short⟩ := ih within rest
    have reached := (forward_times forward m k j within short).1
    rcases Nat.eq_or_lt_of_le moved with same | moved
    · exact ⟨m, same ▸ few, same ▸ short⟩
    · exact ⟨m + 1, by omega, k, first, short⟩

end Times

theorem forward_spans (text : List Char) (r : Regex) : Forward text.length (r.Spans text) := by
  induction r with
  | empty => exact fun i j _ h => ⟨Nat.le_of_eq h.1, h.1 ▸ h.2⟩
  | set s =>
    rintro i j _ ⟨rfl, c, here, _⟩
    exact ⟨Nat.le_succ i, (List.getElem?_eq_some_iff.mp here).1⟩
  | look a => exact fun i j _ h => ⟨Nat.le_of_eq h.1, h.1 ▸ h.2.1⟩
  | seq a b iha ihb =>
    rintro i j inside ⟨k, first, last⟩
    obtain ⟨moved, within⟩ := iha i k inside first
    obtain ⟨further, reached⟩ := ihb k j within last
    exact ⟨Nat.le_trans moved further, reached⟩
  | alt a b iha ihb => exact fun i j inside h => h.elim (iha i j inside) (ihb i j inside)
  | «repeat» r least most ih =>
    rintro i j inside ⟨n, _, _, steps⟩
    exact forward_times ih n i j inside steps

section

variable {text : List Char} {i j : Nat}

theorem spans_append (rs qs : List Regex) (inside : i ≤ text.length) :
    (ofSequence (rs ++ qs)).Spans text i j ↔
      ∃ k, (ofSequence rs).Spans text i k ∧ (ofSequence qs).Spans text k j := by
  induction rs generalizing i with
  | nil => simp [ofSequence, Spans, inside]
  | cons r rs ih =>
    have split : ∀ k, r.Spans text i k → ((ofSequence (rs ++ qs)).Spans text k j ↔
        ∃ l, (ofSequence rs).Spans text k l ∧ (ofSequence qs).Spans text l j) :=
      fun k first => ih (forward_spans text r i k inside first).2
    constructor
    · rintro ⟨k, first, rest⟩
      obtain ⟨l, middle, last⟩ := (split k first).1 rest
      exact ⟨l, ⟨k, first, middle⟩, last⟩
    · rintro ⟨l, ⟨k, first, middle⟩, last⟩
      exact ⟨k, first, (split k first).2 ⟨l, middle, last⟩⟩

theorem isNone_charBefore (inside : i ≤ text.length) :
    (charBefore none text i).isNone ↔ i = 0 := by
  cases i with
  | zero => simp [charBefore]
  | succ i =>
    simp only [charBefore, Option.isNone_iff_eq_none, List.getElem?_eq_none_iff]
    omega

theorem spans_textStart (anchored : Bool) :
    (ofSequence (if anchored then [.look .textStart] else [])).Spans text i j ↔
      j = i ∧ i ≤ text.length ∧ (anchored → i = 0) := by
  cases anchored with
  | false => simp [ofSequence, Spans, eq_comm]
  | true =>
    constructor
    · rintro ⟨_, ⟨rfl, inside, holds⟩, rfl, _⟩
      exact ⟨rfl, inside, fun _ => (isNone_charBefore inside).1 holds⟩
    · rintro ⟨rfl, inside, first⟩
      exact ⟨j, ⟨rfl, inside, (isNone_charBefore inside).2 (first rfl)⟩, rfl, inside⟩

theorem spans_textEnd (anchored : Bool) :
    (ofSequence (if anchored then [.look .textEnd] else [])).Spans text i j ↔
      j = i ∧ i ≤ text.length ∧ (anchored → i = text.length) := by
  cases anchored with
  | false => simp [ofSequence, Spans, eq_comm]
  | true =>
    constructor
    · rintro ⟨_, ⟨rfl, inside, holds⟩, rfl, _⟩
      have ended : text.length ≤ i := by simpa [Assertion.holds] using holds
      exact ⟨rfl, inside, fun _ => Nat.le_antisymm inside ended⟩
    · rintro ⟨rfl, inside, last⟩
      exact ⟨j, ⟨rfl, inside, by simp [Assertion.holds, last]⟩, rfl, inside⟩

def framed {α : Type} (atStart atEnd : Bool) (first last : α) (body : List α) : List α :=
  (if atStart then [first] else []) ++ (body ++ if atEnd then [last] else [])

section Framed

variable {α β : Type} {first last : α} {body : List α}

theorem forall_mem_framed {P : α → Prop} (hf : P first) (hl : P last) (hb : ∀ a ∈ body, P a)
    (atStart atEnd : Bool) : ∀ a ∈ framed atStart atEnd first last body, P a := by
  have ends : ∀ b : Bool, ∀ x, P x → ∀ a ∈ if b then [x] else [], P a := by
    intro b x hx a mem
    cases b with
    | false => cases mem
    | true => exact List.mem_singleton.1 mem ▸ hx
  exact List.forall_mem_append.2
    ⟨ends _ _ hf, List.forall_mem_append.2 ⟨hb, ends _ _ hl⟩⟩

theorem map_framed (f : α → β) (atStart atEnd : Bool) (first last : α) (body : List α) :
    (framed atStart atEnd first last body).map f =
      framed atStart atEnd (f first) (f last) (body.map f) := by
  simp only [framed, List.map_append, apply_ite (List.map f), List.map_singleton, List.map_nil]

theorem forall₂_framed {R : α → β → Prop} {a a' : α} {b b' : β} {as : List α} {bs : List β}
    (first : R a b) (last : R a' b') (body : as.Forall₂ R bs) (atStart atEnd : Bool) :
    (framed atStart atEnd a a' as).Forall₂ R (framed atStart atEnd b b' bs) := by
  have ends (anchored : Bool) {x : α} {y : β} (h : R x y) :
      (if anchored then [x] else []).Forall₂ R (if anchored then [y] else []) := by
    cases anchored with
    | false => exact .nil
    | true => exact .cons h .nil
  exact List.rel_append (ends atStart first) (List.rel_append body (ends atEnd last))

end Framed

theorem spans_framed (atStart atEnd : Bool) (body : List Regex) (inside : i ≤ text.length) :
    (ofSequence (framed atStart atEnd (.look .textStart) (.look .textEnd) body)).Spans text i j ↔
      (ofSequence body).Spans text i j ∧ (atStart → i = 0) ∧ (atEnd → j = text.length) := by
  rw [framed, spans_append _ _ inside]
  constructor
  · rintro ⟨k, before, rest⟩
    obtain ⟨rfl, _, first⟩ := (spans_textStart atStart).1 before
    obtain ⟨l, found, after⟩ := (spans_append _ _ inside).1 rest
    obtain ⟨rfl, _, last⟩ := (spans_textEnd atEnd).1 after
    exact ⟨found, first, last⟩
  · rintro ⟨found, first, last⟩
    have within := (forward_spans text _ i j inside found).2
    exact ⟨i, (spans_textStart atStart).2 ⟨rfl, inside, first⟩,
      (spans_append _ _ inside).2 ⟨j, found, (spans_textEnd atEnd).2 ⟨rfl, within, last⟩⟩⟩

theorem spans_sets {α : Type} (look : Char → α) (set : Char → CharSet)
    (sees : ∀ c d, (set c).contains d ↔ look d = look c) (s : List Char)
    (inside : i ≤ text.length) :
    (ofSequence (s.map fun c => .set (set c))).Spans text i j ↔
      j = i + s.length ∧ s.map look <+: (text.map look).drop i := by
  induction s generalizing i with
  | nil => simp [ofSequence, Spans, inside, eq_comm]
  | cons c s ih =>
    have here : (ofSequence ((c :: s).map fun c => .set (set c))).Spans text i j ↔
        (∃ d ∈ text[i]?, look d = look c) ∧
          (ofSequence (s.map fun c => .set (set c))).Spans text (i + 1) j := by
      simp [ofSequence, Spans, sees, and_assoc]
    rw [here]
    cases next : text[i]? with
    | none =>
      have ended : text.drop i = [] := by simpa using next
      simp [← List.map_drop, ended]
    | some d =>
      obtain ⟨before, value⟩ := List.getElem?_eq_some_iff.mp next
      have rest : text.drop i = d :: text.drop (i + 1) := by
        rw [List.drop_eq_getElem_cons before, value]
      rw [ih before, ← List.map_drop, ← List.map_drop, rest, List.map_cons, List.map_cons,
        List.cons_prefix_cons, List.length_cons]
      simp only [Option.mem_some_iff, exists_eq_left']
      constructor
      · rintro ⟨same, ends, found⟩
        exact ⟨by omega, same.symm, found⟩
      · rintro ⟨ends, same, found⟩
        exact ⟨same.symm, by omega, found⟩

end

end Regex

namespace Moves

open Regex

def Inside (size at_ : Nat) : Prop := ∀ i, at_.testBit i → i ≤ size

def Follows (size : Nat) (step : Nat → Nat) (R : Nat → Nat → Prop) : Prop :=
  ∀ at_, Inside size at_ → ∀ j, (step at_).testBit j ↔ ∃ i, at_.testBit i ∧ R i j

variable {size : Nat} {step : Nat → Nat} {R : Nat → Nat → Prop}

theorem Follows.inside (follows : Follows size step R) (forward : Forward size R) {at_ : Nat}
    (inside : Inside size at_) : Inside size (step at_) := by
  intro j set
  obtain ⟨i, start, there⟩ := (follows at_ inside j).mp set
  exact (forward i j (inside i start) there).2

theorem follows_stay {allowed : Nat} {P : Nat → Prop} (h : ∀ i, allowed.testBit i ↔ P i) :
    Follows size (run size (.stay allowed)) fun i j => i = j ∧ P i := by
  intro at_ _ j
  simp only [run, Nat.testBit_and, Bool.and_eq_true, h]
  constructor
  · rintro ⟨start, holds⟩
    exact ⟨j, start, rfl, holds⟩
  · rintro ⟨i, start, rfl, holds⟩
    exact ⟨start, holds⟩

theorem follows_step {allowed : Nat} {P : Nat → Prop} (h : ∀ i, allowed.testBit i ↔ P i) :
    Follows size (run size (.step allowed)) fun i j => j = i + 1 ∧ P i := by
  intro at_ _ j
  simp only [run, Nat.testBit_shiftLeft, Bool.and_eq_true, decide_eq_true_eq, Nat.testBit_and, h]
  constructor
  · rintro ⟨moved, start, holds⟩
    exact ⟨j - 1, start, by omega, holds⟩
  · rintro ⟨i, start, rfl, holds⟩
    exact ⟨Nat.le_add_left 1 i, start, holds⟩

theorem Follows.seq {m n : Moves} {Q : Nat → Nat → Prop} (first : Follows size (m.run size) R)
    (forward : Forward size R) (second : Follows size (n.run size) Q) :
    Follows size (run size (.seq m n)) fun i j => ∃ k, R i k ∧ Q k j := by
  intro at_ inside j
  rw [run, second _ (first.inside forward inside)]
  simp only [first _ inside]
  constructor
  · rintro ⟨k, ⟨i, start, before⟩, after⟩
    exact ⟨i, start, k, before, after⟩
  · rintro ⟨i, start, k, before, after⟩
    exact ⟨k, ⟨i, start, before⟩, after⟩

theorem Follows.alt {m n : Moves} {Q : Nat → Nat → Prop} (first : Follows size (m.run size) R)
    (second : Follows size (n.run size) Q) :
    Follows size (run size (.alt m n)) fun i j => R i j ∨ Q i j := by
  intro at_ inside j
  simp [run, Nat.testBit_or, first _ inside, second _ inside, and_or_left, exists_or]

theorem Follows.times_succ (follows : Follows size step R) {at_ : Nat} (inside : Inside size at_)
    (n j : Nat) :
    (∃ i, at_.testBit i ∧ Times R (n + 1) i j) ↔ ∃ k, (step at_).testBit k ∧ Times R n k j := by
  simp only [Times, follows at_ inside]
  constructor
  · rintro ⟨i, start, k, first, rest⟩
    exact ⟨k, ⟨i, start, first⟩, rest⟩
  · rintro ⟨k, ⟨i, start, first⟩, rest⟩
    exact ⟨i, start, k, first, rest⟩

theorem Follows.times_of_fixed (follows : Follows size step R) {at_ : Nat}
    (inside : Inside size at_) (fixed : step at_ = at_) (n j : Nat) :
    (∃ i, at_.testBit i ∧ Times R n i j) ↔ at_.testBit j := by
  induction n with
  | zero => simp [Times]
  | succ n ih => rw [follows.times_succ inside, fixed, ih]

theorem Follows.exactly_times (follows : Follows size step R) (forward : Forward size R) (n : Nat) :
    Follows size (exactly step n) (Times R n) := by
  induction n with
  | zero => intro at_ _ j; simp [Moves.exactly, Times]
  | succ n ih =>
    intro at_ inside j
    rw [Moves.exactly]
    split
    next fixed => exact (follows.times_of_fixed inside fixed (n + 1) j).symm
    next =>
      rw [ih (step at_) (follows.inside forward inside), follows.times_succ inside]

theorem upTo_eq_exactly (step : Nat → Nat) (n at_ : Nat) :
    upTo step n at_ = exactly (fun at_ => at_ ||| step at_) n at_ := by
  induction n generalizing at_ with
  | zero => rfl
  | succ n ih => simp only [upTo, exactly, ih]

theorem Follows.upTo_times (follows : Follows size step R) (forward : Forward size R) (n : Nat) :
    Follows size (upTo step n) fun i j => ∃ m ≤ n, Times R m i j := by
  have stay : Follows size (fun at_ => at_ ||| step at_) fun i j => i = j ∨ R i j := by
    intro at_ inside j
    simp [Nat.testBit_or, follows at_ inside, and_or_left, exists_or]
  have stays : Forward size fun i j => i = j ∨ R i j := by
    rintro i j inside (rfl | moved)
    · exact ⟨Nat.le_refl i, inside⟩
    · exact forward i j inside moved
  intro at_ inside j
  rw [upTo_eq_exactly, stay.exactly_times stays n at_ inside j]
  simp only [times_or_stay]

/-- An unbounded repetition needs no more rounds than there are positions to reach. -/
theorem Follows.repeat_times {m : Moves} (follows : Follows size (m.run size) R)
    (forward : Forward size R) (least : Nat) (most : Option Nat) :
    Follows size (run size (.repeat m least most)) fun i j =>
      ∃ n, least ≤ n ∧ (∀ m ∈ most, n ≤ max least m) ∧ Times R n i j := by
  have exact_ := follows.exactly_times forward least
  intro at_ inside j
  have reached : Inside size (exactly (m.run size) least at_) :=
    exact_.inside (forward_times forward least) inside
  cases most with
  | some most =>
    simp only [run, follows.upTo_times forward _ _ reached, exact_ _ inside]
    constructor
    · rintro ⟨k, ⟨i, start, first⟩, n, few, rest⟩
      refine ⟨i, start, least + n, Nat.le_add_right _ _, ?_, times_add.mpr ⟨k, first, rest⟩⟩
      simp only [Option.mem_some_iff, forall_eq']
      omega
    · rintro ⟨i, start, n, enough, limit, steps⟩
      obtain ⟨n, rfl⟩ := Nat.exists_eq_add_of_le enough
      obtain ⟨k, first, rest⟩ := times_add.mp steps
      have := limit most rfl
      exact ⟨k, ⟨i, start, first⟩, n, by omega, rest⟩
  | none =>
    simp only [run, follows.upTo_times forward _ _ reached, exact_ _ inside]
    constructor
    · rintro ⟨k, ⟨i, start, first⟩, n, _, rest⟩
      exact ⟨i, start, least + n, Nat.le_add_right _ _, nofun, times_add.mpr ⟨k, first, rest⟩⟩
    · rintro ⟨i, start, n, enough, _, steps⟩
      obtain ⟨n, rfl⟩ := Nat.exists_eq_add_of_le enough
      obtain ⟨k, first, rest⟩ := times_add.mp steps
      have within := (forward_times forward least i k (inside i start) first).2
      have ends := (forward_times forward n k j within rest).2
      obtain ⟨m, few, short⟩ := shorten_times forward within rest
      exact ⟨k, ⟨i, start, first⟩, m, by omega, short⟩

end Moves

namespace Regex

theorem testBit_pushBit (n : Nat) (b : Bool) (i : Nat) :
    (n <<< 1 ||| if b then 1 else 0).testBit i =
      match i with
      | 0 => b
      | i + 1 => n.testBit i := by
  cases i with
  | zero => cases b <;> simp
  | succ i =>
    have low : (if b then 1 else 0).testBit (i + 1) = false := by
      cases b <;> simp [Nat.testBit_succ]
    simp [Nat.testBit_or, low]

theorem testBit_allPositions (size i : Nat) : (allPositions size).testBit i ↔ i ≤ size := by
  rw [allPositions, Nat.one_shiftLeft, Nat.testBit_two_pow_sub_one, decide_eq_true_iff,
    Nat.lt_succ_iff]

theorem testBit_positionsOf (s : CharSet) (text : List Char) (i : Nat) :
    (positionsOf s text).testBit i ↔ ∃ c ∈ text[i]?, s.contains c := by
  induction text generalizing i with
  | nil => simp [positionsOf]
  | cons c rest ih =>
    rw [positionsOf, testBit_pushBit]
    cases i with
    | zero => simp
    | succ i => simpa using ih i

theorem testBit_positionsAt (a : Assertion) (first : Option Char) (text : List Char) (i : Nat) :
    (positionsAt a first text).testBit i ↔
      i ≤ text.length ∧ a.holds (charBefore first text i) text[i]? := by
  induction text generalizing first i with
  | nil =>
    cases i with
    | zero => cases h : a.holds first none <;> simp [positionsAt, charBefore, h]
    | succ i => cases h : a.holds first none <;> simp [positionsAt, h, Nat.testBit_succ]
  | cons c rest ih =>
    rw [positionsAt, testBit_pushBit]
    cases i with
    | zero => simp [charBefore]
    | succ i =>
      have before : charBefore first (c :: rest) (i + 1) = charBefore (some c) rest i := by
        cases i <;> rfl
      simpa [before] using ih (some c) i

theorem follows_spans (text : List Char) (r : Regex) :
    Moves.Follows text.length ((r.moves text).run text.length) (r.Spans text) := by
  induction r with
  | empty => exact Moves.follows_stay (testBit_allPositions text.length)
  | set s => exact Moves.follows_step (testBit_positionsOf s text)
  | look a => exact Moves.follows_stay (testBit_positionsAt a none text)
  | seq a b iha ihb => exact iha.seq (forward_spans text a) ihb
  | alt a b iha ihb => exact iha.alt ihb
  | «repeat» r least most ih => exact ih.repeat_times (forward_spans text r) least most

theorem isMatch_iff (r : Regex) (text : String) :
    r.isMatch text ↔ ∃ i j, i ≤ text.toList.length ∧ r.Spans text.toList i j := by
  have inside : Moves.Inside text.toList.length (allPositions text.toList.length) :=
    fun i => (testBit_allPositions _ i).mp
  have ends := follows_spans text.toList r _ inside
  simp only [testBit_allPositions] at ends
  rw [isMatch, bne_iff_ne]
  constructor
  · intro found
    obtain ⟨j, set⟩ := Nat.exists_testBit_of_ne_zero found
    obtain ⟨i, within, spans⟩ := (ends j).mp set
    exact ⟨i, j, within, spans⟩
  · rintro ⟨i, j, within, spans⟩ none
    have set := (ends j).mpr ⟨i, within, spans⟩
    simp [none] at set

end Regex

end StoreQuery
