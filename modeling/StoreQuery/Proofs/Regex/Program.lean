import Mathlib.Data.List.SplitBy
import StoreQuery.Proofs.Text.CharSet
import StoreQuery.Regex.Program

/-!
How much room the program of a pattern takes at most, for sequences of literals, sets and anchors.
-/

namespace StoreQuery.Regex

namespace Utf8

theorem length_bytes_le (code : Nat) : (bytes code).length ≤ 4 := by
  simp only [bytes]
  split_ifs <;> simp

theorem length_le_of_mem_sequences {first last : Nat} {q : List ByteRange}
    (mem : q ∈ sequences first last) : q.length ≤ 4 := by
  induction first, last using sequences.induct with
  | case1 first last code split inside ihl ihr =>
    rw [sequences, split] at mem
    simp only [dif_pos inside, List.mem_append] at mem
    exact mem.elim ihl ihr
  | case2 first last code split outside =>
    rw [sequences, split] at mem
    simp [dif_neg outside] at mem
  | case3 first last split =>
    rw [sequences, split] at mem
    obtain rfl := List.mem_singleton.1 mem
    rw [List.length_zip]
    exact Nat.le_trans (Nat.min_le_left _ _) (length_bytes_le first)

theorem length_sequences_le {first last : Nat} (h : first ≤ last) :
    (sequences first last).length ≤ last + 1 - first := by
  induction first, last using sequences.induct with
  | case1 first last code split inside ihl ihr =>
    have left := ihl inside.1
    have right := ihr inside.2
    rw [sequences, split]
    simp only [dif_pos inside, List.length_append]
    omega
  | case2 first last code split outside =>
    rw [sequences, split]
    simp [dif_neg outside]
  | case3 first last split =>
    rw [sequences, split]
    simp only [List.length_singleton]
    omega

theorem length_ofSet_le {s : CharSet} (filled : CharSet.Filled s.ranges) :
    (ofSet s).length ≤ CharSet.size s.ranges := by
  rw [ofSet]
  generalize s.ranges = ranges at filled
  induction ranges with
  | nil => exact Nat.le_refl _
  | cons r ranges ih =>
    obtain ⟨one, others⟩ := List.forall_mem_cons.1 filled
    have first := length_sequences_le one
    have rest := ih others
    simp only [CharSet.size, List.flatMap_cons, List.length_append, List.map_cons,
      List.sum_cons] at rest ⊢
    omega

theorem length_le_of_mem_ofSet {s : CharSet} {q : List ByteRange} (mem : q ∈ ofSet s) :
    q.length ≤ 4 := by
  obtain ⟨r, _, mem⟩ := List.mem_flatMap.1 mem
  exact length_le_of_mem_sequences mem

end Utf8

namespace Program

def Results {α : Type} (x : Option α) (P : α → Prop) : Prop := ∃ a, x = some a ∧ P a

namespace Results

variable {α β : Type} {x : Option α} {P : α → Prop}

theorem of_some {a : α} (h : P a) : Results (some a) P := ⟨a, rfl, h⟩

theorem isSome (h : Results x P) : x.isSome := by
  obtain ⟨a, rfl, _⟩ := h
  rfl

theorem imp {Q : α → Prop} (h : Results x P) (imp : ∀ a, P a → Q a) : Results x Q :=
  Exists.imp (fun a ⟨same, holds⟩ => ⟨same, imp a holds⟩) h

theorem bind {f : α → Option β} {Q : β → Prop} (first : Results x P)
    (next : ∀ a, P a → Results (f a) Q) : Results (x.bind f) Q := by
  obtain ⟨a, rfl, h⟩ := first
  exact next a h

theorem map {f : α → β} {Q : β → Prop} (first : Results x P) (next : ∀ a, P a → Q (f a)) :
    Results (x.map f) Q := by
  obtain ⟨a, rfl, h⟩ := first
  exact ⟨f a, rfl, next a h⟩

end Results

theorem addAll_room {d : Draft} {states extra : Nat}
    (h : d.room + states * stateCost + extra ≤ limit) :
    Results (d.addAll states extra) fun d' => d'.room = d.room + states * stateCost + extra := by
  rw [Draft.addAll, Draft.check, if_pos h]
  exact .of_some rfl

theorem add_room {d : Draft} (h : d.room + stateCost ≤ limit) :
    Results d.add fun d' => d'.room = d.room + stateCost := by
  have := @addAll_room d 1 0 (by omega)
  simpa [Draft.add] using this

theorem choose_room {d : Draft} {alternatives : Nat}
    (h : d.room + alternatives * choiceCost ≤ limit) :
    Results (d.choose alternatives) fun d' => d'.room = d.room + alternatives * choiceCost := by
  rw [Draft.choose, Draft.check, if_pos h]
  exact .of_some rfl

theorem connect_room {d : Draft} (h : d.room ≤ limit) :
    Results (d.connect false) fun d' => d'.room = d.room := by
  have := @choose_room d 0 (by omega)
  simpa [Draft.connect] using this

theorem foldlM_room {σ β : Type} (Inv : σ → Prop) (room : σ → Nat) (cost : β → Nat)
    {f : σ → β → Option σ} {xs : List β}
    (step : ∀ x ∈ xs, ∀ s, Inv s → room s + cost x ≤ limit →
      Results (f s x) fun s' => Inv s' ∧ room s' ≤ room s + cost x)
    {s : σ} (inv : Inv s) (h : room s + (xs.map cost).sum ≤ limit) :
    Results (xs.foldlM f s) fun s' => Inv s' ∧ room s' ≤ room s + (xs.map cost).sum := by
  induction xs generalizing s with
  | nil => exact .of_some ⟨inv, Nat.le_refl _⟩
  | cons x xs ih =>
    rw [List.map_cons, List.sum_cons] at h ⊢
    rw [List.foldlM_cons]
    refine (step x List.mem_cons_self s inv (by omega)).bind ?_
    rintro s₁ ⟨inv₁, room₁⟩
    obtain ⟨s₂, rest, inv₂, room₂⟩ :=
      ih (fun y mem => step y (List.mem_cons_of_mem x mem)) inv₁ (by omega)
    exact ⟨s₂, rest, inv₂, by omega⟩

theorem slot_lt {size : Nat} (some_ : 0 < size) (few : size < 2 ^ 64) (key : List Nat) :
    slot size key < size := by
  rw [slot, UInt64.toNat_mod]
  have word : size.toUInt64.toNat = size := UInt64.toNat_ofNat_of_lt' few
  rw [word]
  exact Nat.mod_lt _ some_

structure Usable (known : Known) : Prop where
  some_ : 0 < known.size
  few : known.size < 2 ^ 64

theorem usable_ofSize {size : Nat} (some_ : 0 < size) (few : size < 2 ^ 64) :
    Usable (Known.ofSize size) := by
  constructor <;> simpa [Known.ofSize]

theorem withEdges_room {extra : Nat} (edges : List Nat) {known : Known} (usable : Usable known)
    {d : Draft} (room : d.room + stateCost + extra ≤ limit) :
    Results (withEdges extra edges known d) fun (_, known', d') =>
      Usable known' ∧ d'.room ≤ d.room + stateCost + extra := by
  have here := Array.getElem?_eq_getElem (slot_lt usable.some_ usable.few edges)
  simp only [withEdges, here]
  split
  next => exact .of_some ⟨usable, by dsimp only; omega⟩
  next =>
    refine (addAll_room (by omega)).map ?_
    intro d' room'
    have usable' : Usable (known.setIfInBounds (slot known.size edges) (edges, d.states)) :=
      ⟨by simpa using usable.some_, by simpa using usable.few⟩
    exact ⟨usable', by simp [room']⟩

theorem sum_groups {α : Type} (groups : List (List α)) (depth cost : Nat) :
    (groups.map fun group => depth * (group.length * cost)).sum =
      depth * (groups.flatten.length * cost) := by
  induction groups with
  | nil => simp
  | cons group groups ih =>
    rw [List.map_cons, List.sum_cons, ih, List.flatten_cons, List.length_append, Nat.add_mul,
      Nat.mul_add]

theorem length_groups_le {α : Type} {groups : List (List α)} (filled : [] ∉ groups) :
    groups.length ≤ groups.flatten.length := by
  induction groups with
  | nil => simp
  | cons group groups ih =>
    obtain ⟨first, rest⟩ := not_or.1 (List.mem_cons.not.1 filled)
    have := List.length_pos_iff.2 (Ne.symm first)
    have := ih rest
    simp only [List.length_cons, List.flatten_cons, List.length_append]
    omega

/-- At each depth there are no more states than sequences, and no more edges. -/
theorem forwardFrom_room (target depth : Nat) {sequences : List (List Utf8.ByteRange)}
    (nonempty : sequences ≠ []) {known : Known} (usable : Usable known) {d : Draft}
    (room : d.room + depth * (sequences.length * (stateCost + edgeCost)) ≤ limit) :
    Results (forwardFrom target depth sequences known d) fun (_, known', d') =>
      Usable known' ∧
        d'.room ≤ d.room + depth * (sequences.length * (stateCost + edgeCost)) := by
  induction depth generalizing sequences known d with
  | zero =>
    rw [forwardFrom]
    exact .of_some ⟨usable, Nat.le_add_right _ _⟩
  | succ depth ih =>
    rw [forwardFrom]
    split
    next => exact .of_some ⟨usable, Nat.le_add_right _ _⟩
    next =>
      have joined := List.flatten_splitBy (fun a b => a.head? == b.head?) sequences
      have filled := List.nil_notMem_splitBy (fun a b => a.head? == b.head?) sequences
      generalize sequences.splitBy (fun a b => a.head? == b.head?) = groups at joined filled
      have total := sum_groups groups depth (stateCost + edgeCost)
      have few := length_groups_le filled
      rw [joined] at total few
      have some_ := List.length_pos_iff.2 nonempty
      have unit : stateCost + edgeCost = 40 := rfl
      refine (foldlM_room (fun s => Usable s.2.1) (fun s => s.2.2.room)
        (fun group => depth * (group.length * (stateCost + edgeCost))) ?_ usable ?_).bind ?_
      · rintro group mem ⟨edges, known, d⟩ usable room
        have nonempty : group.map List.tail ≠ [] := by
          rintro none
          exact filled (List.map_eq_nil_iff.1 none ▸ mem)
        refine (ih nonempty usable (by simpa using room)).bind ?_
        rintro ⟨next, known', d'⟩ ⟨usable', room'⟩
        exact .of_some ⟨usable', by simpa using room'⟩
      · dsimp only
        rw [total]
        rw [Nat.succ_mul] at room
        omega
      · rintro ⟨edges, known', d'⟩ ⟨usable', room'⟩
        rw [total] at room'
        rw [Nat.succ_mul] at room ⊢
        dsimp only at room'
        have last : stateCost + groups.length * edgeCost ≤
            sequences.length * (stateCost + edgeCost) := by
          simp only [stateCost, edgeCost]
          omega
        refine (withEdges_room edges.reverse usable' (by omega)).imp ?_
        rintro ⟨state, known'', d''⟩ ⟨usable'', room''⟩
        exact ⟨usable'', by omega⟩

theorem forwardSet_room {s : CharSet} {n : Nat} (some_ : 0 < n)
    (few : (Utf8.ofSet s).length ≤ n) {d : Draft}
    (room : d.room + stateCost + 4 * (n * (stateCost + edgeCost)) ≤ limit) :
    Results (forwardSet s d) fun d' =>
      d'.room ≤ d.room + stateCost + 4 * (n * (stateCost + edgeCost)) := by
  have fewer := Nat.mul_le_mul_right (stateCost + edgeCost) few
  have usable : Usable (Known.ofSize 10000) := usable_ofSize (by decide) (by decide)
  rw [forwardSet]
  refine (add_room (by omega)).bind ?_
  intro next room₁
  by_cases none : Utf8.ofSet s = []
  · have unit : stateCost ≤ n * (stateCost + edgeCost) := by
      simp only [stateCost, edgeCost]
      omega
    have alone : forwardFrom d.states 4 [] (Known.ofSize 10000) next =
        withEdges 0 [] (Known.ofSize 10000) next := by
      simp [forwardFrom]
    rw [none, alone]
    refine (withEdges_room [] usable (by omega)).bind ?_
    rintro ⟨_, _, last⟩ ⟨_, room₂⟩
    exact .of_some (by omega)
  · refine (forwardFrom_room d.states 4 none usable (by omega)).bind ?_
    rintro ⟨_, _, last⟩ ⟨_, room₂⟩
    exact .of_some (by omega)

theorem backwardSet_room {s : CharSet} {n : Nat} (few : (Utf8.ofSet s).length ≤ n) {d : Draft}
    (room : d.room + 2 * stateCost + n * (4 * stateCost + choiceCost) ≤ limit) :
    Results (backwardSet s d) fun d' =>
      d'.room ≤ d.room + 2 * stateCost + n * (4 * stateCost + choiceCost) := by
  have fewer := Nat.mul_le_mul_right (4 * stateCost + choiceCost) few
  have usable : Usable (Known.ofSize 1000) := usable_ofSize (by decide) (by decide)
  have total : ((Utf8.ofSet s).map fun _ => 4 * stateCost + choiceCost).sum =
      (Utf8.ofSet s).length * (4 * stateCost + choiceCost) := by
    simp
  rw [backwardSet]
  refine (addAll_room (by omega)).bind ?_
  intro next room₁
  refine (foldlM_room (fun s => Usable s.1) (fun s => s.2.room)
    (fun _ => 4 * stateCost + choiceCost) ?_ usable ?_).bind ?_
  · rintro q mem ⟨known, d⟩ usable room
    have bytes := Nat.mul_le_mul_right stateCost (Utf8.length_le_of_mem_ofSet mem)
    have inner : (q.map fun _ => stateCost).sum = q.length * stateCost := by simp
    dsimp only at room
    refine (foldlM_room (fun s => Usable s.2.1) (fun s => s.2.2.room) (fun _ => stateCost) ?_
      usable ?_).bind ?_
    · rintro ⟨first, last⟩ _ ⟨from_, known, d⟩ usable room
      exact withEdges_room _ usable room
    · dsimp only
      omega
    · rintro ⟨_, known', d'⟩ ⟨usable', room'⟩
      dsimp only at room'
      refine (choose_room (by omega)).bind ?_
      intro d'' room''
      exact .of_some ⟨usable', by dsimp only; omega⟩
  · dsimp only
    omega
  · rintro ⟨known, d'⟩ ⟨_, room₂⟩
    exact .of_some (by dsimp only at room₂ ⊢; omega)

def codesRoom (n : Nat) : Nat := 2 * stateCost + 4 * (n * (stateCost + edgeCost))

def Takes (room : Nat) (o : Outline) : Prop :=
  ∀ backwards d, d.room + room ≤ limit →
    Results (layOut backwards o d) fun (chooses, d') =>
      chooses = false ∧ d'.room ≤ d.room + room

theorem takes_of_add {o : Outline}
    (lays : ∀ backwards d, layOut backwards o d = do return (false, ← d.add)) :
    Takes stateCost o := by
  intro backwards d room
  rw [lays]
  refine (add_room room).bind ?_
  intro d' room'
  exact .of_some ⟨rfl, Nat.le_of_eq room'⟩

theorem takes_empty : Takes stateCost .empty := takes_of_add fun _ _ => by rw [layOut]

theorem takes_look (a : Assertion) : Takes stateCost (.look a) :=
  takes_of_add fun _ _ => by rw [layOut]

theorem length_textBytes (backwards : Bool) (text : List Char) :
    (textBytes backwards text).length = (textBytes false text).length := by
  cases backwards <;> simp [textBytes]

theorem takes_literal (text : List Char) :
    Takes ((textBytes false text).length * stateCost) (.literal text) := by
  intro backwards d room
  rw [layOut, length_textBytes]
  refine (addAll_room (by omega)).bind ?_
  intro d' room'
  exact .of_some ⟨rfl, Nat.le_of_eq room'⟩

theorem takes_set {s : CharSet} (filled : CharSet.Filled s.ranges) :
    Takes (codesRoom (CharSet.size s.ranges)) (.set s) := by
  intro backwards d room
  have few := Utf8.length_ofSet_le filled
  have ranges := CharSet.length_le_size filled
  generalize CharSet.size s.ranges = n at room few ranges
  have unit : stateCost + edgeCost = 40 := rfl
  rw [layOut, set]
  split
  next =>
    have edges : s.ranges.length * edgeCost ≤ 4 * (n * (stateCost + edgeCost)) := by
      simp only [stateCost, edgeCost]
      omega
    rw [codesRoom] at room ⊢
    refine (addAll_room (by omega)).bind ?_
    intro d' room'
    exact .of_some ⟨rfl, by omega⟩
  next wide =>
    have some_ : 0 < n := by
      cases found : s.ranges with
      | nil => simp [CharSet.isAscii, found] at wide
      | cons r rest =>
        rw [found, List.length_cons] at ranges
        omega
    rw [codesRoom] at room ⊢
    cases backwards with
    | false =>
      refine (forwardSet_room some_ few (by omega)).bind ?_
      intro d' room'
      exact .of_some ⟨rfl, by omega⟩
    | true =>
      have cheaper :
          n * (4 * stateCost + choiceCost) ≤ 4 * (n * (stateCost + edgeCost)) := by
        simp only [stateCost, edgeCost, choiceCost]
        omega
      refine (backwardSet_room few (by omega)).bind ?_
      intro d' room'
      exact .of_some ⟨rfl, by omega⟩

theorem layOutForwards_room {os : List Outline} {room : Outline → Nat}
    (each : ∀ o ∈ os, Takes (room o) o) {d : Draft} (h : d.room + (os.map room).sum ≤ limit) :
    Results (layOutForwards os false d) fun (chooses, d') =>
      chooses = false ∧ d'.room ≤ d.room + (os.map room).sum := by
  induction os generalizing d with
  | nil =>
    rw [layOutForwards]
    exact .of_some ⟨rfl, Nat.le_refl _⟩
  | cons o os ih =>
    obtain ⟨first, rest⟩ := List.forall_mem_cons.1 each
    rw [List.map_cons, List.sum_cons] at h ⊢
    rw [layOutForwards]
    refine (connect_room (by omega)).bind ?_
    intro d₁ room₁
    refine (first false d₁ (by omega)).bind ?_
    rintro ⟨_, d₂⟩ ⟨rfl, room₂⟩
    refine (ih rest (by omega)).imp ?_
    rintro ⟨_, d₃⟩ ⟨rfl, room₃⟩
    exact ⟨rfl, by omega⟩

theorem layOutBackwards_room {os : List Outline} {room : Outline → Nat}
    (each : ∀ o ∈ os, Takes (room o) o) {d : Draft} (h : d.room + (os.map room).sum ≤ limit) :
    Results (layOutBackwards os d) fun (chooses, d') =>
      chooses = false ∧ d'.room ≤ d.room + (os.map room).sum := by
  induction os generalizing d with
  | nil =>
    rw [layOutBackwards]
    exact .of_some ⟨rfl, Nat.le_refl _⟩
  | cons o os ih =>
    obtain ⟨first, rest⟩ := List.forall_mem_cons.1 each
    rw [List.map_cons, List.sum_cons] at h ⊢
    rw [layOutBackwards]
    refine (ih rest (by omega)).bind ?_
    rintro ⟨_, d₁⟩ ⟨rfl, room₁⟩
    refine (connect_room (by omega)).bind ?_
    intro d₂ room₂
    refine (first true d₂ (by omega)).imp ?_
    rintro ⟨_, d₃⟩ ⟨rfl, room₃⟩
    exact ⟨rfl, by omega⟩

theorem takes_sequence {os : List Outline} {room : Outline → Nat}
    (each : ∀ o ∈ os, Takes (room o) o) : Takes (os.map room).sum (.sequence os) := by
  intro backwards d h
  rw [layOut]
  cases backwards with
  | false => exact layOutForwards_room each h
  | true => exact layOutBackwards_room each h

theorem takes_capture {o : Outline} {room : Nat} (takes : Takes room o) (index : Nat) :
    Takes (room + 2 * stateCost) (.capture index o) := by
  intro backwards d h
  rw [layOut]
  cases backwards with
  | true =>
    refine (takes true d (by omega)).imp ?_
    rintro ⟨_, d'⟩ ⟨rfl, room'⟩
    exact ⟨rfl, by omega⟩
  | false =>
    rw [if_neg Bool.false_ne_true]
    refine (add_room (by omega)).bind ?_
    intro d₁ room₁
    refine (takes false d₁ (by omega)).bind ?_
    rintro ⟨_, d₂⟩ ⟨rfl, room₂⟩
    refine (add_room (by omega)).bind ?_
    intro d₃ room₃
    refine (connect_room (by omega)).bind ?_
    intro d₄ room₄
    exact .of_some ⟨rfl, by omega⟩

theorem Takes.mono {o : Outline} {room more : Nat} (takes : Takes room o) (h : room ≤ more) :
    Takes more o := by
  intro backwards d left
  refine (takes backwards d (by omega)).imp ?_
  rintro ⟨_, d'⟩ ⟨rfl, room'⟩
  exact ⟨rfl, by omega⟩

def partRoom : Outline → Nat
  | .literal text => (textBytes false text).length * stateCost
  | .set s => codesRoom (CharSet.size s.ranges)
  | _ => stateCost

theorem joinLiterals_cons (o : Outline) (os : List Outline) :
    (∃ a b others, o = .literal a ∧ Outline.joinLiterals os = .literal b :: others ∧
      Outline.joinLiterals (o :: os) = .literal (a ++ b) :: others) ∨
      Outline.joinLiterals (o :: os) = o :: Outline.joinLiterals os := by
  by_cases both : ∃ a b others, o = .literal a ∧ Outline.joinLiterals os = .literal b :: others
  · obtain ⟨a, b, others, rfl, joined⟩ := both
    exact .inl ⟨a, b, others, rfl, joined, by simp [Outline.joinLiterals, joined]⟩
  · right
    rw [Outline.joinLiterals]
    rintro a b others rfl joined
    exact both ⟨a, b, others, rfl, joined⟩

theorem takes_joinLiterals {os : List Outline} (each : ∀ o ∈ os, Takes (partRoom o) o) :
    ((Outline.joinLiterals os).map partRoom).sum = (os.map partRoom).sum ∧
      ∀ o ∈ Outline.joinLiterals os, Takes (partRoom o) o := by
  induction os with
  | nil => simp [Outline.joinLiterals]
  | cons o os ih =>
    obtain ⟨first, rest⟩ := List.forall_mem_cons.1 each
    obtain ⟨total, parts⟩ := ih rest
    obtain ⟨a, b, others, rfl, joined, whole⟩ | apart := joinLiterals_cons o os
    · rw [joined] at total parts
      rw [whole]
      constructor
      · have bytes : (textBytes false (a ++ b)).length =
            (textBytes false a).length + (textBytes false b).length := by
          simp [textBytes]
        rw [List.map_cons, List.map_cons, List.sum_cons, List.sum_cons, ← total, List.map_cons,
          List.sum_cons, partRoom, partRoom, partRoom, bytes, Nat.add_mul, Nat.add_assoc]
      · exact List.forall_mem_cons.2 ⟨takes_literal (a ++ b), (List.forall_mem_cons.1 parts).2⟩
    · rw [apart, List.map_cons, List.sum_cons, total, List.map_cons, List.sum_cons]
      exact ⟨rfl, List.forall_mem_cons.2 ⟨first, parts⟩⟩

theorem takes_ofSequence {os : List Outline} (flat : ∀ o ∈ os, o.parts = [o])
    (each : ∀ o ∈ os, Takes (partRoom o) o) :
    Takes (stateCost + (os.map partRoom).sum) (.ofSequence os) := by
  have parts : os.flatMap Outline.parts = os := by
    rw [List.flatMap_congr flat, List.flatMap_singleton']
  obtain ⟨total, joined⟩ := takes_joinLiterals each
  rw [Outline.ofSequence, parts, ← total]
  generalize Outline.joinLiterals os = qs at joined
  match qs with
  | [] => exact takes_empty
  | [o] => exact (joined o List.mem_cons_self).mono (by simp)
  | o :: q :: qs => exact (takes_sequence joined).mono (Nat.le_add_left _ _)

/-- What is around the part that matches: the search for its start, the ends of the match and the
end of the program. -/
def frameRoom : Nat := 6 * stateCost + edgeCost + 2 * choiceCost

theorem entry_room (anchored : Bool) :
    Results (entry anchored) fun d => d.room ≤ 3 * stateCost + edgeCost + 2 * choiceCost := by
  cases anchored with
  | true => exact ⟨_, rfl, by decide⟩
  | false => exact ⟨_, rfl, by decide⟩

theorem forwards_isSome {o : Outline} {room : Nat} (takes : Takes room o)
    (h : frameRoom + room ≤ limit) : (forwards o).isSome := by
  rw [frameRoom] at h
  have built : Results (forwards o) fun _ => True := by
    rw [forwards]
    refine (entry_room o.isAnchoredFirst).bind ?_
    intro d₁ room₁
    refine (takes_capture takes 0 false d₁ (by omega)).bind ?_
    rintro ⟨_, d₂⟩ ⟨_, room₂⟩
    exact (add_room (by omega)).imp fun _ _ => trivial
  exact built.isSome

theorem backwards_isSome {o : Outline} {room : Nat} (takes : Takes room o)
    (h : frameRoom + room ≤ limit) : (backwards o).isSome := by
  rw [frameRoom] at h
  have built : Results (backwards o) fun _ => True := by
    rw [backwards]
    refine (entry_room o.isAnchoredLast).bind ?_
    intro d₁ room₁
    refine (takes true d₁ (by omega)).bind ?_
    rintro ⟨_, d₂⟩ ⟨rfl, room₂⟩
    refine (add_room (by omega)).bind ?_
    intro d₃ room₃
    exact (connect_room (by omega)).imp fun _ _ => trivial
  exact built.isSome

theorem fits_of_takes {o : Outline} {room : Nat} (takes : Takes room o)
    (h : frameRoom + room ≤ limit) : o.fits := by
  simp [Outline.fits, forwards_isSome takes h, backwards_isSome takes h]

end Program

end StoreQuery.Regex
