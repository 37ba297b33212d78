import Mathlib.Logic.Relation
import StoreQuery.Path

namespace StoreQuery

inductive Json.PartOf : Json → Json → Prop
  | whole (v : Json) : PartOf v v
  | item {v item : Json} {items : List Json} (mem : item ∈ items) (part : PartOf v item) :
    PartOf v (.arr items)
  | field {v value : Json} {name : String} {fields : List (String × Json)}
    (mem : (name, value) ∈ fields) (part : PartOf v value) : PartOf v (.obj fields)

theorem Json.PartOf.trans {u v w : Json} (inner : u.PartOf v) (outer : v.PartOf w) :
    u.PartOf w := by
  induction outer with
  | whole => exact inner
  | item mem _ ih => exact .item mem ih
  | field mem _ ih => exact .field mem ih

namespace PathStep

section Position

variable {length : Nat} {items : List Json} {i j : Int64}

theorem negative_iff : i < 0 ↔ i.toInt < 0 := by rw [Int64.lt_iff_toInt_lt, Int64.toInt_zero]

theorem position_of_nonneg (h : 0 ≤ i.toInt) : position length i = i := by
  rw [position, if_neg ((not_congr negative_iff).2 (Int.not_lt.2 h))]

theorem toInt_position (fits : length ≤ Int64.maxValue.toInt) (i : Int64) :
    (position length i).toInt = if i.toInt < 0 then length + i.toInt else i.toInt := by
  simp only [position, negative_iff]
  split
  case isTrue negative =>
    rw [Int64.toInt_maxValue] at fits
    have least := i.le_toInt
    rw [Int64.toInt_add, Int64.toInt_ofNat_of_lt (by omega)]
    exact Int.bmod_eq_of_le (by omega) (by omega)
  case isFalse => rfl

/-- The sum is a position of the list, so it is right even if the length alone is out of range. -/
theorem position_fromEnd (inRange : 0 ≤ i.toInt ∧ i.toInt < length)
    (counterpart : j.toInt = i.toInt - length) : position length j = position length i := by
  have negative : j < 0 := negative_iff.2 (by omega)
  have sum : length + j.toInt = i.toInt := by omega
  have wrapped : (Int64.ofNat length).toInt = (length : Int).bmod (2 ^ 64) := Int64.toInt_ofNat'
  rw [position_of_nonneg inRange.1, position, if_pos negative, ← Int64.toInt_inj]
  calc (Int64.ofNat length + j).toInt
    _ = ((length : Int).bmod (2 ^ 64) + j.toInt).bmod (2 ^ 64) := by rw [Int64.toInt_add, wrapped]
    _ = (length + j.toInt).bmod (2 ^ 64) := Int.bmod_add_bmod
    _ = i.toInt.bmod (2 ^ 64) := by rw [sum]
    _ = i.toInt := i.toInt_bmod

theorem element?_of_toInt_position {k : Nat} (h : (position items.length i).toInt = k) :
    element? items i = items[k]? := by
  have nonneg : ¬position items.length i < 0 := (not_congr negative_iff).2 (by omega)
  simp only [element?, if_neg nonneg]
  rw [Int64.toNat_toUInt64_of_le (Int64.not_lt.1 nonneg), ← Int64.toNat_toInt, h, Int.toNat_natCast]

theorem element?_of_position_neg (h : (position items.length i).toInt < 0) :
    element? items i = none := by
  simp only [element?, if_pos (negative_iff.2 h)]

theorem element?_eq_some (fits : items.length ≤ Int64.maxValue.toInt) {k : Nat}
    (inside : k < items.length) (counted : i.toInt = k ∨ i.toInt = k - items.length) :
    element? items i = some items[k] := by
  have place : (position items.length i).toInt = k := by
    rw [toInt_position fits]
    split <;> omega
  rw [element?_of_toInt_position place, List.getElem?_eq_getElem inside]

theorem element?_eq_none (fits : items.length ≤ Int64.maxValue.toInt)
    (outside : i.toInt < -items.length ∨ items.length ≤ i.toInt) : element? items i = none := by
  obtain before | beyond := outside
  · apply element?_of_position_neg
    rw [toInt_position fits]
    split <;> omega
  · obtain ⟨k, place⟩ := Int.eq_ofNat_of_zero_le (a := i.toInt) (by omega)
    rw [element?_of_toInt_position (k := k), List.getElem?_eq_none (by omega)]
    rw [position_of_nonneg (by omega), place]

end Position

variable {step : PathStep} {v w key key' : Json}

theorem partOf_of_resolve (h : step.resolve v = some w) : w.PartOf v := by
  cases step with
  | mapKey key =>
    cases v with
    | obj fields =>
      obtain ⟨name, -, found⟩ := Option.bind_eq_some_iff.1 h
      obtain ⟨before, after, rfl, -⟩ := List.lookup_eq_some_iff.1 found
      exact .field (List.mem_append_right _ List.mem_cons_self) (.whole w)
    | _ => cases h
  | listIndex i =>
    cases v with
    | arr items =>
      simp only [resolve, element?, Option.ite_none_left_eq_some] at h
      exact .item (List.mem_of_getElem? h.2) (.whole w)
    | _ => cases h

theorem resolve_mapKey_congr (h : key.keyText? = key'.keyText?) (v : Json) :
    resolve (.mapKey key) v = resolve (.mapKey key') v := by
  cases v with
  | obj fields => simp only [resolve, h]
  | _ => rfl

end PathStep

namespace Path

variable {p q before after : Path} {s t : PathStep} {root v : Json}

theorem partOf_of_resolve (h : resolve p root = some v) : v.PartOf root := by
  induction p generalizing root with
  | nil =>
    cases h
    exact .whole v
  | cons s p ih =>
    rw [resolve_cons] at h
    obtain ⟨w, taken, rest⟩ := Option.bind_eq_some_iff.1 h
    exact (ih rest).trans (PathStep.partOf_of_resolve taken)

theorem resolve_replace (same : ∀ v, resolve before root = some v → s.resolve v = t.resolve v) :
    resolve (before ++ s :: after) root = resolve (before ++ t :: after) root := by
  rw [resolve_append, resolve_append]
  exact Option.bind_congr fun v reached => by rw [resolve_cons, resolve_cons, same v reached]

/-- One step is written in another way: a position in the list that it is taken in is counted from
the end, or a key that is a whole number or a truth value is given as its text. -/
inductive Respelling (root : Json) : Path → Path → Prop
  | fromEnd {items : List Json} {i j : Int64} (before after : Path)
    (reached : resolve before root = some (.arr items))
    (inRange : 0 ≤ i.toInt ∧ i.toInt < items.length)
    (counterpart : j.toInt = i.toInt - items.length) :
    Respelling root (before ++ .listIndex i :: after) (before ++ .listIndex j :: after)
  | integerKey (before after : Path) (n : Int) :
    Respelling root (before ++ .mapKey (.int n) :: after)
      (before ++ .mapKey (.str (toString n)) :: after)
  | booleanKey (before after : Path) (b : Bool) :
    Respelling root (before ++ .mapKey (.bool b) :: after)
      (before ++ .mapKey (.str (toString b)) :: after)

def Respelled (root : Json) : Path → Path → Prop := Relation.EqvGen (Respelling root)

theorem Respelling.resolve_eq (h : Respelling root p q) : resolve p root = resolve q root := by
  cases h with
  | fromEnd before after reached inRange counterpart =>
    apply resolve_replace
    intro v reachesToo
    -- The step can only be taken in the list whose length is the difference of the positions.
    obtain rfl := Option.some.inj (reached.symm.trans reachesToo)
    simp only [PathStep.resolve, PathStep.element?, PathStep.position_fromEnd inRange counterpart]
  | integerKey before after n =>
    have text : (Json.int n).keyText? = (Json.str (toString n)).keyText? := rfl
    exact resolve_replace fun v _ => PathStep.resolve_mapKey_congr text v
  | booleanKey before after b =>
    have text : (Json.bool b).keyText? = (Json.str (toString b)).keyText? := by cases b <;> rfl
    exact resolve_replace fun v _ => PathStep.resolve_mapKey_congr text v

theorem Respelled.resolve_eq (h : Respelled root p q) : resolve p root = resolve q root := by
  induction h with
  | rel p q respelling => exact respelling.resolve_eq
  | refl p => rfl
  | symm p q _ ih => exact ih.symm
  | trans p q r _ _ ih ih' => exact ih.trans ih'

/-- A walk along two paths put together goes on where the first one ends, and it never leaves the
document. No list in memory is longer than the greatest position, and so the position of a step
comes out without overflow; it counts from the start or from the end, and elsewhere nothing is
found. Other ways to write a path find the same. -/
theorem walk_stays_in_document :
    (∀ p q root, resolve (p ++ q) root = (resolve p root).bind (resolve q)) ∧
    (∀ p root v, resolve p root = some v → v.PartOf root) ∧
    (∀ (items : List Json) (i : Int64), items.length ≤ Int64.maxValue.toInt →
      (PathStep.position items.length i).toInt =
        (if i.toInt < 0 then items.length + i.toInt else i.toInt) ∧
      (∀ (k : Nat) (_ : k < items.length), i.toInt = k ∨ i.toInt = k - items.length →
        PathStep.resolve (.listIndex i) (.arr items) = some items[k]) ∧
      (i.toInt < -items.length ∨ items.length ≤ i.toInt →
        PathStep.resolve (.listIndex i) (.arr items) = none)) ∧
    ∀ root p q, Respelled root p q → resolve p root = resolve q root := by
  refine ⟨resolve_append, fun p root v => partOf_of_resolve, fun items i fits => ?_,
    fun root p q => Respelled.resolve_eq⟩
  exact ⟨PathStep.toInt_position fits i, fun k inside => PathStep.element?_eq_some fits inside,
    PathStep.element?_eq_none fits⟩

theorem walk_stays_in_document_of_last_friend :
    let ann : Json := .obj [("name", .str "Ann")]
    let bo : Json := .obj [("7", .str "seven"), ("name", .str "Bo")]
    let root : Json := .obj [("friends", .arr [ann, bo])]
    let friends : PathStep := .mapKey (.str "friends")
    let fromStart : Path := [friends, .listIndex 1, .mapKey (.int 7)]
    let fromEnd : Path := [friends, .listIndex (-1), .mapKey (.str "7")]
    resolve fromStart root = some (.str "seven") ∧ Json.PartOf (.str "seven") root ∧
      (PathStep.position 2 .minValue).toInt = 2 + Int64.minValue.toInt ∧
      PathStep.resolve (.listIndex .minValue) (.arr [ann, bo]) = none ∧
      PathStep.resolve (.listIndex (-1)) (.arr [ann, bo]) = some bo ∧
      Respelled root fromStart fromEnd ∧ resolve fromStart root = resolve fromEnd root := by
  intro ann bo root friends fromStart fromEnd
  obtain ⟨-, partOf, positions, respelled⟩ := walk_stays_in_document
  have found : resolve fromStart root = some (.str "seven") := rfl
  obtain ⟨least, -, none⟩ := positions [ann, bo] .minValue (by decide)
  obtain ⟨-, some, -⟩ := positions [ann, bo] (-1) (by decide)
  have counted : Respelling root fromStart [friends, .listIndex (-1), .mapKey (.int 7)] :=
    .fromEnd [friends] [.mapKey (.int 7)] rfl (by decide) (by decide)
  have text : Respelling root [friends, .listIndex (-1), .mapKey (.int 7)] fromEnd :=
    .integerKey [friends, .listIndex (-1)] [] 7
  have same : Respelled root fromStart fromEnd := .trans _ _ _ (.rel _ _ counted) (.rel _ _ text)
  exact ⟨found, partOf _ _ _ found, least, none (.inl (by decide)),
    some 1 (by decide) (.inr (by decide)), same, respelled _ _ _ same⟩

end Path

end StoreQuery
