import Mathlib.Data.List.Forall2
import StoreQuery.Regex.Posix

namespace StoreQuery.Regex

theorem tokens?_nil (s : Spacing) : tokens? s [] = some [] := by
  have visible : skip s.now [] = [] := by cases s.now <;> rfl
  rw [tokens?, visible, if_pos rfl]

theorem tokens?_of_next? {around : List Bool} {cs rest : List Char} {t : Token}
    (h : next? false cs = some (t, rest)) (shorter : rest.length < cs.length) :
    tokens? ⟨false, around⟩ cs =
      (tokens? (Spacing.after ⟨false, around⟩ t) rest).map (t :: ·) := by
  have nonempty : cs ≠ [] := by
    rintro rfl
    exact absurd shorter (Nat.not_lt_zero _)
  rw [tokens?]
  simp [nonempty, h, shorter]

theorem tokens?_eq_none {around : List Bool} {cs : List Char} (nonempty : cs ≠ [])
    (h : next? false cs = none) : tokens? ⟨false, around⟩ cs = none := by
  rw [tokens?]
  simp [nonempty, h]

/-- A character that has a meaning of its own is no letter, so it loses it after a backslash. -/
theorem escape?_of_isMeta (spaced : Bool) {c : Char} (h : isMeta c) (rest : List Char) :
    escape? spaced (c :: rest) = some (.literal c, rest) := by
  have letters : c ∉ "dDwWsSpPxuUaftnrvAzbB<>".toList := by
    intro mem
    have plain : "dDwWsSpPxuUaftnrvAzbB<>".toList.all fun c => !isMeta c := by decide
    simpa [h] using List.all_eq_true.1 plain c mem
  unfold escape?
  split <;> simp_all [isEscapable]

theorem next?_of_not_isMeta {c : Char} (h : isMeta c = false) (rest : List Char) :
    next? false (c :: rest) = some (.char c, rest) := by
  unfold next?
  split <;> simp_all [isMeta]

theorem next?_literal (c : Char) (rest : List Char) :
    next? false (literal c ++ rest) = some (.char c, rest) := by
  cases meta? : isMeta c with
  | true =>
    simp [literal, meta?, next?, escape?_of_isMeta false meta?, Escape.token]
  | false => simpa [literal, meta?] using next?_of_not_isMeta meta? rest

theorem length_literal_pos (c : Char) : 0 < (literal c).length := by
  rw [literal]
  split <;> simp

@[simp] theorem after_char (s : Spacing) (c : Char) : s.after (.char c) = s := rfl

theorem tokens?_literals (around : List Bool) (s rest : List Char) :
    tokens? ⟨false, around⟩ (s.flatMap literal ++ rest) =
      (tokens? ⟨false, around⟩ rest).map (s.map Token.char ++ ·) := by
  induction s with
  | nil => simp
  | cons c s ih =>
    have shorter : (s.flatMap literal ++ rest).length <
        (literal c ++ (s.flatMap literal ++ rest)).length := by
      have := length_literal_pos c
      simp only [List.length_append]
      omega
    rw [List.flatMap_cons, List.append_assoc, tokens?_of_next? (next?_literal c _) shorter,
      after_char, ih]
    simp [Function.comp_def]

theorem tokens?_caret (rest : List Char) :
    tokens? ⟨false, []⟩ ('^' :: rest) = (tokens? ⟨false, []⟩ rest).map (.caret :: ·) :=
  tokens?_of_next? rfl (Nat.lt_succ_self _)

theorem tokens?_dollar : tokens? ⟨false, []⟩ ['$'] = some [.dollar] := by
  have next : next? false ['$'] = some (.dollar, []) := rfl
  rw [tokens?_of_next? next (by decide), tokens?_nil, Option.map_some]

/-- A token that adds a part of its own, and does nothing else. The part leaves a level for the
sequence it is in. -/
structure Adds (f : Flags) (t : Token) (p : Part) : Prop where
  unnamed : groupName? t = none
  shallow : p.depth < 250
  step : ∀ s : Reader, s.flags = f → s.step? t = s.push p

theorem adds_char {f : Flags} (unicode : f.unicode) (c : Char) :
    Adds f (.char c) (.ofSet (f.fold (.single c)) 0) where
  unnamed := rfl
  shallow := Nat.succ_pos _
  step s same := by simp [Reader.step?, Reader.char?, Reader.pushSet, same, unicode]

theorem adds_caret {f : Flags} (single : f.multiLine = false) :
    Adds f .caret (.look .textStart) where
  unnamed := rfl
  shallow := Nat.succ_pos _
  step s same := by simp [Reader.step?, same, single]

theorem adds_dollar {f : Flags} (single : f.multiLine = false) :
    Adds f .dollar (.look .textEnd) where
  unnamed := rfl
  shallow := Nat.succ_pos _
  step s same := by simp [Reader.step?, same, single]

def Reader.pushAll (s : Reader) (ps : List Part) : Reader :=
  { s with current := { s.current with pieces := (ps.map .part).reverse ++ s.current.pieces } }

theorem push_of_le (s : Reader) {p : Part} (h : p.depth ≤ 250) :
    s.push p = some (s.pushAll [p]) := by
  simp [Reader.push, Part.check, h, Reader.pushAll, Group.push]

theorem pushAll_pushAll (s : Reader) (ps qs : List Part) :
    (s.pushAll ps).pushAll qs = s.pushAll (ps ++ qs) := by
  simp [Reader.pushAll]

structure Makes (f : Flags) (ts : List Token) (ps : List Part) : Prop where
  unnamed : ts.filterMap groupName? = []
  shallow : ∀ p ∈ ps, p.depth < 250
  steps : ∀ s : Reader, s.flags = f → ts.foldlM Reader.step? s = some (s.pushAll ps)

section Makes

variable {f : Flags} {ts us : List Token} {t : Token} {p : Part} {ps qs : List Part}

theorem makes_nil : Makes f [] [] where
  unnamed := rfl
  shallow := nofun
  steps _ _ := rfl

theorem Makes.append (first : Makes f ts ps) (second : Makes f us qs) :
    Makes f (ts ++ us) (ps ++ qs) where
  unnamed := by rw [List.filterMap_append, first.unnamed, second.unnamed, List.append_nil]
  shallow := List.forall_mem_append.2 ⟨first.shallow, second.shallow⟩
  steps s same := by
    have after := second.steps (s.pushAll ps) same
    rw [List.foldlM_append, first.steps s same, Option.bind_eq_bind, Option.bind_some, after,
      pushAll_pushAll]

theorem Adds.makes (adds : Adds f t p) : Makes f [t] [p] where
  unnamed := by simp [adds.unnamed]
  shallow := List.forall_mem_singleton.2 adds.shallow
  steps s same := by
    rw [List.foldlM_cons, adds.step s same, push_of_le s (Nat.le_of_lt adds.shallow)]
    rfl

theorem Makes.star (plain : f.swapGreed = false) (makes : Makes f ts [p])
    (shallow : p.depth < 249) :
    Makes f (ts ++ [.repeat 0 none false]) [p.repeated 0 none false] where
  unnamed := by rw [List.filterMap_append, makes.unnamed]; rfl
  shallow := List.forall_mem_singleton.2 (Nat.succ_lt_succ shallow)
  steps s same := by
    have last : (s.pushAll [p]).step? (.repeat 0 none false) =
        s.push (p.repeated 0 none false) := by
      have kept : (false != s.flags.swapGreed) = false := by rw [same, plain]; rfl
      simp only [Reader.step?, Reader.pushAll, List.map_cons, List.map_nil, List.reverse_singleton,
        List.singleton_append, kept]
    have room : (p.repeated 0 none false).depth ≤ 250 := Nat.le_succ_of_le shallow
    rw [List.foldlM_append, makes.steps s same, Option.bind_eq_bind, Option.bind_some,
      List.foldlM_cons, last, push_of_le s room]
    rfl

theorem makes_of_adds (h : ts.Forall₂ (Adds f) ps) : Makes f ts ps := by
  induction h with
  | nil => exact makes_nil
  | cons adds _ ih => exact adds.makes.append ih

end Makes

theorem deepest_le {ps : List Part} {limit : Nat} (shallow : ∀ p ∈ ps, p.depth ≤ limit) :
    Part.deepest ps ≤ limit := by
  have bounded (ds : List Nat) (start : Nat) (low : start ≤ limit) (each : ∀ d ∈ ds, d ≤ limit) :
      ds.foldl max start ≤ limit := by
    induction ds generalizing start with
    | nil => exact low
    | cons d ds ih =>
      obtain ⟨first, rest⟩ := List.forall_mem_cons.1 each
      exact ih _ (Nat.max_le.2 ⟨low, first⟩) rest
  exact bounded _ 0 (Nat.zero_le _) (List.forall_mem_map.2 shallow)

theorem ofTokens?_makes {icase : Bool} {ts : List Token} {ps : List Part}
    (h : Makes { icase } ts ps) :
    ∃ p, Part.ofTokens? icase ts = some p ∧ p.regex = ofSequence (ps.map Part.regex) ∧
      p.outline = .ofSequence (ps.map Part.outline) := by
  have shallow : Part.deepest ps ≤ 249 :=
    deepest_le fun p mem => Nat.le_of_lt_succ (h.shallow p mem)
  have read := h.steps (.ofFlags { icase }) rfl
  set s := (Reader.ofFlags { icase }).pushAll ps with pushed
  have parts : s.current.pieces.reverse.filterMap Piece.part? = ps := by
    have kept : (fun p => (Piece.part p).part?) = some := rfl
    simp [pushed, Reader.pushAll, Reader.ofFlags, kept]
  have closed : s.current.close = s.current.sequence := rfl
  have depth : s.current.sequence.depth ≤ 250 := by
    simp only [Group.sequence, parts]
    split <;> omega
  refine ⟨s.current.close, ?_, ?_, ?_⟩
  · have around : s.around = [] := rfl
    simp [Part.ofTokens?, h.unnamed, isDistinct, read, around, closed, Part.check, depth]
  · simp only [closed, Group.sequence, parts]
  · simp only [closed, Group.sequence, parts]

end StoreQuery.Regex
