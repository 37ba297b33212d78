import StoreQuery.Proofs.Regex.Parse
import StoreQuery.Proofs.Regex.Spans
import StoreQuery.Proofs.Text.Folding

namespace StoreQuery

inductive Place
  | start
  | stop
  | whole
  | anywhere

namespace Place

def Holds : Place → List Char → List Char → Prop
  | .start, s, t => s <+: t
  | .stop, s, t => s <:+ t
  | .whole, s, t => s = t
  | .anywhere, s, t => s <:+: t

instance : (p : Place) → (s t : List Char) → Decidable (p.Holds s t)
  | .start, s, t => inferInstanceAs (Decidable (s <+: t))
  | .stop, s, t => inferInstanceAs (Decidable (s <:+ t))
  | .whole, s, t => inferInstanceAs (Decidable (s = t))
  | .anywhere, s, t => inferInstanceAs (Decidable (s <:+: t))

def atStart : Place → Bool
  | .start => true
  | .stop => false
  | .whole => true
  | .anywhere => false

def atEnd : Place → Bool
  | .start => false
  | .stop => true
  | .whole => true
  | .anywhere => false

theorem holds_iff (p : Place) (s t : List Char) :
    p.Holds s t ↔ ∃ i ≤ t.length, s <+: t.drop i ∧ (p.atStart → i = 0) ∧
      (p.atEnd → i + s.length = t.length) := by
  cases p with
  | start => simp [Holds, atStart, atEnd]
  | stop =>
    simp only [Holds, atStart, atEnd]
    constructor
    · rintro ⟨before, rfl⟩
      exact ⟨before.length, by simp, by simp, by simp, by simp⟩
    · rintro ⟨i, _, ⟨after, rest⟩, _, length⟩
      have lengths := congrArg List.length rest
      simp only [List.length_append, List.length_drop] at lengths
      have none : after = [] := List.eq_nil_of_length_eq_zero (by have := length trivial; omega)
      exact ⟨t.take i, by rw [← List.append_nil s, ← none, rest, List.take_append_drop]⟩
  | whole =>
    simp only [Holds, atStart, atEnd]
    constructor
    · rintro rfl
      exact ⟨0, Nat.zero_le _, by simp, fun _ => rfl, by simp⟩
    · rintro ⟨i, _, found, first, length⟩
      obtain rfl := first trivial
      exact found.eq_of_length (by simpa using length trivial)
  | anywhere =>
    simp only [Holds, atStart, atEnd]
    constructor
    · rintro ⟨before, after, rfl⟩
      exact ⟨before.length, by simp, by simp, by simp, by simp⟩
    · rintro ⟨i, _, found, _, _⟩
      exact found.isInfix.trans (List.drop_suffix i t).isInfix

end Place

namespace Regex

theorem extend_escaped (atStart repeatable : Bool) (c : Char) (rest : List Char) :
    extend atStart repeatable 0 ((if isBasicSpecial c then ['\\', c] else [c]) ++ rest) =
      literal c ++ extend false true 0 rest := by
  split
  next => simp [extend]
  next plain =>
    simp only [isBasicSpecial, List.contains_iff_mem, List.mem_cons, List.not_mem_nil, or_false,
      not_or] at plain
    obtain ⟨backslash, dot, star, dollar, bracket, caret⟩ := plain
    rw [List.singleton_append, extend]
    · simp [dot, star, dollar, bracket, caret]
    · exact fun _ _ same _ => backslash same

theorem extend_escapeBasic (s rest : List Char)
    (fixed : ∀ atStart repeatable, extend atStart repeatable 0 rest = rest)
    (atStart repeatable : Bool) :
    extend atStart repeatable 0 (escapeBasic s ++ rest) = s.flatMap literal ++ rest := by
  induction s generalizing atStart repeatable with
  | nil => exact fixed atStart repeatable
  | cons c s ih =>
    rw [escapeBasic, List.flatMap_cons, List.append_assoc, extend_escaped, ← escapeBasic, ih,
      List.flatMap_cons, List.append_assoc]

theorem basicToExtended_framed (atStart atEnd : Bool) (s : List Char) :
    basicToExtended (framed atStart atEnd '^' '$' (escapeBasic s)) =
      framed atStart atEnd '^' '$' (s.flatMap literal) := by
  have open_ := extend_escapeBasic s [] (fun _ _ => by rw [extend])
  have closed := extend_escapeBasic s ['$'] (fun _ _ => by simp [extend])
  rw [List.append_nil] at open_
  cases atStart <;> cases atEnd <;> simp [basicToExtended, framed, extend, open_, closed]

/-- No question mark follows the body: only the end of the pattern or an anchor does. -/
theorem tokens?_framed {body : List Char} {ts : List Token}
    (reads : ∀ rest : List Char, rest.head? ≠ some '?' → tokens? ⟨false, []⟩ (body ++ rest) =
      (tokens? ⟨false, []⟩ rest).map (ts ++ ·)) (atStart atEnd : Bool) :
    tokens? ⟨false, []⟩ (framed atStart atEnd '^' '$' body) =
      some (framed atStart atEnd .caret .dollar ts) := by
  have closing : tokens? ⟨false, []⟩ (body ++ if atEnd then ['$'] else []) =
      some (ts ++ if atEnd then [.dollar] else []) := by
    cases atEnd with
    | false =>
      rw [reads _ (by simp), if_neg Bool.false_ne_true, tokens?_nil]
      rfl
    | true =>
      rw [if_pos rfl, reads _ (by simp), tokens?_dollar]
      rfl
  rw [framed, framed]
  cases atStart with
  | false => exact closing
  | true =>
    rw [if_pos rfl, if_pos rfl, List.singleton_append, tokens?_caret, closing]
    rfl

def literalParts (f : Flags) (p : Place) (s : List Char) : List Part :=
  framed p.atStart p.atEnd (.look .textStart) (.look .textEnd)
    (s.map fun c => .ofSet (f.fold (.single c)) 0)

theorem map_outline_literalParts (f : Flags) (p : Place) (s : List Char) :
    (literalParts f p s).map Part.outline =
      framed p.atStart p.atEnd (.look .textStart) (.look .textEnd)
        (s.map fun c => .ofSet (f.fold (.single c))) := by
  rw [literalParts, map_framed, List.map_map]
  rfl

theorem ofPattern?_literal (icase : Bool) (p : Place) (s : List Char) :
    ∃ part, Part.ofPattern? icase
        (basicToExtended (framed p.atStart p.atEnd '^' '$' (escapeBasic s))) = some part ∧
      part.regex = ofSequence ((literalParts { icase } p s).map Part.regex) ∧
      part.outline = .ofSequence ((literalParts { icase } p s).map Part.outline) := by
  rw [Part.ofPattern?, basicToExtended_framed,
    tokens?_framed (fun rest _ => tokens?_literals [] s rest), Option.bind_some]
  apply ofTokens?_makes
  apply makes_of_adds
  apply forall₂_framed (adds_caret rfl) (adds_dollar rfl)
  rw [List.forall₂_map_left_iff, List.forall₂_map_right_iff, List.forall₂_same]
  exact fun c _ => adds_char rfl c

theorem spans_literal {α : Type} (key : Char → α) (set : Char → CharSet)
    (sees : ∀ c d, (set c).contains d ↔ key d = key c) (p : Place) (s text : List Char)
    {i j : Nat} (inside : i ≤ text.length) :
    (ofSequence (framed p.atStart p.atEnd (.look .textStart) (.look .textEnd)
        (s.map fun c => .set (set c)))).Spans text i j ↔
      j = i + s.length ∧ s.map key <+: (text.map key).drop i ∧ (p.atStart → i = 0) ∧
        (p.atEnd → i + s.length = text.length) := by
  rw [spans_framed _ _ _ inside, spans_sets key set sees s inside, and_assoc]
  refine and_congr_right fun ends => ?_
  rw [ends]

theorem contains_fold_single (icase : Bool) (c d : Char) :
    (Flags.fold { icase } (.single c)).contains d ↔
      Text.caseKey icase d = Text.caseKey icase c := by
  cases icase with
  | true => exact CharSet.contains_folded_single c d
  | false => exact CharSet.contains_single c d

theorem isMatch_literalParts (icase : Bool) (p : Place) (s : List Char) (text : String) :
    (ofSequence ((literalParts { icase } p s).map Part.regex)).isMatch text ↔
      p.Holds (s.map (Text.caseKey icase)) (text.toList.map (Text.caseKey icase)) := by
  have sees := contains_fold_single icase
  rw [literalParts, map_framed, List.map_map, isMatch_iff, Place.holds_iff]
  constructor
  · rintro ⟨i, j, inside, spans⟩
    obtain ⟨_, found, first, last⟩ := (spans_literal _ _ sees p s _ inside).1 spans
    exact ⟨i, by simpa using inside, found, first, by simpa using last⟩
  · rintro ⟨i, inside, found, first, last⟩
    rw [List.length_map] at inside
    exact ⟨i, i + s.length, inside, (spans_literal _ _ sees p s _ inside).2
      ⟨rfl, found, first, by simpa using last⟩⟩

end Regex

end StoreQuery
