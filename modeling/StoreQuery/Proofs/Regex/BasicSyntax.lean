import Mathlib.Data.List.Forall2
import StoreQuery.Proofs.Text.Folding

namespace StoreQuery

inductive BasicPattern.Atom
  | char (c : Char)
  | any
  deriving DecidableEq

structure BasicPattern.Item where
  atom : Atom
  starred : Bool
  deriving DecidableEq

structure BasicPattern where
  atStart : Bool
  items : List BasicPattern.Item
  atEnd : Bool
  deriving DecidableEq

namespace BasicPattern

/-- What comes first in a pattern, and what follows it. A backslash makes the next character a
plain one; a dollar sign in the last place is an anchor. -/
inductive Begins : List Char → Atom → List Char → Prop
  | quoted (c : Char) (rest : List Char) : Begins ('\\' :: c :: rest) (.char c) rest
  | dot (rest : List Char) : Begins ('.' :: rest) .any rest
  | plain (c : Char) (rest : List Char) (noDot : c ≠ '.') (quotesNothing : c = '\\' → rest = [])
      (noAnchor : c = '$' → rest ≠ []) : Begins (c :: rest) (.char c) rest

/-- The items of a pattern, and whether it is anchored at the end. A star repeats the item before
it. Where none is left to repeat, a star is an item itself. -/
inductive Continues : List Char → List Item → Bool → Prop
  | stop : Continues [] [] false
  | anchor : Continues ['$'] [] true
  | starred {cs rest : List Char} {a : Atom} {items : List Item} {atEnd : Bool}
      (first : Begins cs a ('*' :: rest)) (next : Continues rest items atEnd) :
      Continues cs (⟨a, true⟩ :: items) atEnd
  | once {cs rest : List Char} {a : Atom} {items : List Item} {atEnd : Bool}
      (first : Begins cs a rest) (noStar : rest.head? ≠ some '*')
      (next : Continues rest items atEnd) : Continues cs (⟨a, false⟩ :: items) atEnd

/-- A caret is an anchor in the first place only. -/
inductive Reads : List Char → BasicPattern → Prop
  | anchored {cs : List Char} {items : List Item} {atEnd : Bool}
      (body : Continues cs items atEnd) : Reads ('^' :: cs) ⟨true, items, atEnd⟩
  | free {cs : List Char} {items : List Item} {atEnd : Bool} (noCaret : cs.head? ≠ some '^')
      (body : Continues cs items atEnd) : Reads cs ⟨false, items, atEnd⟩

section Matching

variable (ignoreCase : Bool)

def Atom.Takes : Atom → Char → Prop
  | .char c, d => Text.caseKey ignoreCase d = Text.caseKey ignoreCase c
  | .any, d => d ≠ '\n'

def Item.Takes (i : Item) (v : List Char) : Prop :=
  (∀ c ∈ v, i.atom.Takes ignoreCase c) ∧ (i.starred = false → v.length = 1)

def FoundIn (p : BasicPattern) (text : List Char) : Prop :=
  ∃ before parts after, text = before ++ parts.flatten ++ after ∧
    p.items.Forall₂ (Item.Takes ignoreCase) parts ∧
    (p.atStart → before = []) ∧ (p.atEnd → after = [])

end Matching

variable {cs rest rest' : List Char} {a a' : Atom} {items items' : List Item} {atEnd atEnd' : Bool}

theorem Begins.unique (h : Begins cs a rest) (h' : Begins cs a' rest') : a = a' ∧ rest = rest' := by
  cases h with
  | quoted c rest =>
    cases h' with
    | quoted => exact ⟨rfl, rfl⟩
    | plain _ _ _ quotesNothing => cases quotesNothing rfl
  | dot rest =>
    cases h' with
    | dot => exact ⟨rfl, rfl⟩
    | plain _ _ noDot => exact absurd rfl noDot
  | plain c rest noDot quotesNothing =>
    cases h' with
    | quoted => cases quotesNothing rfl
    | dot => exact absurd rfl noDot
    | plain => exact ⟨rfl, rfl⟩

theorem Begins.length_lt (h : Begins cs a rest) : rest.length < cs.length := by
  cases h <;> simp only [List.length_cons] <;> omega

theorem not_begins_nil : ¬Begins [] a rest := nofun

theorem not_begins_dollar : ¬Begins ['$'] a rest := by
  intro h
  cases h with
  | plain _ _ _ _ noAnchor => exact noAnchor rfl rfl

theorem Continues.unique (h : Continues cs items atEnd) (h' : Continues cs items' atEnd') :
    items = items' ∧ atEnd = atEnd' := by
  induction h generalizing items' atEnd' with
  | stop =>
    cases h' with
    | stop => exact ⟨rfl, rfl⟩
    | starred first | once first => exact absurd first not_begins_nil
  | anchor =>
    cases h' with
    | anchor => exact ⟨rfl, rfl⟩
    | starred first | once first => exact absurd first not_begins_dollar
  | starred first _ ih =>
    cases h' with
    | stop => exact absurd first not_begins_nil
    | anchor => exact absurd first not_begins_dollar
    | starred first' next' =>
      obtain ⟨rfl, same⟩ := first.unique first'
      cases same
      obtain ⟨rfl, rfl⟩ := ih next'
      exact ⟨rfl, rfl⟩
    | once first' noStar =>
      obtain ⟨-, rfl⟩ := first.unique first'
      exact absurd rfl noStar
  | once first noStar _ ih =>
    cases h' with
    | stop => exact absurd first not_begins_nil
    | anchor => exact absurd first not_begins_dollar
    | starred first' =>
      obtain ⟨-, rfl⟩ := first.unique first'
      exact absurd rfl noStar
    | once first' _ next' =>
      obtain ⟨rfl, rfl⟩ := first.unique first'
      obtain ⟨rfl, rfl⟩ := ih next'
      exact ⟨rfl, rfl⟩

theorem Reads.unique {p q : BasicPattern} (h : Reads cs p) (h' : Reads cs q) : p = q := by
  cases h with
  | anchored body =>
    cases h' with
    | anchored body' =>
      obtain ⟨rfl, rfl⟩ := body.unique body'
      rfl
    | free noCaret => exact absurd rfl noCaret
  | free noCaret body =>
    cases h' with
    | anchored => exact absurd rfl noCaret
    | free _ body' =>
      obtain ⟨rfl, rfl⟩ := body.unique body'
      rfl

theorem exists_begins {c : Char} (noAnchor : c = '$' → rest ≠ []) :
    ∃ a rest', Begins (c :: rest) a rest' := by
  by_cases dot : c = '.'
  · exact ⟨.any, rest, dot ▸ .dot rest⟩
  by_cases quotesNothing : c = '\\' → rest = []
  · exact ⟨_, _, .plain c rest dot quotesNothing noAnchor⟩
  · obtain ⟨rfl, quotes⟩ := Classical.not_imp.1 quotesNothing
    obtain ⟨d, rest, rfl⟩ := List.exists_cons_of_ne_nil quotes
    exact ⟨_, _, .quoted d rest⟩

theorem exists_continues (cs : List Char) : ∃ items atEnd, Continues cs items atEnd := by
  match cs with
  | [] => exact ⟨_, _, .stop⟩
  | c :: cs =>
    by_cases anchor : c = '$' ∧ cs = []
    · obtain ⟨rfl, rfl⟩ := anchor
      exact ⟨_, _, .anchor⟩
    obtain ⟨a, rest, first⟩ := exists_begins (not_and.1 anchor)
    have shorter := first.length_lt
    by_cases star : rest.head? = some '*'
    · obtain ⟨rest, rfl⟩ := List.head?_eq_some_iff.1 star
      have further := Nat.lt_of_succ_lt shorter
      obtain ⟨items, atEnd, next⟩ := exists_continues rest
      exact ⟨_, _, .starred first next⟩
    · obtain ⟨items, atEnd, next⟩ := exists_continues rest
      exact ⟨_, _, .once first star next⟩
termination_by cs.length
decreasing_by
  · exact further
  · exact shorter

theorem exists_reads (cs : List Char) : ∃ p, Reads cs p := by
  by_cases noCaret : cs.head? = some '^'
  · obtain ⟨rest, rfl⟩ := List.head?_eq_some_iff.1 noCaret
    obtain ⟨items, atEnd, body⟩ := exists_continues rest
    exact ⟨_, .anchored body⟩
  · obtain ⟨items, atEnd, body⟩ := exists_continues cs
    exact ⟨_, .free noCaret body⟩

end BasicPattern

end StoreQuery
