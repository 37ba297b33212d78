import StoreQuery.Proofs.Regex.BasicSyntax
import StoreQuery.Proofs.Regex.Denotation
import StoreQuery.Proofs.Regex.Limit
import StoreQuery.Proofs.Expr.Holds

namespace StoreQuery.BasicPattern

open Regex

variable {cs rest : List Char} {a : Atom} {items : List Item} {atEnd : Bool} {p : BasicPattern}

def Atom.extended : Atom → List Char
  | .char c => literal c
  | .any => ['.']

def Item.extended (i : Item) : List Char := i.atom.extended ++ if i.starred then ['*'] else []

theorem extend_begins (h : Begins cs a rest) (plain : '[' ∉ cs) (repeatable : Bool)
    (star : repeatable → cs.head? ≠ some '*') :
    extend false repeatable 0 cs = a.extended ++ extend false true 0 rest := by
  cases h with
  | quoted c rest => simp [extend, Atom.extended]
  | dot rest => simp [extend, Atom.extended]
  | plain c rest noDot quotesNothing noAnchor =>
    have noBracket : c ≠ '[' := by
      rintro rfl
      exact plain List.mem_cons_self
    have literalStar : ¬(c = '*' ∧ repeatable) := by
      rintro ⟨rfl, repeats⟩
      exact star repeats rfl
    have literalDollar : ¬(c = '$' ∧ rest = []) := not_and.2 noAnchor
    rw [extend]
    · simp [noDot, noBracket, literalStar, literalDollar, Atom.extended]
    · rintro d rest same rfl
      cases quotesNothing same

theorem Begins.mem {c : Char} (h : Begins cs a rest) (mem : c ∈ rest) : c ∈ cs := by
  cases h with
  | quoted => exact List.mem_cons_of_mem _ (List.mem_cons_of_mem _ mem)
  | dot | plain => exact List.mem_cons_of_mem _ mem

/-- Only a star that follows something to repeat is one that repeats, and none is left there. -/
theorem extend_continues (h : Continues cs items atEnd) (plain : '[' ∉ cs) (repeatable : Bool)
    (star : repeatable → cs.head? ≠ some '*') :
    extend false repeatable 0 cs =
      items.flatMap Item.extended ++ if atEnd then ['$'] else [] := by
  induction h generalizing repeatable with
  | stop => rfl
  | anchor => rfl
  | starred first next ih =>
    have others := ih (fun mem => plain (first.mem (List.mem_cons_of_mem _ mem))) false nofun
    rw [extend_begins first plain _ star, List.flatMap_cons, Item.extended]
    simp [extend, others]
  | once first noStar next ih =>
    have others := ih (fun mem => plain (first.mem mem)) true fun _ => noStar
    rw [extend_begins first plain _ star, others, List.flatMap_cons, Item.extended]
    simp

theorem extend_atStart (noCaret : cs.head? ≠ some '^') (repeatable : Bool) :
    extend true repeatable 0 cs = extend false repeatable 0 cs := by
  rw [extend.eq_def, extend.eq_def false]
  split <;> simp_all

theorem basicToExtended_of_reads (h : Reads cs p) (plain : '[' ∉ cs) :
    basicToExtended cs = framed p.atStart p.atEnd '^' '$' (p.items.flatMap Item.extended) := by
  rw [basicToExtended]
  cases h with
  | anchored body =>
    have noSet : '[' ∉ _ := fun mem => plain (List.mem_cons_of_mem _ mem)
    have rest := extend_continues body noSet false (by simp)
    simp [extend, rest, framed]
  | free noCaret body =>
    rw [extend_atStart noCaret, extend_continues body plain false (by simp)]
    rfl

def Atom.token : Atom → Token
  | .char c => .char c
  | .any => .any

def Item.tokens (i : Item) : List Token :=
  i.atom.token :: if i.starred then [.repeat 0 none false] else []

theorem next?_atom (a : Atom) (rest : List Char) :
    next? false (a.extended ++ rest) = some (a.token, rest) := by
  cases a with
  | char c => exact next?_literal c rest
  | any => rfl

theorem length_atom_pos (a : Atom) : 0 < a.extended.length := by
  cases a with
  | char c => exact length_literal_pos c
  | any => exact Nat.one_pos

theorem tokens?_atom (a : Atom) (rest : List Char) :
    tokens? ⟨false, []⟩ (a.extended ++ rest) =
      (tokens? ⟨false, []⟩ rest).map (a.token :: ·) := by
  have shorter : rest.length < (a.extended ++ rest).length := by
    have := length_atom_pos a
    rw [List.length_append]
    omega
  rw [tokens?_of_next? (next?_atom a rest) shorter]
  cases a <;> rfl

theorem tokens?_star (notLazy : rest.head? ≠ some '?') :
    tokens? ⟨false, []⟩ ('*' :: rest) =
      (tokens? ⟨false, []⟩ rest).map (.repeat 0 none false :: ·) := by
  have next : next? false ('*' :: rest) = some (.repeat 0 none false, rest) := by
    simp only [next?]
    unfold repetition
    split
    · exact absurd rfl notLazy
    · rfl
  exact tokens?_of_next? next (Nat.lt_succ_self _)

theorem head?_extended (i : Item) (rest : List Char) :
    (i.extended ++ rest).head? ≠ some '?' := by
  obtain ⟨a, starred⟩ := i
  cases a with
  | char c =>
    simp only [Item.extended, Atom.extended, literal]
    split
    next => simp
    next plain =>
      have other : c ≠ '?' := by
        rintro rfl
        exact plain rfl
      simpa using other
  | any => simp [Item.extended, Atom.extended]

theorem tokens?_items (items : List Item) (notLazy : rest.head? ≠ some '?') :
    tokens? ⟨false, []⟩ (items.flatMap Item.extended ++ rest) =
      (tokens? ⟨false, []⟩ rest).map (items.flatMap Item.tokens ++ ·) := by
  induction items with
  | nil => simp
  | cons i items ih =>
    have notLazyRest : (items.flatMap Item.extended ++ rest).head? ≠ some '?' := by
      cases items with
      | nil => exact notLazy
      | cons j items =>
        rw [List.flatMap_cons, List.append_assoc]
        exact head?_extended j _
    rw [List.flatMap_cons, Item.extended, List.append_assoc, List.append_assoc, tokens?_atom]
    cases starred : i.starred with
    | false => simp [ih, Item.tokens, starred, Function.comp_def]
    | true => simp [tokens?_star notLazyRest, ih, Item.tokens, starred, Function.comp_def]

def tokens (p : BasicPattern) : List Token :=
  framed p.atStart p.atEnd .caret .dollar (p.items.flatMap Item.tokens)

section Parts

variable (ignoreCase : Bool)

def Atom.set : Atom → CharSet
  | .char c => Flags.fold { icase := ignoreCase } (.single c)
  | .any => (CharSet.single '\n').compl

def Item.part (i : Item) : Part :=
  let one := Part.ofSet (i.atom.set ignoreCase) 0
  if i.starred then one.repeated 0 none false else one

def parts (p : BasicPattern) : List Part :=
  framed p.atStart p.atEnd (.look .textStart) (.look .textEnd)
    (p.items.map (Item.part ignoreCase))

end Parts

theorem adds_atom (ignoreCase : Bool) (a : Atom) :
    Adds { icase := ignoreCase } a.token (.ofSet (a.set ignoreCase) 0) := by
  cases a with
  | char c => exact adds_char rfl c
  | any =>
    refine ⟨rfl, Nat.succ_pos _, fun s same => ?_⟩
    simp [Atom.token, Atom.set, Reader.step?, Reader.any?, Reader.pushSet, same]

theorem makes_item (ignoreCase : Bool) (i : Item) :
    Makes { icase := ignoreCase } i.tokens [i.part ignoreCase] := by
  have one := (adds_atom ignoreCase i.atom).makes
  rw [Item.tokens, Item.part]
  cases i.starred with
  | false => exact one
  | true => exact one.star rfl (Nat.succ_pos _)

theorem makes_items (ignoreCase : Bool) (items : List Item) :
    Makes { icase := ignoreCase } (items.flatMap Item.tokens)
      (items.map (Item.part ignoreCase)) := by
  induction items with
  | nil => exact makes_nil
  | cons i items ih => exact (makes_item ignoreCase i).append ih

theorem makes_anchor {f : Flags} (anchored : Bool) {t : Token} {q : Part} (adds : Adds f t q) :
    Makes f (if anchored then [t] else []) (if anchored then [q] else []) := by
  cases anchored with
  | false => exact makes_nil
  | true => exact adds.makes

theorem makes_tokens (ignoreCase : Bool) (p : BasicPattern) :
    Makes { icase := ignoreCase } p.tokens (p.parts ignoreCase) :=
  (makes_anchor p.atStart (adds_caret rfl)).append
    ((makes_items ignoreCase p.items).append (makes_anchor p.atEnd (adds_dollar rfl)))

theorem ofPattern?_of_reads (ignoreCase : Bool) (h : Reads cs p) (plain : '[' ∉ cs) :
    ∃ part, Part.ofPattern? ignoreCase (basicToExtended cs) = some part ∧
      part.regex = ofSequence ((p.parts ignoreCase).map Part.regex) ∧
      part.outline = .ofSequence ((p.parts ignoreCase).map Part.outline) := by
  rw [Part.ofPattern?, basicToExtended_of_reads h plain,
    tokens?_framed fun _ notLazy => tokens?_items p.items notLazy, Option.bind_some]
  exact ofTokens?_makes (makes_tokens ignoreCase p)

theorem contains_set (ignoreCase : Bool) (a : Atom) (c : Char) :
    (a.set ignoreCase).contains c ↔ a.Takes ignoreCase c := by
  cases a with
  | char d => exact contains_fold_single ignoreCase d c
  | any =>
    exact (CharSet.contains_compl (filled_single _) c).trans (CharSet.contains_single _ c).not

theorem denotes_item (ignoreCase : Bool) (i : Item) :
    Denotes (i.part ignoreCase).regex (i.Takes ignoreCase) := by
  have one := denotes_set (contains_set ignoreCase i.atom)
  rw [Item.part]
  cases starred : i.starred with
  | false =>
    refine one.congr fun v => ?_
    constructor
    · rintro ⟨c, rfl, takes⟩
      exact ⟨List.forall_mem_singleton.2 takes, fun _ => rfl⟩
    · rintro ⟨each, single⟩
      obtain ⟨c, rfl⟩ := List.length_eq_one_iff.1 (single starred)
      exact ⟨c, rfl, List.forall_mem_singleton.1 each⟩
  | true => exact one.star.congr fun v => by simp [Item.Takes, starred]

theorem isMatch_parts (ignoreCase : Bool) (p : BasicPattern) (text : String) :
    (ofSequence ((p.parts ignoreCase).map Part.regex)).isMatch text ↔
      p.FoundIn ignoreCase text.toList := by
  have body := denotes_ofSequence fun i (_ : i ∈ p.items) => denotes_item ignoreCase i
  rw [parts, map_framed, List.map_map, isMatch_iff]
  constructor
  · rintro ⟨i, j, inside, spans⟩
    obtain ⟨found, atStart, atEnd⟩ := (spans_framed _ _ _ inside).1 spans
    obtain ⟨_, ⟨vs, taken, rfl⟩, ⟨after, rest⟩, rfl⟩ := (body _ i j inside).1 found
    refine ⟨text.toList.take i, vs, after, ?_, taken, fun anchored => ?_, fun anchored => ?_⟩
    · rw [List.append_assoc, rest, List.take_append_drop]
    · rw [atStart anchored, List.take_zero]
    · have lengths := congrArg List.length rest
      have ends := atEnd anchored
      rw [List.length_append, List.length_drop] at lengths
      exact List.eq_nil_of_length_eq_zero (by omega)
  · rintro ⟨before, vs, after, whole, taken, atStart, atEnd⟩
    have inside : before.length ≤ text.toList.length := by simp [whole]
    have found : vs.flatten <+: text.toList.drop before.length := by
      rw [whole, List.append_assoc, List.drop_left]
      exact List.prefix_append _ after
    refine ⟨before.length, before.length + vs.flatten.length, inside,
      (spans_framed _ _ _ inside).2 ⟨?_, fun anchored => ?_, fun anchored => ?_⟩⟩
    · exact (body _ _ _ inside).2 ⟨_, ⟨vs, taken, rfl⟩, found, rfl⟩
    · rw [atStart anchored, List.length_nil]
    · rw [whole, atEnd anchored, List.append_nil, List.length_append]

theorem isMatch?_of_reads (ignoreCase : Bool) {pattern : String} (h : Reads pattern.toList p)
    (plain : '[' ∉ pattern.toList) (fits : Regex.Fits ignoreCase pattern) (text : String) :
    ∃ found, PatternFlags.isMatch? { icase := ignoreCase } pattern text = some found ∧
      (found ↔ p.FoundIn ignoreCase text.toList) := by
  obtain ⟨part, made, regex, -⟩ := ofPattern?_of_reads ignoreCase h plain
  refine ⟨part.regex.isMatch text, PatternFlags.isMatch?_of_fits fits made text, ?_⟩
  rw [regex, isMatch_parts]

/-- A basic pattern without sets in brackets has one reading. Looking for it in a text always has an
answer: it is there if something is found that the reading describes. -/
theorem found_as_read (ignoreCase : Bool) {pattern text : String} {source : Operand} {r : Record}
    (plain : '[' ∉ pattern.toList) (fits : Regex.Fits ignoreCase pattern)
    (resolved : source.resolve r = some (.str text)) :
    (Expr.regex source pattern { icase := ignoreCase }).evaluate r ≠ .unknown ∧
    ∃ p, (∀ q, Reads pattern.toList q ↔ q = p) ∧
      ((Expr.regex source pattern { icase := ignoreCase }).evaluate r = .holds ↔
        p.FoundIn ignoreCase text.toList) := by
  obtain ⟨p, reads⟩ := exists_reads pattern.toList
  have only (q : BasicPattern) : Reads pattern.toList q ↔ q = p :=
    ⟨fun other => other.unique reads, fun same => same ▸ reads⟩
  obtain ⟨found, told, means⟩ := isMatch?_of_reads ignoreCase reads plain fits text
  have value : (Expr.regex source pattern { icase := ignoreCase }).evaluate r = .ofBool found := by
    rw [Expr.evaluate, resolved, Expr.evaluateRegex, told]
  rw [value]
  refine ⟨by cases found <;> decide, p, only, ?_⟩
  rw [← means]
  exact Truth.ofBool_eq_holds_iff

theorem found_as_read_of_stars :
    let pattern := "^**\\.$x*\\"
    let p : BasicPattern := ⟨true, [⟨.char '*', true⟩, ⟨.char '.', false⟩, ⟨.char '$', false⟩,
      ⟨.char 'x', true⟩, ⟨.char '\\', false⟩], false⟩
    Reads pattern.toList p ∧
      (Expr.regex (.literal (.str "**.$\\y")) pattern { icase := false }).evaluate {} = .holds := by
  intro pattern p
  have shown : pattern.toList = ['^', '*', '*', '\\', '.', '$', 'x', '*', '\\'] := by decide
  have reads : Reads pattern.toList p := by
    rw [shown]
    refine .anchored (.starred (.plain '*' _ ?_ ?_ ?_) (.once (.quoted '.' _) ?_
      (.once (.plain '$' _ ?_ ?_ ?_) ?_ (.starred (.plain 'x' _ ?_ ?_ ?_)
        (.once (.plain '\\' [] ?_ ?_ ?_) ?_ .stop)))))
    all_goals decide
  have plain : '[' ∉ pattern.toList := by decide
  have fits : Regex.Fits false pattern := by
    intro part parsed
    obtain ⟨part', parsed', -, outline⟩ := ofPattern?_of_reads false reads plain
    rw [parsed', Option.mem_some_iff] at parsed
    rw [← parsed, outline]
    decide +kernel
  have resolved : (Operand.literal (.str "**.$\\y")).resolve {} = some (.str "**.$\\y") := rfl
  obtain ⟨-, q, only, found⟩ := found_as_read false plain fits resolved
  obtain rfl := (only p).1 reads
  have parts : p.items.Forall₂ (Item.Takes false) [['*', '*'], ['.'], ['$'], [], ['\\']] := by
    simp [p, Item.Takes, Atom.Takes]
  exact ⟨reads, found.2 ⟨[], _, ['y'], rfl, parts, fun _ => rfl, nofun⟩⟩

end StoreQuery.BasicPattern
