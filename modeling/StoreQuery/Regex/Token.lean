import StoreQuery.Regex.Bracket

/-!
The tokens of a pattern in extended syntax. A set in brackets is one token. Where white space means
nothing is settled here; what the other flags mean, where tokens are put together.
-/

namespace StoreQuery.Regex

inductive GroupKind
  | plain
  | numbered
  | named (name : List Char)

inductive Token
  | char (c : Char)
  | byte (c : Char)
  | any
  | shorthand (s : Shorthand) (negated : Bool)
  | property (s : CharSet) (negated : Bool)
  | bracket (b : Bracket) (depth : Nat)
  | caret
  | dollar
  | look (a : Assertion)
  | edge (e : WordEdge)
  | bar
  | openGroup (kind : GroupKind) (flags : FlagChange)
  | closeGroup
  | setFlags (flags : FlagChange)
  | repeat (least : Nat) (most : Option Nat) (isLazy : Bool)

def isNameStart (c : Char) : Bool := c = '_' || Text.isLetter c

def isNameChar (c : Char) : Bool := ['_', '.', '[', ']'].contains c || Text.isLetterOrNumber c

def named? (rest : List Char) : Option (Token × List Char) :=
  let name := rest.takeWhile (· ≠ '>')
  match rest.dropWhile (· ≠ '>') with
  | _ :: rest =>
    if (name.head?.map isNameStart).getD false && name.all isNameChar then
      some (.openGroup (.named name) {}, rest)
    else none
  | [] => none

def group? (spaced : Bool) (rest : List Char) : Option (Token × List Char) :=
  match skip spaced rest with
  | '?' :: 'P' :: '<' :: rest => named? rest
  | '?' :: '<' :: rest =>
    if rest.head? = some '=' ∨ rest.head? = some '!' then none else named? rest
  | '?' :: rest =>
    let isEnd (c : Char) : Bool := c = ':' || c = ')'
    let letters := rest.takeWhile (!isEnd ·)
    match rest.dropWhile (!isEnd ·) with
    | ':' :: after =>
      (FlagChange.ofLetters? letters).map fun change => (.openGroup .plain change, after)
    | ')' :: after =>
      if letters = [] then none
      else (FlagChange.ofLetters? letters).map fun change => (.setFlags change, after)
    | _ => none
  | rest => some (.openGroup .numbered {}, rest)

def count? (spaced : Bool) (cs : List Char) : Option (Nat × List Char) :=
  let (digits, rest) := takeAllSpaced spaced Char.isDigit (cs.dropWhile Text.isBlank)
  let n := digits.foldl (fun n c => n * 10 + (c.toNat - '0'.toNat)) 0
  if digits = [] ∨ UInt32.size ≤ n then none else some (n, rest.dropWhile Text.isBlank)

def repetition (least : Nat) (most : Option Nat) : List Char → Token × List Char
  | '?' :: rest => (.repeat least most true, rest)
  | rest => (.repeat least most false, rest)

def counted? (spaced : Bool) (cs : List Char) : Option (Token × List Char) := do
  let (least, rest) ← count? spaced (skip spaced cs)
  match rest with
  | '\x7d' :: rest => return repetition least (some least) (skip spaced rest)
  | ',' :: rest =>
    match skip spaced rest with
    | '\x7d' :: rest => return repetition least none (skip spaced rest)
    | rest =>
      let (most, rest) ← count? spaced rest
      match rest with
      | '\x7d' :: rest =>
        if least ≤ most then return repetition least (some most) (skip spaced rest) else none
      | _ => none
  | _ => none

def Escape.token : Escape → Token
  | .literal c => .char c
  | .byte c => .byte c
  | .shorthand s negated => .shorthand s negated
  | .property s negated => .property s negated
  | .look a => .look a
  | .edge e => .edge e

def next? (spaced : Bool) : List Char → Option (Token × List Char)
  | [] => none
  | '\\' :: rest => (escape? spaced rest).map fun (e, rest) => (e.token, rest)
  | '[' :: rest =>
    let (start, rest) := OpenSet.ofStart spaced rest
    (bracket? spaced start [] rest).map fun ((b, depth), rest) => (.bracket b depth, rest)
  | '(' :: rest => group? spaced rest
  | '\x7b' :: rest => counted? spaced rest
  | '*' :: rest => some (repetition 0 none rest)
  | '+' :: rest => some (repetition 1 none rest)
  | '?' :: rest => some (repetition 0 (some 1) rest)
  | ')' :: rest => some (.closeGroup, rest)
  | '|' :: rest => some (.bar, rest)
  | '.' :: rest => some (.any, rest)
  | '^' :: rest => some (.caret, rest)
  | '$' :: rest => some (.dollar, rest)
  | c :: rest => some (.char c, rest)

/-- Whether space means nothing: now, and after each of the open groups. -/
structure Spacing where
  now : Bool
  around : List Bool

def Spacing.after (s : Spacing) : Token → Spacing
  | .openGroup _ change => ⟨change.spaced.getD s.now, s.now :: s.around⟩
  | .setFlags change => ⟨change.spaced.getD s.now, s.around⟩
  | .closeGroup =>
    match s.around with
    | outer :: around => ⟨outer, around⟩
    | [] => s
  | _ => s

def tokens? (s : Spacing) (cs : List Char) : Option (List Token) :=
  let visible := skip s.now cs
  if visible = [] then some []
  else match next? s.now visible with
    | some (token, rest) =>
      if rest.length < visible.length then (tokens? (s.after token) rest).map (token :: ·) else none
    | none => none
termination_by cs.length
decreasing_by have := length_skip_le s.now cs; grind

end StoreQuery.Regex
