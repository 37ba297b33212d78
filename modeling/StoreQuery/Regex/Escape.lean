import StoreQuery.Regex.Basic
import StoreQuery.Regex.Space
import StoreQuery.Text.Property

namespace StoreQuery.Regex

inductive Shorthand
  | digit
  | word
  | blank

def Shorthand.toSet (unicode : Bool) : Shorthand → CharSet
  | .digit => ⟨if unicode then Text.digitRanges else [(0x30, 0x39)]⟩
  | .word =>
    ⟨if unicode then Text.wordRanges else [(0x30, 0x39), (0x41, 0x5A), (0x5F, 0x5F), (0x61, 0x7A)]⟩
  | .blank => ⟨if unicode then Text.blankRanges else [(0x09, 0x0D), (0x20, 0x20)]⟩

/-- A character given by two hexadecimal digits is a byte, which matters outside Unicode. -/
inductive Escape
  | literal (c : Char)
  | byte (c : Char)
  | shorthand (s : Shorthand) (negated : Bool)
  | property (s : CharSet) (negated : Bool)
  | look (a : Assertion)
  | edge (e : WordEdge)

def isMeta (c : Char) : Bool :=
  ['\\', '.', '+', '*', '?', '(', ')', '|', '[', ']', '\x7b', '\x7d', '^', '$', '#', '&', '-',
    '~'].contains c

def isEscapable (c : Char) : Bool :=
  isMeta c || (c.toNat < 0x80 && !c.isAlphanum && c != '<' && c != '>')

def hexValue? (c : Char) : Option Nat :=
  if c.isDigit then some (c.toNat - '0'.toNat)
  else if 'a' ≤ c ∧ c ≤ 'f' then some (c.toNat - 'a'.toNat + 10)
  else if 'A' ≤ c ∧ c ≤ 'F' then some (c.toNat - 'A'.toNat + 10)
  else none

def ofHex? (digits : List Char) : Option Char := do
  if digits = [] then none
  let code ← digits.foldlM (fun n c => return n * 16 + (← hexValue? c)) 0
  if code < 0xD800 ∨ (0xDFFF < code ∧ code < 0x110000) then some (Char.ofNat code) else none

def braced? (spaced : Bool) (inner : List Char) : Option (List Char × List Char) :=
  let (content, rest) := takeAllSpaced spaced (· ≠ '\x7d') (skip spaced inner)
  match rest with
  | _ :: rest => some (content, rest)
  | [] => none

def hexEscape? (spaced : Bool) (width : Nat) (rest : List Char) : Option (Escape × List Char) :=
  match skip spaced rest with
  | '\x7b' :: inner => do
    let (digits, rest) ← braced? spaced inner
    return (.literal (← ofHex? digits), rest)
  | rest => do
    let (digits, rest) := takeSpaced spaced (fun c => (hexValue? c).isSome) width rest
    if digits.length < width then none
    let c ← ofHex? digits
    return (if width = 2 then .byte c else .literal c, rest)

def property? (spaced negated : Bool) (rest : List Char) : Option (Escape × List Char) :=
  match skip spaced rest with
  | [] => none
  | '\x7b' :: inner => do
    let (name, rest) ← braced? spaced inner
    return (.property (← Property.ofChars? name) negated, rest)
  | '\\' :: _ => none
  | c :: rest => (Property.named? (Property.looseName [c])).map fun s => (.property s negated, rest)

/-- A word boundary, which may say in braces which kind it is. Braces that hold no name are left
for a repetition. -/
def boundary? (spaced : Bool) (rest : List Char) : Option (Escape × List Char) :=
  let isName (c : Char) : Bool := c.isAlpha || c = '-'
  match rest with
  | '\x7b' :: inner =>
    match takeAllSpaced spaced isName (skip spaced inner) with
    | ([], []) => none
    | ([], _) => some (.edge .boundary, rest)
    | (name, '\x7d' :: rest) =>
      match String.ofList name with
      | "start" => some (.edge .start, rest)
      | "end" => some (.edge .stop, rest)
      | "start-half" => some (.edge .startHalf, rest)
      | "end-half" => some (.edge .stopHalf, rest)
      | _ => none
    | _ => none
  | _ => some (.edge .boundary, rest)

def escape? (spaced : Bool) : List Char → Option (Escape × List Char)
  | [] => none
  | c :: rest =>
    match c with
    | 'd' => some (.shorthand .digit false, rest)
    | 'D' => some (.shorthand .digit true, rest)
    | 'w' => some (.shorthand .word false, rest)
    | 'W' => some (.shorthand .word true, rest)
    | 's' => some (.shorthand .blank false, rest)
    | 'S' => some (.shorthand .blank true, rest)
    | 'p' => property? spaced false rest
    | 'P' => property? spaced true rest
    | 'x' => hexEscape? spaced 2 rest
    | 'u' => hexEscape? spaced 4 rest
    | 'U' => hexEscape? spaced 8 rest
    | 'a' => some (.literal '\x07', rest)
    | 'f' => some (.literal '\x0c', rest)
    | 't' => some (.literal '\t', rest)
    | 'n' => some (.literal '\n', rest)
    | 'r' => some (.literal '\r', rest)
    | 'v' => some (.literal '\x0b', rest)
    | 'A' => some (.look .textStart, rest)
    | 'z' => some (.look .textEnd, rest)
    | 'b' => boundary? spaced rest
    | 'B' => some (.edge .notBoundary, rest)
    | '<' => some (.edge .start, rest)
    | '>' => some (.edge .stop, rest)
    | c => if isEscapable c then some (.literal c, rest) else none

end StoreQuery.Regex
