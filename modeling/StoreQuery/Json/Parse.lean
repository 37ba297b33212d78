import StoreQuery.Decimal.Parse
import StoreQuery.Json.Source

/-!
Reading JSON text in two passes, each a fold: characters to tokens, and tokens to a source over a
stack of open lists and objects. `Json.normalize` settles repeated fields afterwards.
-/

namespace StoreQuery.Json

inductive Unit16
  | char (c : Char)
  | code (n : Nat)

namespace Unit16

def isHigh (n : Nat) : Bool := 0xD800 ≤ n && n < 0xDC00

def isLow (n : Nat) : Bool := 0xDC00 ≤ n && n < 0xE000

/-- The text that the parts make up. Half of a surrogate pair has no meaning without the other. -/
def toChars? : List Unit16 → Option (List Char)
  | [] => some []
  | .char c :: rest => (toChars? rest).map (c :: ·)
  | .code high :: .code low :: rest =>
    if isHigh high then
      if isLow low then
        (toChars? rest).map (Char.ofNat ((high - 0xD800) * 0x400 + (low - 0xDC00) + 0x10000) :: ·)
      else none
    else if isLow high then none
    else (toChars? (.code low :: rest)).map (Char.ofNat high :: ·)
  | .code n :: rest =>
    if isHigh n || isLow n then none else (toChars? rest).map (Char.ofNat n :: ·)

end Unit16

inductive Token
  | openList
  | closeList
  | openObject
  | closeObject
  | colon
  | comma
  | text (s : Option String)
  | scalar (v : Option Json)

inductive Lexer.Mode
  | between
  | word (read : List Char)
  | text (read : List Unit16)
  | escape (read : List Unit16)
  | code (read : List Unit16) (missing : Nat) (value : Nat)

namespace Lexer

structure State where
  tokens : List Token
  mode : Mode

def isBlank (c : Char) : Bool := c = ' ' || c = '\n' || c = '\r' || c = '\t'

def mark? : Char → Option Token
  | '[' => some .openList
  | ']' => some .closeList
  | '\x7b' => some .openObject
  | '\x7d' => some .closeObject
  | ':' => some .colon
  | ',' => some .comma
  | _ => none

def ofWord? (word : List Char) : Option Token :=
  if word = ['n', 'u', 'l', 'l'] then some (.scalar (some .null))
  else if word = ['t', 'r', 'u', 'e'] then some (.scalar (some (.bool true)))
  else if word = ['f', 'a', 'l', 's', 'e'] then some (.scalar (some (.bool false)))
  else (Decimal.Literal.ofChars? word).map fun l => .scalar (l.value?.map .num)

def ofText (read : List Unit16) : Token :=
  .text ((Unit16.toChars? read.reverse).map String.ofList)

def hexValue? (c : Char) : Option Nat :=
  if c.isDigit then some (c.toNat - '0'.toNat)
  else if 'a' ≤ c ∧ c ≤ 'f' then some (c.toNat - 'a'.toNat + 10)
  else if 'A' ≤ c ∧ c ≤ 'F' then some (c.toNat - 'A'.toNat + 10)
  else none

def escaped? (read : List Unit16) : Char → Option Mode
  | '"' => some (.text (.char '"' :: read))
  | '\\' => some (.text (.char '\\' :: read))
  | '/' => some (.text (.char '/' :: read))
  | 'b' => some (.text (.char '\x08' :: read))
  | 'f' => some (.text (.char '\x0c' :: read))
  | 'n' => some (.text (.char '\n' :: read))
  | 'r' => some (.text (.char '\r' :: read))
  | 't' => some (.text (.char '\t' :: read))
  | 'u' => some (.code read 4 0)
  | _ => none

def between? (tokens : List Token) (c : Char) : Option State :=
  if isBlank c then some ⟨tokens, .between⟩
  else if c = '"' then some ⟨tokens, .text []⟩
  else match mark? c with
    | some token => some ⟨token :: tokens, .between⟩
    | none => some ⟨tokens, .word [c]⟩

def step? (s : State) (c : Char) : Option State :=
  match s.mode with
  | .between => between? s.tokens c
  | .word read =>
    if isBlank c || c = '"' || (mark? c).isSome then do
      between? ((← ofWord? read.reverse) :: s.tokens) c
    else some ⟨s.tokens, .word (c :: read)⟩
  | .text read =>
    if c = '"' then some ⟨ofText read :: s.tokens, .between⟩
    else if c = '\\' then some ⟨s.tokens, .escape read⟩
    else if c.toNat < 0x20 then none
    else some ⟨s.tokens, .text (.char c :: read)⟩
  | .escape read => (escaped? read c).map (State.mk s.tokens)
  | .code read missing value => do
    let value := value * 16 + (← hexValue? c)
    if missing = 1 then
      return ⟨s.tokens, .text (.code value :: read)⟩
    else
      return ⟨s.tokens, .code read (missing - 1) value⟩

def tokens? (text : List Char) : Option (List Token) := do
  let s ← text.foldlM step? ⟨[], .between⟩
  match s.mode with
  | .between => return s.tokens.reverse
  | .word read => return ((← ofWord? read.reverse) :: s.tokens).reverse
  | _ => none

end Lexer

inductive Parser.Frame
  | list (items : List Source)
  | object (fields : List (Option String × Source))
  | entry (fields : List (Option String × Source)) (name : Option String)

inductive Parser.Expected
  | value
  | valueOrClose
  | name
  | nameOrClose
  | colon (name : Option String)
  | separator
  | nothing (result : Source)

namespace Parser

structure State where
  frames : List Frame
  expected : Expected

def finish (v : Source) : List Frame → State
  | .list items :: frames => ⟨.list (v :: items) :: frames, .separator⟩
  | .entry fields name :: frames => ⟨.object ((name, v) :: fields) :: frames, .separator⟩
  | frames => ⟨frames, .nothing v⟩

def value? (frames : List Frame) : Token → Option State
  | .scalar v => some (finish (.scalar v) frames)
  | .text s => some (finish (.scalar (s.map .str)) frames)
  | .openList => some ⟨.list [] :: frames, .valueOrClose⟩
  | .openObject => some ⟨.object [] :: frames, .nameOrClose⟩
  | _ => none

def close? : List Frame → Token → Option State
  | .list items :: frames, .closeList => some (finish (.list items.reverse) frames)
  | .object fields :: frames, .closeObject => some (finish (.object fields.reverse) frames)
  | _, _ => none

def step? (s : State) (t : Token) : Option State :=
  match s.expected, t with
  | .value, t => value? s.frames t
  | .valueOrClose, .closeList => close? s.frames .closeList
  | .valueOrClose, t => value? s.frames t
  | .name, .text name => some ⟨s.frames, .colon name⟩
  | .nameOrClose, .text name => some ⟨s.frames, .colon name⟩
  | .nameOrClose, .closeObject => close? s.frames .closeObject
  | .colon name, .colon =>
    match s.frames with
    | .object fields :: frames => some ⟨.entry fields name :: frames, .value⟩
    | _ => none
  | .separator, .comma =>
    match s.frames with
    | .list _ :: _ => some ⟨s.frames, .value⟩
    | .object _ :: _ => some ⟨s.frames, .name⟩
    | _ => none
  | .separator, t => close? s.frames t
  | _, _ => none

end Parser

def Source.parse? (text : String) : Option Source := do
  let tokens ← Lexer.tokens? text.toList
  let s ← tokens.foldlM Parser.step? ⟨[], .value⟩
  match s.expected with
  | .nothing result => some result
  | _ => none

def parse? (text : String) : Option Json := (Source.parse? text).bind Source.value?

def ofText? (text : String) : Option Json := (parse? text).map normalize

end StoreQuery.Json
