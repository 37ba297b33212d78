import StoreQuery.Text.CharSet

/-!
Ranges of characters as sequences of byte ranges: a character is in the range exactly when its bytes
are, one by one, in the ranges of one sequence.
-/

namespace StoreQuery.Regex.Utf8

abbrev ByteRange := Nat × Nat

def bytes (code : Nat) : List Nat :=
  if code < 0x80 then [code]
  else if code < 0x800 then [0xC0 + code / 0x40, 0x80 + code % 0x40]
  else if code < 0x10000 then
    [0xE0 + code / 0x1000, 0x80 + code / 0x40 % 0x40, 0x80 + code % 0x40]
  else
    [0xF0 + code / 0x40000, 0x80 + code / 0x1000 % 0x40, 0x80 + code / 0x40 % 0x40,
      0x80 + code % 0x40]

def blockEnd (code size : Nat) : Nat := (code / size + 1) * size - 1

def blockSplit? (first last size : Nat) : Option Nat :=
  if first / size = last / size then none
  else if first % size ≠ 0 then some (blockEnd first size)
  else if last % size ≠ size - 1 then some (last / size * size - 1)
  else none

def split? (first last : Nat) : Option Nat :=
  match [0x7F, 0x7FF, 0xFFFF].find? fun code => first ≤ code && code < last with
  | some code => some code
  | none =>
    if last < 0x80 then none
    else [0x40, 0x1000, 0x40000].findSome? (blockSplit? first last)

def sequences (first last : Nat) : List (List ByteRange) :=
  match split? first last with
  | some code =>
    if _h : first ≤ code ∧ code < last then sequences first code ++ sequences (code + 1) last
    else []
  | none => [(bytes first).zip (bytes last)]
termination_by last - first

def ofSet (s : CharSet) : List (List ByteRange) :=
  s.ranges.flatMap fun (first, last) => sequences first last

end StoreQuery.Regex.Utf8
