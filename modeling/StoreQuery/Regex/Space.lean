import StoreQuery.Text.CharClass

namespace StoreQuery.Regex

def dropSpace (inComment : Bool) : List Char → List Char
  | [] => []
  | c :: rest =>
    if inComment then dropSpace (c ≠ '\n') rest
    else if Text.isBlank c then dropSpace false rest
    else if c = '#' then dropSpace true rest
    else c :: rest

def skip (spaced : Bool) (cs : List Char) : List Char :=
  if spaced then dropSpace false cs else cs

theorem length_dropSpace_le (inComment : Bool) (cs : List Char) :
    (dropSpace inComment cs).length ≤ cs.length := by
  induction cs generalizing inComment with
  | nil => simp [dropSpace]
  | cons c rest ih =>
    have comment := ih true
    have blank := ih false
    have line := ih (c ≠ '\n')
    grind [dropSpace]

theorem length_skip_le (spaced : Bool) (cs : List Char) :
    (skip spaced cs).length ≤ cs.length := by
  cases spaced with
  | false => simp [skip]
  | true => simpa [skip] using length_dropSpace_le false cs

@[simp] theorem skip_false (cs : List Char) : skip false cs = cs := rfl

def takeSpaced (spaced : Bool) (isKind : Char → Bool) : Nat → List Char → List Char × List Char
  | limit + 1, c :: rest =>
    if isKind c then
      let (taken, rest) := takeSpaced spaced isKind limit (skip spaced rest)
      (c :: taken, rest)
    else ([], c :: rest)
  | _, cs => ([], cs)

def takeAllSpaced (spaced : Bool) (isKind : Char → Bool) (cs : List Char) :
    List Char × List Char :=
  takeSpaced spaced isKind cs.length cs

/-- The character that comes next but for space. Within a comment every character counts, and if
there is only space left, its first character does. -/
def peekSpaced? (spaced : Bool) (cs : List Char) : Option Char :=
  if spaced then (visible? false cs).or cs.head? else cs.head?
where
  visible? (inComment : Bool) : List Char → Option Char
    | [] => none
    | c :: rest =>
      if Text.isBlank c then visible? inComment rest
      else if !inComment && c == '#' then visible? true rest
      else some c

end StoreQuery.Regex
