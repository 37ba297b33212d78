import StoreQuery.Regex.Outline
import StoreQuery.Regex.Utf8

/-!
How much room the program of a pattern takes. A program is a list of states; one that takes more
than ten mebibytes, forwards or backwards, is not built, and its pattern matches nothing.
-/

namespace StoreQuery.Regex

namespace Program

def limit : Nat := 10 * 1024 * 1024

def stateCost : Nat := 32

def edgeCost : Nat := 8

def choiceCost : Nat := 4

structure Draft where
  states : Nat := 0
  room : Nat := 0

namespace Draft

def check (d : Draft) : Option Draft := if d.room ≤ limit then some d else none

def addAll (d : Draft) (states extra : Nat) : Option Draft :=
  check ⟨d.states + states, d.room + states * stateCost + extra⟩

def add (d : Draft) : Option Draft := d.addAll 1 0

def choose (d : Draft) (alternatives : Nat) : Option Draft :=
  check { d with room := d.room + alternatives * choiceCost }

def connect (d : Draft) (chooses : Bool) : Option Draft := d.choose (if chooses then 1 else 0)

end Draft

abbrev Laid := Option (Bool × Draft)

def slot (size : Nat) (key : List Nat) : Nat :=
  let mixed : UInt64 := key.foldl (fun h n => (h ^^^ n.toUInt64) * 1099511628211)
    14695981039346656037
  (mixed % size.toUInt64).toNat

/-- States that may be used again, by slots; a newer one takes the place of an older one. -/
abbrev Known := Array (List Nat × Nat)

def Known.ofSize (size : Nat) : Known := .replicate size ([], 0)

def withEdges (extra : Nat) (edges : List Nat) (known : Known) (d : Draft) :
    Option (Nat × Known × Draft) :=
  let i := slot known.size edges
  match known[i]? with
  | none => none
  | some (other, state) =>
    if other = edges then some (state, known, d)
    else (d.addAll 1 extra).map fun next =>
      (d.states, known.setIfInBounds i (edges, d.states), next)

/-- Forwards, byte sequences share states from the end: a state is laid out after all those that
follow it. -/
def forwardFrom (target : Nat) :
    Nat → List (List Utf8.ByteRange) → Known → Draft → Option (Nat × Known × Draft)
  | 0, _, known, d => some (target, known, d)
  | depth + 1, sequences, known, d =>
    if sequences.head?.isEqSome [] then some (target, known, d)
    else do
      let groups := sequences.splitBy fun a b => a.head? == b.head?
      let (edges, known, d) ← groups.foldlM (fun (edges, known, d) group => do
        let (first, last) := (group.head?.bind List.head?).getD (0, 0)
        let (next, known, d) ← forwardFrom target depth (group.map List.tail) known d
        return (next :: last :: first :: edges, known, d)) ([], known, d)
      withEdges (groups.length * edgeCost) edges.reverse known d

def forwardSet (s : CharSet) (d : Draft) : Option Draft := do
  let next ← d.add
  let (_, _, last) ← forwardFrom d.states 4 (Utf8.ofSet s) (.ofSize 10000) next
  return last

def backwardSet (s : CharSet) (d : Draft) : Option Draft := do
  let next ← d.addAll 2 0
  let (_, last) ← (Utf8.ofSet s).foldlM (fun (known, d) sequence => do
    let (_, known, d) ← sequence.foldlM (fun (from_, known, d) (first, last) =>
      withEdges 0 [from_, first, last] known d) (next.states - 1, known, d)
    return (known, ← d.choose 1)) (Known.ofSize 1000, next)
  return last

def set (backwards : Bool) (s : CharSet) (d : Draft) : Laid := do
  if s.isAscii then return (false, ← d.addAll 2 (s.ranges.length * edgeCost))
  else if backwards then return (false, ← backwardSet s d)
  else return (false, ← forwardSet s d)

def textBytes (backwards : Bool) (text : List Char) : List Nat :=
  let bytes := text.flatMap fun c => Utf8.bytes c.toNat
  if backwards then bytes.reverse else bytes

def chunks (words : List (List Nat)) : List (List (List Nat)) :=
  if words.head? = some [] then [] :: (words.dropWhile (· = [])).splitOn []
  else words.splitOn []

/-- States and extra room of a tree of words, of which the longest has `depth` bytes. Each node
chooses between its chunks and the end. -/
def tree : Nat → List (List Nat) → Nat × Nat
  | 0, _ => (0, 0)
  | depth + 1, words =>
    if words.all (· = []) then (0, 0)
    else
      let all := chunks words
      let filled := all.filter (· ≠ [])
      let inner := filled.map fun chunk =>
        let heads := (chunk.filterMap List.head?).eraseDups
        let nodes := heads.map fun head =>
          tree depth ((chunk.filter (·.head? = some head)).map List.tail)
        let edges := if heads.length = 1 then 0 else heads.length * edgeCost
        ((nodes.map (·.1)).sum, (nodes.map (·.2)).sum + edges)
      (filled.length + 1 + (inner.map (·.1)).sum,
        (filled.length + all.length - 1) * choiceCost + (inner.map (·.2)).sum)

def words (backwards : Bool) (texts : List (List Char)) (d : Draft) : Laid := do
  let all := texts.map (textBytes backwards)
  let depth := (all.map List.length).foldl max 0
  let (states, extra) := tree (depth + 1) all
  return (false, ← d.addAll (states + 1) extra)

def copies (part : Draft → Laid) : Nat → Bool → Draft → Laid
  | 0, chooses, d => some (chooses, d)
  | n + 1, chooses, d => do
    let (next, d) ← part (← d.connect chooses)
    copies part n next d

def exactly (part : Draft → Laid) (count : Nat) (d : Draft) : Laid :=
  if count = 0 then do return (false, ← d.add) else copies part count false d

def optional (part : Draft → Laid) (count : Nat) (chooses : Bool) (d : Draft) : Laid :=
  copies (fun d => do part (← (← d.add).choose 2)) count chooses d

def again (part : Draft → Laid) (d : Draft) : Option Draft := do
  let (chooses, d) ← part d
  (← (← d.add).connect chooses).choose 1

/-- A loop around what takes up characters is entered at the choice; any other is left out by a
choice of its own. -/
def anyNumber (moves : Bool) (part : Draft → Laid) (d : Draft) : Laid := do
  if moves then
    let (chooses, d) ← part (← d.add)
    return (true, ← (← d.choose 1).connect chooses)
  else
    let d ← again part d
    return (false, ← (← d.addAll 2 0).choose 3)

def repetition (moves : Bool) (part : Draft → Laid) (least : Nat) (most : Option Nat)
    (d : Draft) : Laid :=
  match least, most with
  | 0, none => anyNumber moves part d
  | least + 1, none => do
    let (chooses, d) ← copies part least false d
    return (true, ← again part (← d.connect chooses))
  | least, some most =>
    if least = 0 ∧ most = 1 then do
      let (chooses, d) ← part (← d.add)
      return (false, ← (← (← d.add).choose 2).connect chooses)
    else if least = most then exactly part least d
    else do
      let (chooses, d) ← exactly part least d
      let (chooses, d) ← optional part (most - least) chooses (← d.add)
      return (false, ← d.connect chooses)

mutual

def layOut (backwards : Bool) : Outline → Draft → Laid
  | .empty, d => do return (false, ← d.add)
  | .literal text, d => do return (false, ← d.addAll (textBytes backwards text).length 0)
  | .set s, d => set backwards s d
  | .look _, d => do return (false, ← d.add)
  | .repeat o least most _, d =>
    repetition (o.alwaysMoves? = some true) (layOut backwards o) least most d
  | .capture _ o, d =>
    if backwards then layOut backwards o d
    else do
      let (chooses, d) ← layOut backwards o (← d.add)
      return (false, ← (← d.add).connect chooses)
  | .sequence parts, d =>
    if backwards then layOutBackwards parts d else layOutForwards parts false d
  | .branches all, d =>
    match all.mapM Outline.literal? with
    | some texts => words backwards texts d
    | none => do return (false, ← layOutBranches backwards 0 all d)

def layOutForwards : List Outline → Bool → Draft → Laid
  | [], chooses, d => some (chooses, d)
  | o :: rest, chooses, d => do
    let (next, d) ← layOut false o (← d.connect chooses)
    layOutForwards rest next d

def layOutBackwards : List Outline → Draft → Laid
  | [], d => some (false, d)
  | o :: rest, d => do
    let (chooses, d) ← layOutBackwards rest d
    layOut true o (← d.connect chooses)

/-- The states at which branches part and meet come after the second of them. -/
def layOutBranches (backwards : Bool) (index : Nat) : List Outline → Draft → Option Draft
  | [], d => some d
  | o :: rest, d => do
    let (chooses, d) ← layOut backwards o d
    let d ← if index = 1 then d.addAll 2 0 else some d
    layOutBranches backwards (index + 1) rest (← (← d.choose 1).connect chooses)

end

def entry (anchored : Bool) : Option Draft := do
  if anchored then ({} : Draft).add
  else (← ({} : Draft).addAll 3 edgeCost).choose 2

def forwards (o : Outline) : Option Draft := do
  let (_, d) ← layOut false (.capture 0 o) (← entry o.isAnchoredFirst)
  d.add

def backwards (o : Outline) : Option Draft := do
  let (chooses, d) ← layOut true o (← entry o.isAnchoredLast)
  (← d.add).connect chooses

/-- A long list of words is searched for without a program. -/
def isWordList : Outline → Bool
  | .branches all => 3000 ≤ all.length && all.all (·.literal?.isSome)
  | _ => false

end Program

def Outline.fits (o : Outline) : Bool :=
  Program.isWordList o || ((Program.forwards o).isSome && (Program.backwards o).isSome)

end StoreQuery.Regex
