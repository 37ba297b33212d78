import StoreQuery.Json.Basic

/-!
JSON as it is written: fields of an object stand in the order of the text, repeated names included,
and nothing limits how deep it nests. A number out of range and a text with half of a surrogate pair
are well written, but denote nothing.
-/

namespace StoreQuery.Json

inductive Source
  | scalar (v : Option Json)
  | list (items : List Source)
  | object (fields : List (Option String × Source))

namespace Source

mutual

/-- The value written, if every part denotes one and at most `room` lists and objects are open at a
time. -/
def toJson? (room : Nat) : Source → Option Json
  | .scalar v => v
  | .list items =>
    match room with
    | 0 => none
    | room + 1 => (itemsToJson? room items).map .arr
  | .object fields =>
    match room with
    | 0 => none
    | room + 1 => (fieldsToJson? room fields).map .obj

def itemsToJson? (room : Nat) : List Source → Option (List Json)
  | [] => some []
  | item :: rest => do return (← toJson? room item) :: (← itemsToJson? room rest)

def fieldsToJson? (room : Nat) : List (Option String × Source) → Option (List (String × Json))
  | [] => some []
  | (name, v) :: rest => do
    return (← name, ← toJson? room v) :: (← fieldsToJson? room rest)

end

def value? (s : Source) : Option Json := s.toJson? 127

end Source

end StoreQuery.Json
