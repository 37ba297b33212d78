import StoreQuery.Text.Integer
import StoreQuery.Regex.Parse

/-!
Filters for what is logged: directives between commas. A directive is a level, or a target, or spans
of a name in brackets, with a level for them after an equals sign. Fields of the spans stand in
braces.
-/

namespace StoreQuery.LogFilter

def levelNames : List String := ["trace", "debug", "info", "warn", "error", "off"]

def isLevel (cs : List Char) : Bool :=
  cs = [] || levelNames.contains (Text.lower (String.ofList cs))
    || (Text.readUInt64? cs).any (· ≤ 5)

def isField (cs : List Char) : Bool :=
  cs ≠ [] &&
    match cs.splitOn '=' with
    | _ :: value :: _ =>
      (Text.readInt? value).isSome || (Regex.Part.ofPattern? false value).isSome
    | _ => true

def dropSpan? (cs : List Char) : Option (List Char) :=
  match cs.dropWhile fun c => c ≠ ']' ∧ c ≠ '\x7b' with
  | ']' :: rest => some rest
  | _ :: fields =>
    match fields.dropWhile (· ≠ '\x7d') with
    | _ :: ']' :: rest => if isField (fields.takeWhile (· ≠ '\x7d')) then some rest else none
    | _ => none
  | [] => none

def isTargetStart (c : Char) : Bool :=
  c = '-' || c = ':' || c = '_' || Text.isLetterOrNumber c

def dropScope? : List Char → Option (List Char)
  | [] => none
  | '[' :: rest => dropSpan? rest
  | c :: rest =>
    if !isTargetStart c then none
    else match rest.dropWhile fun c => c ≠ '=' ∧ c ≠ '[' with
      | '[' :: rest => dropSpan? rest
      | rest => some rest

/-- White space at the ends is passed over only where no level follows an equals sign. A level alone
has the form of a target. -/
def isDirective (cs : List Char) : Bool :=
  let trimmed := Text.trimChars cs
  match dropScope? trimmed with
  | some [] => true
  | some ('=' :: level) => cs = trimmed && isLevel level
  | _ => false

def isValid (filter : String) : Bool :=
  ((filter.toList.splitOn ',').filter (· ≠ [])).all isDirective

end StoreQuery.LogFilter
