import StoreQuery.Index.Catalog

/-!
What the store reports about its indexes. A listing has entries separated by semicolons, each made
of fields separated by colons; statistics are fields separated by semicolons. One bad entry spoils
the whole listing, since a catalog with gaps would mislead whoever relies on it.
-/

namespace StoreQuery

inductive EntryFault
  | notKeyValue (field : String)
  | missing (key : String)
  deriving DecidableEq

inductive ListingError
  | malformedEntry (entry : String) (fault : EntryFault)
  | unknownIndexType (text : String)
  | unknownCoverage (text : String)
  | invalidStatistic (index value : String)
  deriving DecidableEq

def EntryFault.message : EntryFault → String
  | .notKeyValue field => "field '" ++ field ++ "' is not key=value"
  | .missing key => "missing '" ++ key ++ "'"

namespace ListingError

def code : ListingError → String
  | .malformedEntry .. => "BQ_INDEX_MALFORMED_ENTRY"
  | .unknownIndexType _ => "BQ_INDEX_UNKNOWN_VALUE_TYPE"
  | .unknownCoverage _ => "BQ_INDEX_UNKNOWN_COLLECTION_TYPE"
  | .invalidStatistic .. => "BQ_INDEX_INVALID_STAT"

def message : ListingError → String
  | .malformedEntry entry fault => "Malformed index entry '" ++ entry ++ "': " ++ fault.message
  | .unknownIndexType text => "Unknown index value type '" ++ text ++ "'"
  | .unknownCoverage text => "Unknown index collection type '" ++ text ++ "'"
  | .invalidStatistic index value => "Invalid statistic for index '" ++ index ++ "': " ++ value

end ListingError

namespace Listing

def field? (part : String) : Option (String × String) :=
  let cs := part.toList
  match cs.dropWhile (· ≠ '=') with
  | [] => none
  | _ :: value =>
    let name := cs.takeWhile (· ≠ '=')
    some (String.ofList (Text.trimChars name), String.ofList (Text.trimChars value))

def fieldOf (entry part : String) : Except ListingError (String × String) :=
  match field? part with
  | some pair => .ok pair
  | none => .error (.malformedEntry entry (.notKeyValue part))

/-- The fields of an entry, the last one first; empty ones are passed over. -/
def fields (separator : Char) (entry : String) : Except ListingError (List (String × String)) := do
  let parts := (Text.split separator entry).filter (· ≠ "")
  return (← parts.mapM (fieldOf entry)).reverse

def require (entry : String) (fields : List (String × String)) (key : String) :
    Except ListingError String :=
  match fields.lookup key with
  | some value => .ok value
  | none => .error (.malformedEntry entry (.missing key))

/-- Indexes that cannot be read yet, and those on a nested context, are passed over. -/
def isReadable (fields : List (String × String)) : Bool :=
  (fields.lookup "state").all (· == "RW") && (fields.lookup "context").all (· == "NULL")

def binOf (entry : String) (fields : List (String × String)) : Except ListingError String :=
  match (fields.lookup "bin").or (fields.lookup "bins") with
  | some bin => .ok bin
  | none => .error (.malformedEntry entry (.missing "bin"))

def setOf (fields : List (String × String)) : String :=
  match fields.lookup "set" with
  | some "NULL" => ""
  | some set => set
  | none => ""

def typeOf (entry : String) (fields : List (String × String)) : Except ListingError IndexType := do
  let text ← require entry fields "type"
  match IndexType.ofText? text with
  | some t => .ok t
  | none => .error (.unknownIndexType text)

def coverageOf (fields : List (String × String)) : Except ListingError Coverage :=
  match fields.lookup "indextype" with
  | none => .ok .whole
  | some text =>
    match Coverage.ofText? text with
    | some c => .ok c
    | none => .error (.unknownCoverage text)

def indexOf (entry : String) (fields : List (String × String)) : Except ListingError Index := do
  let ns ← require entry fields "ns"
  let name ← require entry fields "indexname"
  let bin ← binOf entry fields
  let indexType ← typeOf entry fields
  let coverage ← coverageOf fields
  return { name, ns, set := setOf fields, bin, indexType, coverage }

def entry? (entry : String) : Except ListingError (Option Index) := do
  let fields ← fields ':' entry
  if isReadable fields then return some (← indexOf entry fields) else return none

def parse (text : String) : Except ListingError (List Index) := do
  let entries := ((Text.split ';' text).map Text.trim).filter (· ≠ "")
  return (← entries.mapM entry?).filterMap id

def selectivity (index statistics : String) : Except ListingError UInt64 := do
  match (← fields ';' (Text.trim statistics)).lookup "entries_per_bval" with
  | none => return 0
  | some text =>
    match Text.readUInt64? text.toList with
    | some n => return n
    | none => throw (.invalidStatistic index text)

end Listing

def Index.measure (statistics : List (String × String)) (i : Index) : Except ListingError Index :=
  match statistics.lookup i.name with
  | some s => do return { i with selectivity := ← Listing.selectivity i.name s }
  | none => .ok i

def Catalog.ofListing (text : String) (statistics : List (String × String)) :
    Except ListingError Catalog := do
  let listed ← Listing.parse text
  return .ofList (← listed.mapM (Index.measure statistics))

end StoreQuery
