import StoreQuery.Operation
import StoreQuery.Path

namespace StoreQuery

inductive MetadataField
  | sinceUpdateTime
  | lastUpdateTime
  | voidTime
  | ttl
  | recordSize
  | digestModulo
  deriving DecidableEq

namespace MetadataField

def all : List MetadataField :=
  [.sinceUpdateTime, .lastUpdateTime, .voidTime, .ttl, .recordSize, .digestModulo]

def name : MetadataField → String
  | .sinceUpdateTime => "since_update_time"
  | .lastUpdateTime => "last_update_time"
  | .voidTime => "void_time"
  | .ttl => "ttl"
  | .recordSize => "record_size"
  | .digestModulo => "digest_modulo"

end MetadataField

inductive Role
  | key
  | value
  | upper
  deriving DecidableEq

def Role.name : Role → String
  | .key => "key"
  | .value => "value"
  | .upper => "upper bound"

inductive Expectation
  | int
  | intOrString
  | nonNull
  | nonNullKey
  | orderable
  | string
  | list
  | region
  | sameAs (kind : JsonKind)
  deriving DecidableEq

def Expectation.text : Expectation → String
  | .int => "an int"
  | .intOrString => "an int or string"
  | .nonNull => "a non-null"
  | .nonNullKey => "a non-null key"
  | .orderable => "an orderable"
  | .string => "a string"
  | .list => "a list"
  | .region => "a GeoJSON region"
  | .sameAs kind => kind.name

inductive Malformed
  | emptyBinName
  | notOnMetadata (op : Operation) (field : MetadataField)
  | notOnId (op : Operation)
  | pathOnId
  | pathOn (op : Operation)
  | noOperation
  | keyOn (op : Operation)
  | noRange (op : Operation)
  | path (cause : PathError)
  deriving DecidableEq

def PathError.message : PathError → String
  | .emptyStep => "context path has an empty step"
  | .badListIndex step => "invalid list index in path step '" ++ step ++ "'"
  | .badIntegerKey step => "invalid integer map key in path step '" ++ step ++ "'"

def Malformed.message : Malformed → String
  | .emptyBinName => "bin name is empty"
  | .notOnMetadata op field => op.name ++ " cannot be applied to metadata field " ++ field.name
  | .notOnId op =>
    "id predicates support EQ on one key or IN on many keys, not " ++ op.name
  | .pathOnId => "id predicates take no path"
  | .pathOn op => op.name ++ " does not accept a context path"
  | .noOperation => "leaf has no operation"
  | .keyOn op => op.name ++ " does not take a map key"
  | .noRange op => op.name ++ " has no index range"
  | .path cause => cause.message

inductive QueryError
  | valueTypeMismatch (op : Operation) (expected : Expectation) (found : JsonKind)
  | rangeOverflow (op : Operation) (bound : Int64)
  | missingOperand (op : Operation) (role : Role)
  | ignoreCaseUnsupported (op : Operation)
  | multipleIdQualifiers (count : Nat)
  | malformed (cause : Malformed)
  | scanDisabled (ns set : String)
  deriving DecidableEq

namespace QueryError

def code : QueryError → String
  | .valueTypeMismatch .. => "BQ_VALUE_TYPE_MISMATCH"
  | .rangeOverflow .. => "BQ_RANGE_OVERFLOW"
  | .missingOperand .. => "BQ_MISSING_OPERAND"
  | .ignoreCaseUnsupported _ => "BQ_UNSUPPORTED_COMBINATION"
  | .multipleIdQualifiers _ => "BQ_MULTIPLE_ID_QUALIFIERS"
  | .malformed _ => "BQ_INVALID_PREDICATE"
  | .scanDisabled .. => "BQ_SCAN_DISABLED"

def message : QueryError → String
  | .valueTypeMismatch op expected found =>
    op.name ++ " expects " ++ expected.text ++ " operand, found " ++ found.name
  | .rangeOverflow op bound =>
    op.name ++ " bound " ++ toString bound.toInt ++ " leaves no representable integer range"
  | .missingOperand op role => op.name ++ " is missing its " ++ role.name ++ " operand"
  | .ignoreCaseUnsupported op => op.name ++ " does not support ignore_case"
  | .multipleIdQualifiers count =>
    "Query has " ++ toString count ++ " id qualifiers; at most one is allowed"
  | .malformed cause => "Invalid predicate: " ++ cause.message
  | .scanDisabled ns set =>
    "Query on " ++ ns ++ "/" ++ set ++ " needs a full scan and scans are disabled"

def mismatch (op : Operation) (expected : Expectation) (found : Json) : QueryError :=
  .valueTypeMismatch op expected found.kind

end QueryError

end StoreQuery
