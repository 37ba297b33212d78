import StoreQuery.Config
import StoreQuery.Encoding.Predicate
import StoreQuery.Plan.KeySplit
import StoreQuery.Plan.Selection

namespace StoreQuery

structure Query where
  ns : String
  set : String := ""
  predicate : Option Predicate := none
  maxRecords : Option UInt64 := none

structure KeyLookup where
  ns : String
  set : String
  keys : List Json
  expression : Option Expr

structure Scan where
  ns : String
  set : String
  indexFilter : Option IndexFilter
  expression : Option Expr
  maxRecords : UInt64

inductive Plan
  | keys (lookup : KeyLookup)
  | query (scan : Scan)

def Scan.isFull (s : Scan) : Bool := s.indexFilter.isNone && s.expression.isNone

def Scan.guard (s : Scan) (config : Config) : Except QueryError Unit :=
  if s.isFull && !config.scansEnabled then .error (.scanDisabled s.ns s.set) else .ok ()

def Plan.guard (p : Plan) (config : Config) : Except QueryError Unit :=
  match p with
  | .keys _ => .ok ()
  | .query scan => scan.guard config

def residualExpression (e : Encoder) : Option Predicate → Except QueryError (Option Expr)
  | none => .ok none
  | some p => p.expression e

namespace Query

def selection (q : Query) (d : Directory) (config : Config) (e : Encoder) (p : Predicate) :
    Except QueryError Selection :=
  if config.indexSelection then (Scope.mk d q.ns q.set e).select p else .ok (.unchanged p)

/-- Keys come first and bypass all indexes. -/
def compile (q : Query) (d : Directory) (config : Config) (e : Encoder) :
    Except QueryError Plan :=
  let maxRecords := config.maxRecords q.maxRecords
  match q.predicate with
  | none => .ok (.query ⟨q.ns, q.set, none, none, maxRecords⟩)
  | some p => do
    match ← p.keySplit with
    | some split =>
      return .keys ⟨q.ns, q.set, split.keys, ← residualExpression e split.rest⟩
    | none =>
      let selection ← q.selection d config e p
      let expression ← residualExpression e selection.residual
      return .query ⟨q.ns, q.set, selection.indexFilter, expression, maxRecords⟩

/-- The query with its whole predicate as the expression, for when the index it was compiled for
cannot be used after all. -/
def withoutIndex (q : Query) (config : Config) (e : Encoder) : Except QueryError Scan := do
  return ⟨q.ns, q.set, none, ← residualExpression e q.predicate, config.maxRecords q.maxRecords⟩

end Query

inductive IndexFailure
  | notFound
  | outOfMemory
  | notReadable
  | generic
  | nameTooLong
  | maxCount
  deriving DecidableEq

namespace IndexFailure

def all : List IndexFailure :=
  [.notFound, .outOfMemory, .notReadable, .generic, .nameTooLong, .maxCount]

def code : IndexFailure → Int
  | .notFound => 201
  | .outOfMemory => 202
  | .notReadable => 203
  | .generic => 204
  | .nameTooLong => 205
  | .maxCount => 206

def name : IndexFailure → String
  | .notFound => "INDEX_NOT_FOUND"
  | .outOfMemory => "INDEX_OUT_OF_MEMORY"
  | .notReadable => "INDEX_NOT_READABLE"
  | .generic => "INDEX_GENERIC"
  | .nameTooLong => "INDEX_NAME_TOO_LONG"
  | .maxCount => "INDEX_MAX_COUNT"

def ofCode? (code : Int) : Option IndexFailure := all.find? (·.code = code)

def toText (f : IndexFailure) : String := f.name ++ " (" ++ toString f.code ++ ")"

end IndexFailure

end StoreQuery
