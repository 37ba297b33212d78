import StoreQuery.Plan.Query

namespace StoreQuery

inductive AccessPath
  | keyLookup
  | indexQuery
  | filteredScan
  | fullScan
  deriving DecidableEq

def AccessPath.name : AccessPath → String
  | .keyLookup => "KEY_LOOKUP"
  | .indexQuery => "INDEX_QUERY"
  | .filteredScan => "FILTERED_SCAN"
  | .fullScan => "FULL_SCAN"

def Scan.accessPath (s : Scan) : AccessPath :=
  match s.indexFilter, s.expression with
  | some _, _ => .indexQuery
  | none, some _ => .filteredScan
  | none, none => .fullScan

structure Explanation.Accepted where
  accessPath : AccessPath
  ns : String
  set : String
  keys : List String
  indexFilter : Option String
  expression : Option String
  maxRecords : Option UInt64

inductive Explanation
  | accepted (a : Explanation.Accepted)
  | rejected (cause : QueryError)

namespace Explanation

def ofPlan : Plan → Explanation
  | .keys lookup => .accepted
    { accessPath := .keyLookup
      ns := lookup.ns
      set := lookup.set
      keys := lookup.keys.map Json.toText
      indexFilter := none
      expression := lookup.expression.map Expr.toText
      maxRecords := none }
  | .query scan => .accepted
    { accessPath := scan.accessPath
      ns := scan.ns
      set := scan.set
      keys := []
      indexFilter := scan.indexFilter.map IndexFilter.toText
      expression := scan.expression.map Expr.toText
      maxRecords := some scan.maxRecords }

def ofResult : Except QueryError Plan → Explanation
  | .ok plan => ofPlan plan
  | .error cause => .rejected cause

def lines : Explanation → List String
  | .accepted a =>
    ["=== EXPLAIN PLAN ===", "Status: ACCEPTED", "Access Path: " ++ a.accessPath.name,
      "Target: " ++ a.ns ++ "/" ++ a.set]
      ++ (if a.keys.isEmpty then [] else "Keys:" :: a.keys.map ("  - " ++ ·))
      ++ (a.indexFilter.map ("Index Filter: " ++ ·)).toList
      ++ (a.expression.map ("Expression: " ++ ·)).toList
      ++ (a.maxRecords.map fun n =>
        "Max Records: " ++ if n = 0 then "unlimited" else toString n).toList
  | .rejected cause =>
    ["=== EXPLAIN PLAN ===", "Status: REJECTED", "Error Code: " ++ cause.code,
      "Reason: " ++ cause.message]

def toText (x : Explanation) : String := String.join (x.lines.map (· ++ "\n"))

end Explanation

end StoreQuery
