import StoreQuery.LogFilter

namespace StoreQuery

structure Config where
  defaultMaxRecords : UInt64 := 0
  scansEnabled : Bool := true
  indexSelection : Bool := true
  logFilter : String := "binquery=info"

inductive ConfigError
  | emptyLogFilter
  | badLogFilter
  deriving DecidableEq

def ConfigError.code : ConfigError → String
  | .emptyLogFilter => "BQ_CONFIG_INVALID"
  | .badLogFilter => "BQ_CONFIG_INVALID"

/-- The wording ends where the cause is described by another parser. -/
def ConfigError.message : ConfigError → String
  | .emptyLogFilter => "Invalid config: log_filter must not be empty"
  | .badLogFilter => "Invalid config: Invalid log_filter"

namespace Config

def validate (c : Config) : Except ConfigError Unit :=
  if Text.trim c.logFilter = "" then .error .emptyLogFilter
  else if LogFilter.isValid c.logFilter then .ok ()
  else .error .badLogFilter

/-- The limit a query asks for, else the default; zero is no limit. -/
def maxRecords (c : Config) (requested : Option UInt64) : UInt64 :=
  requested.getD c.defaultMaxRecords

end Config

end StoreQuery
