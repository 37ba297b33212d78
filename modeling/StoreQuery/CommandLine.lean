import StoreQuery.CommandLine.Help
import StoreQuery.Wire.Text
import StoreQuery.Index.Listing

/-!
The command line. A command names the files it needs; running it is a function of their contents
and of the standard input. Every failure is reported once and ends the command.
-/

namespace StoreQuery.CommandLine

structure Sources where
  indexes : Option String
  listing : Option String
  statistics : Option String

inductive Command
  | compile (config : Option String) (sources : Sources)
  | explain (config : Option String) (sources : Sources)
  | fallback (config : Option String) (code : Int)

inductive Usage
  | version
  | help (topic : Topic)
  | invalid
  deriving DecidableEq

def isOption (arg : String) : Bool :=
  match arg.toList with
  | ['-'] => false
  | '-' :: _ => true
  | _ => false

def isHelp (arg : String) : Bool :=
  arg == "--help" || arg.toList.take 2 == ['-', 'h']

def splitOption (arg : String) : String × Option String :=
  let cs := arg.toList
  match cs.dropWhile (· ≠ '=') with
  | [] => (arg, none)
  | _ :: value => (String.ofList (cs.takeWhile (· ≠ '=')), some (String.ofList value))

def resultCode? (text : String) : Option Int :=
  (Text.readInt? text.toList).bind fun n =>
    if Int32.minValue.toInt ≤ n ∧ n ≤ Int32.maxValue.toInt then some n else none

def isValue (name value : String) : Bool :=
  if name = "--result-code" then (resultCode? value).isSome else value ≠ ""

/-- The options given, each at most once; `given` are those read so far. The first argument that
settles the usage does so whatever comes after it. -/
def options (topic : Topic) (given : List (String × String)) :
    List String → Except Usage (List (String × String))
  | [] => .ok given
  | arg :: rest =>
    if isHelp arg then .error (.help topic)
    else if arg = "--" then if rest.isEmpty then .ok given else .error .invalid
    else
      let (name, attached) := splitOption arg
      if !topic.parameters.any (·.name == name) || (given.lookup name).isSome then .error .invalid
      else match attached, rest with
        | some value, rest =>
          if isValue name value then options topic ((name, value) :: given) rest
          else .error .invalid
        | none, value :: rest =>
          if isOption value || !isValue name value then .error .invalid
          else options topic ((name, value) :: given) rest
        | none, [] => .error .invalid

def sources (given : List (String × String)) : Except Usage Sources :=
  let s : Sources :=
    ⟨given.lookup "--indexes", given.lookup "--sindex-list", given.lookup "--sindex-stats"⟩
  if s.statistics.isSome && s.listing.isNone then .error .invalid else .ok s

def resultCode (given : List (String × String)) : Except Usage Int :=
  match (given.lookup "--result-code").bind resultCode? with
  | some code => .ok code
  | none => .error .invalid

def Command.ofArgs : List String → Except Usage Command
  | "compile" :: args => do
    let given ← options .compile [] args
    return .compile (given.lookup "--config") (← sources given)
  | "explain" :: args => do
    let given ← options .explain [] args
    return .explain (given.lookup "--config") (← sources given)
  | "fallback" :: args => do
    let given ← options .fallback [] args
    return .fallback (given.lookup "--config") (← resultCode given)
  | ["help"] => .error (.help .program)
  | ["help", name] => .error (((Topic.ofName? name).map Usage.help).getD .invalid)
  | arg :: _ =>
    if isHelp arg then .error (.help .program)
    else if arg = "--version" ∨ arg.toList.take 2 = ['-', 'V'] then .error .version
    else .error .invalid
  | [] => .error .invalid

def Sources.files (s : Sources) : List String :=
  s.indexes.toList ++ s.listing.toList ++ s.statistics.toList

def Command.files : Command → List String
  | .compile config sources => config.toList ++ sources.files
  | .explain config sources => config.toList ++ sources.files
  | .fallback config _ => config.toList

inductive ReadFailure
  | notFound
  | permissionDenied
  | isDirectory
  | notText
  deriving DecidableEq

def ReadFailure.message : ReadFailure → String
  | .notFound => "No such file or directory (os error 2)"
  | .permissionDenied => "Permission denied (os error 13)"
  | .isDirectory => "Is a directory (os error 21)"
  | .notText => "stream did not contain valid UTF-8"

inductive Failure
  | configUnreadable (path : String) (cause : ReadFailure)
  | configShape
  | config (cause : ConfigError)
  | listing (cause : ListingError)
  | query (cause : QueryError)
  | unreadable (cause : ReadFailure)
  | shape
  | notIndexError (code : Int)
  | emptyInput
  deriving DecidableEq

def Failure.message : Failure → String
  | .configUnreadable path cause =>
    "Failed to read config " ++ Text.quotedPath path ++ ": " ++ cause.message
  | .configShape => "Invalid config JSON"
  | .config cause => cause.message
  | .listing cause => cause.message
  | .query cause => cause.message
  | .unreadable cause => "I/O error: " ++ cause.message
  | .shape => "JSON error"
  | .notIndexError code =>
    "Invalid input: result code " ++ toString code ++ " is not an index error"
  | .emptyInput => "Invalid input: Empty input"

abbrev Files := String → Except ReadFailure String

def readText (files : Files) (path : String) : Except Failure String :=
  (files path).mapError .unreadable

def shaped (r : Wire.Read α) : Except Failure α := r.mapError fun _ => .shape

def loadConfig (files : Files) : Option String → Except Failure Config
  | none => .ok {}
  | some path => do
    let text ← (files path).mapError (.configUnreadable path)
    let config ← (Config.ofText text).mapError fun _ => .configShape
    config.validate.mapError .config
    return config

def loadStatistics (files : Files) : Option String → Except Failure (List (String × String))
  | none => .ok []
  | some path => do shaped (Wire.ofText Wire.texts (← readText files path))

def loadListing (files : Files) (s : Sources) : Except Failure Catalog :=
  match s.listing with
  | none => .ok .empty
  | some path => do
    let text ← readText files path
    let statistics ← loadStatistics files s.statistics
    (Catalog.ofListing text statistics).mapError .listing

def loadCatalog (files : Files) (s : Sources) : Except Failure Catalog := do
  let catalog ← loadListing files s
  match s.indexes with
  | none => return catalog
  | some path => return catalog.insertAll (← shaped (Index.listOfText (← readText files path)))

def request (input : Except ReadFailure String) : Except Failure Query := do
  let text ← input.mapError .unreadable
  if Text.trim text = "" then throw .emptyInput
  shaped (Query.ofText text)

structure Answer where
  output : Option Json
  failure : Option Failure

def success (data : Json) : Answer :=
  ⟨some (.obj [("data", data), ("status", .str "ok")]), none⟩

/-- A refused query is reported on standard output as well. -/
def refusal (cause : QueryError) : Answer :=
  ⟨some (.obj [("code", .str cause.code), ("message", .str cause.message),
    ("status", .str "error")]), some (.query cause)⟩

def answerPlan (r : Except QueryError Plan) : Answer :=
  match r with
  | .ok plan => success plan.toJson
  | .error cause => refusal cause

def Command.answer (files : Files) (input : Except ReadFailure String) :
    Command → Except Failure Answer
  | .compile configPath sources => do
    let config ← loadConfig files configPath
    let catalog ← loadCatalog files sources
    let query ← request input
    return answerPlan do
      let plan ← query.compile catalog.directory config .json
      plan.guard config
      return plan
  | .explain configPath sources => do
    let config ← loadConfig files configPath
    let catalog ← loadCatalog files sources
    let query ← request input
    let plan := query.compile catalog.directory config .json
    return success (Explanation.ofResult plan).toJsonWithText
  | .fallback configPath code => do
    let config ← loadConfig files configPath
    if (IndexFailure.ofCode? code).isNone then throw (.notIndexError code)
    let query ← request input
    return answerPlan do
      let scan ← query.withoutIndex config .json
      scan.guard config
      return .query scan

structure Outcome where
  exit : UInt32
  stdout : String
  stderr : String

def Usage.outcome : Usage → Outcome
  | .version => ⟨0, "binquery 0.1.0\n", ""⟩
  | .help topic => ⟨0, topic.helpText, ""⟩
  | .invalid => ⟨2, "", Topic.program.helpText⟩

def Answer.outcome (a : Answer) : Outcome where
  exit := if a.failure.isNone then 0 else 1
  stdout := (a.output.map fun v => v.toText ++ "\n").getD ""
  stderr := (a.failure.map fun f => f.message ++ "\n").getD ""

def Command.run (files : Files) (input : Except ReadFailure String) (c : Command) : Outcome :=
  match c.answer files input with
  | .ok answer => answer.outcome
  | .error failure => Answer.outcome ⟨none, some failure⟩

end StoreQuery.CommandLine
