import StoreQuery.Text.Basic

namespace StoreQuery.CommandLine

structure Parameter where
  name : String
  about : String
  required : Bool := false

def Parameter.term (p : Parameter) : String :=
  p.name ++ " <" ++ String.ofList ((p.name.toList.drop 2).map fun c =>
    if c = '-' then '_' else c.toUpper) ++ ">"

inductive Topic
  | program
  | compile
  | explain
  | fallback
  | help
  deriving DecidableEq

namespace Topic

def name : Topic → String
  | .program => "binquery"
  | .compile => "compile"
  | .explain => "explain"
  | .fallback => "fallback"
  | .help => "help"

def about : Topic → String
  | .program => "A deterministic query compiler for secondary-index and filter-expression queries"
  | .compile => "Compile a query and print the descriptor"
  | .explain => "Compile a query and print its explain plan"
  | .fallback => "Rebuild a query without its index after the store rejected the index"
  | .help => "Print this message or the help of the given subcommand(s)"

def commands : List Topic := [.compile, .explain, .fallback, .help]

def ofName? (name : String) : Option Topic := commands.find? (·.name == name)

def config : Parameter := { name := "--config", about := "Path to configuration file" }

def sources : List Parameter := [
  { name := "--indexes", about := "JSON array of index definitions" },
  { name := "--sindex-list", about := "Raw `sindex-list` info response" },
  { name := "--sindex-stats"
    about := "JSON object mapping index names to raw `sindex-stat` responses" }]

def resultCode : Parameter where
  name := "--result-code"
  about := "Result code the store returned for the index query"
  required := true

def parameters : Topic → List Parameter
  | .compile => config :: sources
  | .explain => config :: sources
  | .fallback => [config, resultCode]
  | _ => []

end Topic

structure Glossary where
  title : String
  entries : List (String × String)

namespace Glossary

def termWidth (g : Glossary) : Nat := (g.entries.map (·.1.length)).foldl max 0

/-- Meanings stand below their terms where the terms take up much of a line, which is 100 wide, and
some meaning would not fit into the rest of it. -/
def isStacked (g : Glossary) : Bool :=
  let taken := g.termWidth + 12
  40 < taken && g.entries.any fun (_, about) => 100 < taken + about.length

def lines (g : Glossary) : List String :=
  g.entries.flatMap fun (term, about) =>
    if g.isStacked then ["  " ++ term, "          " ++ about]
    else ["  " ++ term.pushn ' ' (g.termWidth - term.length) ++ "  " ++ about]

def toText (g : Glossary) : String :=
  String.join ((("" :: (g.title ++ ":") :: g.lines)).map (· ++ "\n"))

end Glossary

namespace Topic

def helpOption : String × String := ("-h, --help", "Print help")

def versionOption : String × String := ("-V, --version", "Print version")

def glossaries : Topic → List Glossary
  | .program => [
    ⟨"Commands", commands.map fun t => (t.name, t.about)⟩,
    ⟨"Options", [helpOption, versionOption]⟩]
  | .help => [⟨"Arguments", [("[COMMAND]...", "Print help for the subcommand(s)")]⟩]
  | t => [⟨"Options", (t.parameters.map fun p => ("    " ++ p.term, p.about)) ++ [helpOption]⟩]

def usage : Topic → List String
  | .program => ["<COMMAND>"]
  | .help => ["help", "[COMMAND]..."]
  | t => t.name :: "[OPTIONS]" :: (t.parameters.filter (·.required)).map Parameter.term

def helpText (t : Topic) : String :=
  t.about ++ "\n\nUsage: " ++ " ".intercalate (program.name :: t.usage) ++ "\n"
    ++ String.join (t.glossaries.map Glossary.toText)

end Topic

end StoreQuery.CommandLine
