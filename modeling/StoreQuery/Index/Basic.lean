import StoreQuery.Expr.Text

namespace StoreQuery

inductive IndexType
  | numeric
  | string
  | blob
  | geo2dSphere
  deriving DecidableEq

inductive Coverage
  | whole
  | elements (e : Elements)
  deriving DecidableEq

namespace IndexType

def name : IndexType → String
  | .numeric => "numeric"
  | .string => "string"
  | .blob => "blob"
  | .geo2dSphere => "geo2dsphere"

def ofText? (s : String) : Option IndexType :=
  match Text.lower s with
  | "numeric" => some .numeric
  | "integer" => some .numeric
  | "string" => some .string
  | "text" => some .string
  | "blob" => some .blob
  | "geo2dsphere" => some .geo2dSphere
  | "geojson" => some .geo2dSphere
  | _ => none

end IndexType

namespace Coverage

def all : List Coverage := [.whole, .elements .list, .elements .mapKeys, .elements .mapValues]

def name : Coverage → String
  | .whole => "default"
  | .elements .list => "list"
  | .elements .mapKeys => "mapkeys"
  | .elements .mapValues => "mapvalues"

def ofText? (s : String) : Option Coverage :=
  match Text.lower s with
  | "default" => some .whole
  | "none" => some .whole
  | "list" => some (.elements .list)
  | "mapkeys" => some (.elements .mapKeys)
  | "mapvalues" => some (.elements .mapValues)
  | _ => none

end Coverage

inductive IndexKey
  | int (n : Int64)
  | string (s : String)
  deriving DecidableEq

/-- Ranges hold both their ends. A region is kept as its text. -/
inductive FilterKind
  | equal (key : IndexKey)
  | range (first last : Int64)
  | geoWithin (region : String)
  deriving DecidableEq

structure IndexFilter where
  bin : String
  coverage : Coverage := .whole
  path : Path := []
  kind : FilterKind

namespace IndexFilter

def indexType (f : IndexFilter) : IndexType :=
  match f.kind with
  | .equal (.int _) => .numeric
  | .equal (.string _) => .string
  | .range _ _ => .numeric
  | .geoWithin _ => .geo2dSphere

end IndexFilter

def IndexKey.toText : IndexKey → String
  | .int n => toString n.toInt
  | .string s => Text.quoted s

def FilterKind.toText : FilterKind → String
  | .equal key => "== " ++ key.toText
  | .range first last => "in [" ++ toString first.toInt ++ ", " ++ toString last.toInt ++ "]"
  | .geoWithin region => "within " ++ region

def IndexFilter.toText (f : IndexFilter) : String :=
  binPathText f.bin f.path
    ++ (if f.coverage = .whole then "" else "[" ++ f.coverage.name ++ "]")
    ++ " " ++ f.kind.toText

/-- An index; its selectivity is the average number of entries per value, zero where unknown. -/
structure Index where
  name : String
  ns : String
  set : String := ""
  bin : String
  indexType : IndexType
  coverage : Coverage := .whole
  path : Path := []
  selectivity : UInt64 := 0

namespace Index

def onBin (indexType : IndexType) (ns set bin : String) : Index where
  name := set ++ "_" ++ bin ++ "_idx"
  ns := ns
  set := set
  bin := bin
  indexType := indexType

def serves (i : Index) (f : IndexFilter) : Bool :=
  i.bin == f.bin && i.indexType == f.indexType && i.coverage == f.coverage && i.path == f.path

end Index

end StoreQuery
