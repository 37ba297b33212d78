import StoreQuery.Geometry
import StoreQuery.Index.Basic
import StoreQuery.Proofs.Json.Integer

/-!
The records that an index finds for a filter. An index lists a record under the value it covers, or
under every element of it; it knows strings, 64-bit integers and places on the map, and among the
keys of a map, which are strings, the integers that they spell.
-/

namespace StoreQuery

def IndexKey.value : IndexKey → Json
  | .int n => .int64 n
  | .string s => .str s

/-- The store's own way of reading a region, which a filter holds as text. -/
abbrev RegionReader := String → Option Json

def Json.LiesIn (v region : Json) : Prop :=
  ∃ point area, Geometry.ofJson? v = some point ∧ Geometry.ofJson? region = some area ∧
    area.contains point

def FilterKind.Matches (read : RegionReader) (v : Json) : FilterKind → Prop
  | .equal key => v = key.value
  | .range first last => ∃ n, v = .int64 n ∧ first ≤ n ∧ n ≤ last
  | .geoWithin text => ∃ region, read text = some region ∧ v.LiesIn region

/-- How an index of this type lists the key of a map, if it does. -/
def IndexType.keyEntry? : IndexType → String → Option Json
  | .numeric, key => (Text.readInt64? key.toList).map .int64
  | _, key => some (.str key)

def Coverage.entries (ty : IndexType) : Coverage → Json → List Json
  | .whole, v => [v]
  | .elements .list, .arr items => items
  | .elements .mapValues, .obj fields => fields.map Prod.snd
  | .elements .mapKeys, .obj fields => fields.filterMap fun (key, _) => ty.keyEntry? key
  | .elements _, _ => []

namespace IndexFilter

def target? (f : IndexFilter) (r : Record) : Option Json := (r.bin? f.bin).bind f.path.resolve

def entries (f : IndexFilter) (v : Json) : List Json := f.coverage.entries f.indexType v

def Admits (read : RegionReader) (f : IndexFilter) (r : Record) : Prop :=
  ∃ v, f.target? r = some v ∧ ∃ entry ∈ f.entries v, f.kind.Matches read entry

/-- The list or map whose elements the index lists holds no number but 64-bit integers. -/
def Int64Only (f : IndexFilter) (r : Record) : Prop :=
  f.coverage ≠ .whole → ∀ v, f.target? r = some v →
    ∀ entry ∈ f.entries v, entry.Indexable

variable {read : RegionReader} {f : IndexFilter} {r : Record}

theorem admits_whole_iff {bin : String} {kind : FilterKind} :
    Admits read { bin, kind } r ↔ ∃ v, r.bin? bin = some v ∧ kind.Matches read v := by
  simp only [Admits, target?, entries, Coverage.entries, List.mem_singleton, exists_eq_left]
  cases r.bin? bin <;> simp [Path.resolve]

end IndexFilter

end StoreQuery
