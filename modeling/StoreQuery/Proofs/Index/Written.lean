import StoreQuery.Proofs.Index.Listing
import Mathlib.Data.List.Forall2
import Mathlib.Data.List.Nodup

namespace StoreQuery.Listing

structure IsWord (s : String) : Prop where
  colon : ':' ∉ s.toList
  semicolon : ';' ∉ s.toList
  trimmed : Text.Trimmed s

instance (s : String) : Decidable (IsWord s) :=
  decidable_of_iff (':' ∉ s.toList ∧ ';' ∉ s.toList ∧ Text.Trimmed s)
    ⟨fun ⟨colon, semicolon, trimmed⟩ => ⟨colon, semicolon, trimmed⟩,
      fun ⟨colon, semicolon, trimmed⟩ => ⟨colon, semicolon, trimmed⟩⟩

structure Field where
  name : String
  value : String
  isWord_name : IsWord name := by decide
  isWord_value : IsWord value := by decide
  noEquals : '=' ∉ name.toList := by decide

/-- An entry, its fields in any order but with no name twice, and the blanks around it. Without
fields it is an empty entry. -/
structure Entry where
  fields : List Field
  before : String := ""
  after : String := ""
  distinct : (fields.map Field.name).Nodup := by decide
  blankBefore : Text.Blank before := by decide
  blankAfter : Text.Blank after := by decide

def Field.text (f : Field) : String := f.name ++ "=" ++ f.value

namespace Field

variable (f : Field)

theorem field?_text : field? f.text = some (f.name, f.value) := by
  have isField : IsField f.text (Text.trim f.name, Text.trim f.value) :=
    ⟨f.name, f.value, rfl, f.noEquals, rfl⟩
  rw [isField.field?_eq, Text.trim, Text.trim, f.isWord_name.trimmed.ofList_trimChars,
    f.isWord_value.trimmed.ofList_trimChars]

theorem trimmed_text : Text.Trimmed f.text :=
  f.isWord_name.trimmed.append (by decide) f.isWord_value.trimmed (by decide)

theorem colon_notMem_text : ':' ∉ f.text.toList := by
  simp [text, f.isWord_name.colon, f.isWord_value.colon]

theorem semicolon_notMem_text : ';' ∉ f.text.toList := by
  simp [text, f.isWord_name.semicolon, f.isWord_value.semicolon]

theorem text_ne_empty : f.text ≠ "" := by
  simp [text]

end Field

/-- Reading puts the last field first, which does not matter when no name comes twice. -/
theorem lookup_reverse {pairs : List (String × String)} (distinct : (pairs.map Prod.fst).Nodup)
    (name : String) : pairs.reverse.lookup name = pairs.lookup name := by
  induction pairs with
  | nil => rfl
  | cons pair rest ih =>
    obtain ⟨fresh, others⟩ := List.nodup_cons.1 distinct
    rw [List.reverse_cons, List.lookup_append, ih others, List.lookup_cons, List.lookup_cons]
    by_cases same : name = pair.1
    · subst same
      have absent : rest.lookup pair.1 = none := by
        rw [List.lookup_eq_none_iff]
        intro other mem
        simp only [bne_iff_ne]
        intro again
        exact fresh (List.mem_map.2 ⟨other, mem, again.symm⟩)
      simp [absent]
    · simp [beq_false_of_ne same]

namespace Entry

def core (x : Entry) : String := ":".intercalate (x.fields.map Field.text)

def text (x : Entry) : String := x.before ++ x.core ++ x.after

def pairs (x : Entry) : List (String × String) := x.fields.map fun f => (f.name, f.value)

def value? (x : Entry) (name : String) : Option String := x.pairs.lookup name

/-- No index is listed by an empty entry, nor by one that cannot be read or has a context. -/
structure Listed (x : Entry) : Prop where
  nonempty : x.fields ≠ []
  state : x.value? "state" ∈ [none, some "RW"]
  context : x.value? "context" ∈ [none, some "NULL"]

instance (x : Entry) : Decidable x.Listed :=
  decidable_of_iff
    (x.fields.isEmpty = false ∧ x.value? "state" ∈ [none, some "RW"] ∧
      x.value? "context" ∈ [none, some "NULL"])
    ⟨fun ⟨nonempty, state, context⟩ => ⟨by simpa using nonempty, state, context⟩,
      fun ⟨nonempty, state, context⟩ => ⟨by simpa using nonempty, state, context⟩⟩

structure Describes (x : Entry) (i : Index) : Prop where
  ns : x.value? "ns" = some i.ns
  name : x.value? "indexname" = some i.name
  bin : x.value? "bin" = some i.bin ∨ x.value? "bin" = none ∧ x.value? "bins" = some i.bin
  set : x.value? "set" = some i.set ∧ i.set ≠ "NULL" ∨
    i.set = "" ∧ x.value? "set" ∈ [none, some "NULL"]
  indexType : ∃ text, x.value? "type" = some text ∧ Text.lower text ∈ i.indexType.spellings
  coverage : (∃ text, x.value? "indextype" = some text ∧ Text.lower text ∈ i.coverage.spellings) ∨
    x.value? "indextype" = none ∧ i.coverage = .whole
  path : i.path = []
  selectivity : i.selectivity = 0

variable (x : Entry) {i : Index} {indexes : List Index}

theorem semicolon_notMem_text : ';' ∉ x.text.toList := by
  have core : ';' ∉ x.core.toList := by
    apply Text.notMem_intercalate (by decide)
    simpa using fun f _ => f.semicolon_notMem_text
  have visible : Text.isBlank ';' = false := by decide
  simp [text, core, x.blankBefore.notMem visible, x.blankAfter.notMem visible]

theorem core_ne_empty (nonempty : x.fields ≠ []) : x.core ≠ "" := by
  obtain ⟨f, rest, fields⟩ := List.exists_cons_of_ne_nil nonempty
  rw [core, fields, List.map_cons]
  cases rest.map Field.text with
  | nil => simp [f.text_ne_empty]
  | cons t rest => simp [String.intercalate_cons_cons]

theorem trim_text : Text.trim x.text = x.core := by
  apply Text.trim_padded x.blankBefore _ x.blankAfter
  apply Text.Trimmed.intercalate (by decide) (by decide)
  simpa using fun f _ => f.trimmed_text

theorem fields_core (nonempty : x.fields ≠ []) :
    Listing.fields ':' x.core = .ok x.pairs.reverse := by
  have parts : Text.split ':' x.core = x.fields.map Field.text := by
    apply Text.split_intercalate (by simpa using nonempty)
    simpa using fun f _ => f.colon_notMem_text
  have filled : (x.fields.map Field.text).filter (· ≠ "") = x.fields.map Field.text := by
    rw [List.filter_eq_self]
    simpa using fun f _ => f.text_ne_empty
  rw [Listing.fields, parts, filled, List.mapM_map,
    Except.mapM_eq_ok (g := fun f : Field => (f.name, f.value)) fun f _ => by
      simp only [Function.comp_apply, fieldOf, f.field?_text]]
  rfl

@[simp] theorem lookup_pairs_reverse (name : String) :
    x.pairs.reverse.lookup name = x.value? name := by
  apply lookup_reverse
  simpa [pairs, Function.comp_def] using x.distinct

theorem setOf_eq_iff {set : String} :
    setOf x.pairs.reverse = set ↔
      x.value? "set" = some set ∧ set ≠ "NULL" ∨
        set = "" ∧ x.value? "set" ∈ [none, some "NULL"] := by
  rw [Listing.setOf_eq_iff, lookup_pairs_reverse]

theorem indexOf_eq_ok_iff (entry : String) :
    indexOf entry x.pairs.reverse = .ok i ↔ x.Describes i := by
  simp only [indexOf, Except.bind_eq_ok_iff, require_eq_ok_iff, binOf_eq_ok_iff,
    typeOf_eq_ok_iff, coverageOf_eq_ok_iff, lookup_pairs_reverse, Except.pure_eq_ok,
    Except.ok.injEq]
  constructor
  · rintro ⟨ns, hns, name, hname, bin, hbin, indexType, htype, coverage, hcoverage, rfl⟩
    exact ⟨hns, hname, hbin, x.setOf_eq_iff.1 rfl, htype, hcoverage, rfl, rfl⟩
  · intro described
    refine ⟨i.ns, described.ns, i.name, described.name, i.bin, described.bin, i.indexType,
      described.indexType, i.coverage, described.coverage, ?_⟩
    rw [x.setOf_eq_iff.2 described.set, ← described.path, ← described.selectivity]

theorem isReadable_iff :
    isReadable x.pairs.reverse = true ↔
      x.value? "state" ∈ [none, some "RW"] ∧ x.value? "context" ∈ [none, some "NULL"] := by
  rw [Listing.isReadable_iff, lookup_pairs_reverse, lookup_pairs_reverse]

theorem parse_text (nonempty : x.fields ≠ []) :
    parse x.text =
      if isReadable x.pairs.reverse then (do return [← indexOf x.core x.pairs.reverse])
      else .ok [] := by
  have filled : Text.trim x.text ≠ "" := by
    rw [trim_text]
    exact x.core_ne_empty nonempty
  rw [parse_of_entry x.semicolon_notMem_text filled, trim_text, entry?, x.fields_core nonempty,
    Except.ok_bind]
  split
  · rw [bind_assoc]
    rfl
  · rfl

theorem parse_text_of_listed (listed : x.Listed) :
    parse x.text = .ok indexes ↔ ∃ i, x.Describes i ∧ indexes = [i] := by
  rw [x.parse_text listed.nonempty, if_pos (x.isReadable_iff.2 ⟨listed.state, listed.context⟩),
    Except.bind_pure_eq_ok_iff]
  simp only [x.indexOf_eq_ok_iff]

theorem parse_text_of_not_listed (passed : ¬x.Listed) : parse x.text = .ok [] := by
  by_cases empty : x.fields = []
  · apply parse_of_blank x.semicolon_notMem_text
    rw [trim_text, core, empty]
    rfl
  · have unreadable : ¬isReadable x.pairs.reverse = true := by
      intro readable
      obtain ⟨state, context⟩ := x.isReadable_iff.1 readable
      exact passed ⟨empty, state, context⟩
    rw [x.parse_text empty, if_neg unreadable]

structure Complete (x : Entry) : Prop where
  ns : ∃ ns, x.value? "ns" = some ns
  name : ∃ name, x.value? "indexname" = some name
  bin : ∃ bin, x.value? "bin" = some bin ∨ x.value? "bin" = none ∧ x.value? "bins" = some bin
  indexType : ∃ text t, x.value? "type" = some text ∧ Text.lower text ∈ IndexType.spellings t
  coverage : x.value? "indextype" = none ∨
    ∃ text c, x.value? "indextype" = some text ∧ Text.lower text ∈ Coverage.spellings c

theorem Complete.describes {x : Entry} (complete : x.Complete) : ∃ i, x.Describes i := by
  obtain ⟨ns, hns⟩ := complete.ns
  obtain ⟨name, hname⟩ := complete.name
  obtain ⟨bin, hbin⟩ := complete.bin
  obtain ⟨text, t, htype⟩ := complete.indexType
  have set := x.setOf_eq_iff.1 rfl
  obtain absent | ⟨text, c, covered⟩ := complete.coverage
  · exact ⟨⟨name, ns, _, bin, t, .whole, [], 0⟩, hns, hname, hbin, set, ⟨_, htype⟩,
      .inr ⟨absent, rfl⟩, rfl, rfl⟩
  · exact ⟨⟨name, ns, _, bin, t, c, [], 0⟩, hns, hname, hbin, set, ⟨_, htype⟩,
      .inl ⟨text, covered⟩, rfl, rfl⟩

end Entry

def write (entries : List Entry) : String := ";".intercalate (entries.map Entry.text)

theorem parse_write_nil : parse (write []) = .ok [] := rfl

theorem parse_write_cons (x : Entry) (rest : List Entry) :
    parse (write (x :: rest)) = do return (← parse x.text) ++ (← parse (write rest)) := by
  cases rest with
  | nil =>
    rw [parse_write_nil, write, List.map_cons, List.map_nil, String.intercalate_singleton]
    cases parse x.text <;> simp
  | cons y rest =>
    rw [← parse_append, write, List.map_cons, List.map_cons, String.intercalate_cons_cons]
    rfl

theorem parse_write_eq_ok_iff (entries : List Entry) {indexes : List Index} :
    parse (write entries) = .ok indexes ↔
      List.Forall₂ Entry.Describes (entries.filter (·.Listed)) indexes := by
  induction entries generalizing indexes with
  | nil => simp [parse_write_nil, eq_comm]
  | cons x rest ih =>
    rw [parse_write_cons]
    by_cases listed : x.Listed
    · rw [List.filter_cons_of_pos (by simpa using listed), List.forall₂_cons_left_iff]
      simp only [Except.bind_eq_ok_iff, x.parse_text_of_listed listed, ih, Except.pure_eq_ok,
        Except.ok.injEq]
      constructor
      · rintro ⟨_, ⟨i, described, rfl⟩, others, listedOthers, rfl⟩
        exact ⟨i, others, described, listedOthers, rfl⟩
      · rintro ⟨i, others, described, listedOthers, rfl⟩
        exact ⟨[i], ⟨i, described, rfl⟩, others, listedOthers, rfl⟩
    · rw [List.filter_cons_of_neg (by simpa using listed), x.parse_text_of_not_listed listed, ← ih]
      cases parse (write rest) <;> simp

theorem exists_described {entries : List Entry} (complete : ∀ x ∈ entries, x.Listed → x.Complete) :
    ∃ indexes, List.Forall₂ Entry.Describes (entries.filter (·.Listed)) indexes := by
  induction entries with
  | nil => exact ⟨[], .nil⟩
  | cons x rest ih =>
    obtain ⟨first, others⟩ := List.forall_mem_cons.1 complete
    obtain ⟨indexes, described⟩ := ih others
    by_cases listed : x.Listed
    · obtain ⟨i, hi⟩ := (first listed).describes
      exact ⟨i :: indexes, by simpa [listed] using ⟨hi, described⟩⟩
    · exact ⟨indexes, by simpa [listed] using described⟩

/-- Reading a listing gives the one list of indexes that its entries describe, in their order.
Entries that list no index may lack fields. -/
theorem parse_write (entries : List Entry) (complete : ∀ x ∈ entries, x.Listed → x.Complete) :
    ∃ indexes, parse (write entries) = .ok indexes ∧
      ∀ described, List.Forall₂ Entry.Describes (entries.filter (·.Listed)) described ↔
        described = indexes := by
  obtain ⟨indexes, described⟩ := exists_described complete
  have parsed : parse (write entries) = .ok indexes := (parse_write_eq_ok_iff entries).2 described
  refine ⟨indexes, parsed, fun others => ?_⟩
  rw [← parse_write_eq_ok_iff, parsed, Except.ok.injEq]
  exact eq_comm

def olderEntries : List Entry := [
  { fields := [.mk "ns" "test", .mk "state" "WO"], after := "\n" },
  { fields := [], before := "  " },
  { fields := [.mk "type" "GeoJSON", .mk "bins" "a=b", .mk "set" "NULL", .mk "ns" "test",
      .mk "node" "n 1", .mk "indexname" "i"], before := "\t " }]

theorem parse_write_of_olderEntries :
    (∀ x ∈ olderEntries, x.Listed → x.Complete) ∧
      parse "ns=test:state=WO\n;  ;\t type=GeoJSON:bins=a=b:set=NULL:ns=test:node=n 1:indexname=i" =
        .ok [{ name := "i", ns := "test", bin := "a=b", indexType := .geo2dSphere }] := by
  have complete : ∀ x ∈ olderEntries, x.Listed → x.Complete := by
    rintro x (_ | ⟨_, _ | ⟨_, _ | ⟨_, ⟨⟩⟩⟩⟩) listed
    · exact absurd listed (by decide)
    · exact absurd listed (by decide)
    · exact ⟨⟨"test", rfl⟩, ⟨"i", rfl⟩, ⟨"a=b", .inr ⟨rfl, rfl⟩⟩,
        ⟨"GeoJSON", .geo2dSphere, rfl, by decide⟩, .inl rfl⟩
  obtain ⟨indexes, parsed, described⟩ := parse_write olderEntries complete
  obtain rfl :=
    (described [{ name := "i", ns := "test", bin := "a=b", indexType := .geo2dSphere }]).1
      (.cons ⟨rfl, rfl, .inr ⟨rfl, rfl⟩, .inr ⟨rfl, by decide⟩, ⟨"GeoJSON", rfl, by decide⟩,
        .inr ⟨rfl, rfl⟩, rfl, rfl⟩ .nil)
  exact ⟨complete, parsed⟩

end StoreQuery.Listing
