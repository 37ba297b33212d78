import StoreQuery.Proofs.Index.Catalog
import StoreQuery.Proofs.Index.Listing

namespace StoreQuery

namespace Listing

def HasFields (statistics : String) (pairs : List (String × String)) : Prop :=
  List.Forall₂ IsField ((Text.split ';' (Text.trim statistics)).filter (· ≠ "")) pairs

/-- The last field for the entries per value counts. Without one the number is zero. -/
inductive Gives (statistics : String) : UInt64 → Prop
  | last {pairs before after : List (String × String)} {value : String} {n : UInt64}
    (hasFields : HasFields statistics pairs)
    (split : pairs = before ++ ("entries_per_bval", value) :: after)
    (noLater : ∀ pair ∈ after, pair.1 ≠ "entries_per_bval")
    (read : Text.readUInt64? value.toList = some n) : Gives statistics n
  | absent {pairs : List (String × String)} (hasFields : HasFields statistics pairs)
    (noField : ∀ pair ∈ pairs, pair.1 ≠ "entries_per_bval") : Gives statistics 0

theorem lookup_reverse_eq_some_iff {pairs : List (String × String)} {name value : String} :
    pairs.reverse.lookup name = some value ↔
      ∃ before after, pairs = before ++ (name, value) :: after ∧
        ∀ pair ∈ after, pair.1 ≠ name := by
  rw [List.lookup_eq_some_iff]
  constructor
  · rintro ⟨after, before, reversed, others⟩
    refine ⟨before.reverse, after.reverse, ?_, fun pair mem => ?_⟩
    · simpa using congrArg List.reverse reversed
    · exact (bne_iff_ne.1 (others pair (List.mem_reverse.1 mem))).symm
  · rintro ⟨before, after, rfl, others⟩
    refine ⟨after.reverse, before.reverse, by simp, fun pair mem => ?_⟩
    exact bne_iff_ne.2 (others pair (List.mem_reverse.1 mem)).symm

theorem lookup_reverse_eq_none_iff {pairs : List (String × String)} {name : String} :
    pairs.reverse.lookup name = none ↔ ∀ pair ∈ pairs, pair.1 ≠ name := by
  simp only [List.lookup_eq_none_iff, List.mem_reverse, bne_iff_ne, ne_comm]

theorem selectivity_eq_ok_iff {name statistics : String} {n : UInt64} :
    selectivity name statistics = .ok n ↔ Gives statistics n := by
  simp only [selectivity, Except.bind_eq_ok_iff, fields_eq_ok_iff]
  constructor
  · rintro ⟨_, ⟨pairs, hasFields, rfl⟩, h⟩
    cases found : pairs.reverse.lookup "entries_per_bval" with
    | none =>
      rw [found] at h
      obtain rfl := Except.ok.inj h
      exact .absent hasFields (lookup_reverse_eq_none_iff.1 found)
    | some value =>
      obtain ⟨before, after, split, noLater⟩ := lookup_reverse_eq_some_iff.1 found
      cases read : Text.readUInt64? value.toList with
      | none =>
        simp only [found, read] at h
        cases h
      | some m =>
        simp only [found, read] at h
        obtain rfl := Except.ok.inj h
        exact .last hasFields split noLater read
  · intro gives
    cases gives with
    | last hasFields split noLater read =>
      have found := lookup_reverse_eq_some_iff.2 ⟨_, _, split, noLater⟩
      exact ⟨_, ⟨_, hasFields, rfl⟩, by simp [found, read]⟩
    | absent hasFields noField =>
      have found := lookup_reverse_eq_none_iff.2 noField
      exact ⟨_, ⟨_, hasFields, rfl⟩, by rw [found]; rfl⟩

theorem indexOf_yields (entry : String) (pairs : List (String × String)) :
    (indexOf entry pairs).Yields fun i => i.selectivity = 0 := by
  rw [indexOf]
  iterate 5
    apply Except.Yields.bind
    intro _ _
  exact .ok rfl

theorem entry?_yields (entry : String) :
    Except.Yields (fun found => ∀ i ∈ found, i.selectivity = 0) <| entry? entry := by
  apply Except.Yields.bind
  intro pairs _
  split
  · apply Except.Yields.bind
    intro i read
    exact .ok (by simpa using indexOf_yields entry pairs i read)
  · exact .ok nofun

theorem parse_yields (text : String) :
    (parse text).Yields fun listed => ∀ i ∈ listed, i.selectivity = 0 := by
  apply Except.Yields.bind
  intro found read
  apply Except.Yields.ok
  intro i mem
  obtain ⟨_, memFound, rfl⟩ := List.mem_filterMap.1 mem
  exact Except.Yields.mapM entry?_yields _ found read _ memFound i rfl

end Listing

namespace Index

variable {statistics : List (String × String)} {i j : Index}

/-- An index as it is listed, but for the selectivity that the statistics under its name give. -/
inductive MeasuredBy (statistics : List (String × String)) : Index → Index → Prop
  | measured {i : Index} {s : String} {n : UInt64} (named : statistics.lookup i.name = some s)
    (gives : Listing.Gives s n) : MeasuredBy statistics i { i with selectivity := n }
  | unknown {i : Index} (unnamed : statistics.lookup i.name = none) :
    MeasuredBy statistics i { i with selectivity := 0 }

theorem measure_eq_ok_iff (unmeasured : i.selectivity = 0) :
    i.measure statistics = .ok j ↔ MeasuredBy statistics i j := by
  constructor
  · intro h
    cases found : statistics.lookup i.name with
    | none =>
      simp only [measure, found, Except.ok.injEq] at h
      subst h
      -- The zero that it is listed with stays.
      have unknown := MeasuredBy.unknown found
      rwa [← unmeasured] at unknown
    | some s =>
      simp only [measure, found, Except.bind_pure_eq_ok_iff, Listing.selectivity_eq_ok_iff] at h
      obtain ⟨n, gives, rfl⟩ := h
      exact .measured found gives
  · intro h
    cases h with
    | measured named gives => simp [measure, named, Listing.selectivity_eq_ok_iff.2 gives]
    | unknown unnamed => simp [measure, unnamed, ← unmeasured]

theorem measure_eq_error_iff {err : ListingError} : i.measure statistics = .error err ↔
    ∃ s, statistics.lookup i.name = some s ∧ Listing.selectivity i.name s = .error err := by
  cases found : statistics.lookup i.name with
  | none => simp [measure, found]
  | some s => simp [measure, found, Except.bind_eq_error_iff]

def IsMeasurable (statistics : List (String × String)) (i : Index) : Prop :=
  ∀ s, statistics.lookup i.name = some s → ∃ n, Listing.Gives s n

theorem exists_measure_iff : (∃ j, i.measure statistics = .ok j) ↔ i.IsMeasurable statistics := by
  rw [IsMeasurable]
  cases found : statistics.lookup i.name with
  | none => simp [measure, found]
  | some s => simp [measure, found, Except.bind_eq_ok_iff, Listing.selectivity_eq_ok_iff]

theorem mapM_measure_eq_ok_iff {listed held : List Index}
    (unmeasured : ∀ i ∈ listed, i.selectivity = 0) :
    listed.mapM (measure statistics) = .ok held ↔
      List.Forall₂ (MeasuredBy statistics) listed held := by
  have each {R : Index → Index → Prop} (h : List.Forall₂ R listed held) :=
    (List.forall₂_and_left listed held).2 ⟨unmeasured, h⟩
  rw [Except.mapM_eq_ok_iff]
  constructor
  · intro h
    exact (each h).imp fun _ _ ⟨zero, measured⟩ => (measure_eq_ok_iff zero).1 measured
  · intro h
    exact (each h).imp fun _ _ ⟨zero, measured⟩ => (measure_eq_ok_iff zero).2 measured

end Index

namespace Catalog

section Listing

variable {text : String} {statistics : List (String × String)}

theorem ofListing_eq_ok_iff {c : Catalog} : ofListing text statistics = .ok c ↔
    ∃ listed held, Listing.parse text = .ok listed ∧
      List.Forall₂ (Index.MeasuredBy statistics) listed held ∧ c = ofList held := by
  simp only [ofListing, Except.bind_eq_ok_iff]
  apply exists_congr
  intro listed
  rw [exists_and_left]
  apply and_congr_right
  intro read
  have unmeasured := Listing.parse_yields text listed read
  simp only [Index.mapM_measure_eq_ok_iff unmeasured, Except.pure_eq_ok, Except.ok.injEq, eq_comm]

theorem exists_ofListing_iff : (∃ c, ofListing text statistics = .ok c) ↔
    ∃ listed, Listing.parse text = .ok listed ∧ ∀ i ∈ listed, i.IsMeasurable statistics := by
  simp only [← Index.exists_measure_iff, ← Except.exists_mapM_eq_ok_iff]
  cases read : Listing.parse text with
  | error err => simp [ofListing, read]
  | ok listed => simp [ofListing, read, Except.bind_eq_ok_iff, exists_comm]

theorem ofListing_eq_error_iff {err : ListingError} : ofListing text statistics = .error err ↔
    Listing.parse text = .error err ∨
      ∃ before i after s, Listing.parse text = .ok (before ++ i :: after) ∧
        (∀ j ∈ before, j.IsMeasurable statistics) ∧
        statistics.lookup i.name = some s ∧ Listing.selectivity i.name s = .error err := by
  rw [ofListing, Except.bind_eq_error_iff]
  simp only [Except.bind_pure_eq_error_iff, Except.mapM_eq_error_iff, Index.measure_eq_error_iff,
    Index.exists_measure_iff]
  apply or_congr_right
  constructor
  · rintro ⟨_, read, before, i, after, rfl, measurable, s, named, failed⟩
    exact ⟨before, i, after, s, read, measurable, named, failed⟩
  · rintro ⟨before, i, after, s, read, measurable, named, failed⟩
    exact ⟨_, read, before, i, after, rfl, measurable, s, named, failed⟩

/-- A listing is read entry by entry until one fails. A catalog holds all that is listed, with the
selectivities that the statistics give, or there is none for the first error in the listing, or for
that of the first index whose statistics cannot be read. -/
theorem ofListing_all_or_nothing :
    (∀ a b, Listing.parse (a ++ ";" ++ b) = match Listing.parse a, Listing.parse b with
      | .error err, _ => .error err
      | .ok _, .error err => .error err
      | .ok listed, .ok others => .ok (listed ++ others)) ∧
    ∀ text statistics,
      ((∃ c, ofListing text statistics = .ok c) ↔
        ∃ listed, Listing.parse text = .ok listed ∧ ∀ i ∈ listed, i.IsMeasurable statistics) ∧
      (∀ c, ofListing text statistics = .ok c →
        ∃ listed held, Listing.parse text = .ok listed ∧
          List.Forall₂ (Index.MeasuredBy statistics) listed held ∧
          c = ofList held ∧ c.toList.Perm held) ∧
      ∀ err, ofListing text statistics = .error err ↔
        Listing.parse text = .error err ∨
          ∃ before i after s, Listing.parse text = .ok (before ++ i :: after) ∧
            (∀ j ∈ before, j.IsMeasurable statistics) ∧
            statistics.lookup i.name = some s ∧ Listing.selectivity i.name s = .error err := by
  refine ⟨fun a b => ?_, fun text statistics => ⟨exists_ofListing_iff, fun c h => ?_,
    fun err => ofListing_eq_error_iff⟩⟩
  · rw [Listing.parse_append]
    cases Listing.parse a with
    | error => rfl
    | ok => cases Listing.parse b <;> rfl
  · obtain ⟨listed, held, read, measured, rfl⟩ := ofListing_eq_ok_iff.1 h
    exact ⟨listed, held, read, measured, rfl, ofList_perm held⟩

theorem ofListing_all_or_nothing_of_two_indexes :
    let a : Index := { name := "a", ns := "n", bin := "x", indexType := .string }
    let b : Index := { name := "b", ns := "n", bin := "y", indexType := .blob }
    let first := "ns=n:indexname=a:bin=x:type=text"
    let second := " indexname=b:ns=n:bin=y:type=blob"
    let given := [("b", "entries_per_bval=x; entries_per_bval = +4")]
    let text := first ++ ";" ++ second
    Listing.parse text = .ok ([a] ++ [b]) ∧
      Listing.Gives "entries_per_bval=x; entries_per_bval = +4" 4 ∧
      (∃ c held, ofListing text given = .ok c ∧
        List.Forall₂ (Index.MeasuredBy given) ([a] ++ [b]) held ∧ c.toList.Perm held) ∧
      ofListing text [("b", "entries"), ("a", "entries_per_bval=-1")] =
        .error (.invalidStatistic "a" "-1") := by
  have readFirst : Listing.parse "ns=n:indexname=a:bin=x:type=text" =
      .ok [{ name := "a", ns := "n", bin := "x", indexType := .string }] := by rfl
  have readSecond : Listing.parse " indexname=b:ns=n:bin=y:type=blob" =
      .ok [{ name := "b", ns := "n", bin := "y", indexType := .blob }] := by rfl
  have gives : Listing.Gives "entries_per_bval=x; entries_per_bval = +4" 4 :=
    Listing.selectivity_eq_ok_iff.1 (by rfl : Listing.selectivity "b" _ = .ok 4)
  have refused : Listing.selectivity "a" "entries_per_bval=-1" =
      .error (.invalidStatistic "a" "-1") := by rfl
  intro a b first second given text
  obtain ⟨composes, wholeOrNone⟩ := ofListing_all_or_nothing
  have read : Listing.parse text = .ok ([a] ++ [b]) := by
    rw [composes]
    simp only [first, second, readFirst, readSecond, a, b]
  have measurable : ∀ i ∈ [a] ++ [b], i.IsMeasurable given := by
    rintro i (_ | ⟨_, _ | ⟨_, ⟨⟩⟩⟩) s named
    · cases named
    · obtain rfl := Option.some.inj named
      exact ⟨4, gives⟩
  obtain ⟨c, made⟩ := (wholeOrNone text given).1.2 ⟨_, read, measurable⟩
  obtain ⟨listed, held, readAgain, measured, -, perm⟩ := (wholeOrNone text given).2.1 c made
  obtain rfl := Except.ok.inj (read.symm.trans readAgain)
  exact ⟨read, gives, ⟨c, held, made, measured, perm⟩,
    ((wholeOrNone text _).2.2 _).2 (.inr ⟨[], a, [b], _, read, nofun, rfl, refused⟩)⟩

end Listing

end Catalog

end StoreQuery
