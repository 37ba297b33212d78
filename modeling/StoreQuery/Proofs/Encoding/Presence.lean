import StoreQuery.Proofs.Encoding.ByKey
import StoreQuery.Proofs.Encoding.Complement
import StoreQuery.Proofs.Text.Integer

/-!
Whether a map has an entry under a key, against reading the value under the key. The value is looked
up by the text of the key, while the entries are counted whose names read as the stored key. These
are the same entries where the key is stored as a text. An integer that is stored as such has the
entry that is looked up among the ones that are counted, but not as the only one.
-/

namespace StoreQuery

open Except (Yields)

namespace KeyedOp

variable {l : Leaf} {bin : String} {key : Json}

theorem tests_of_expression {op : KeyedOp} (reads : op.readsValue)
    (requireKey : l.requireKey = .ok key) :
    (op.expression l .json bin).Yields fun x =>
      ∃ test, x.Tests (fun r => r.mapValue? bin l.path key) test := by
  have compared (c : Comparison) (ty : ValueType) (v : Json) :=
    Expr.tests_compare (resolve_encodedKey bin l.path key l.settings ty) c v
  simp only [expression, requireKey, Except.ok_bind]
  cases op with
  | compare c =>
    apply Yields.bind
    intro v _
    apply Yields.bind
    intro ty _
    exact .ok ⟨_, compared c ty _⟩
  | between =>
    apply Yields.bind
    intro bounds _
    apply Yields.bind
    intro ty _
    exact .ok ⟨_, Expr.tests_allOf_pair (compared _ ty _) (compared _ ty _)⟩
  | startsWith | endsWith | containing =>
    apply Yields.bind
    intro v _
    apply Yields.bind
    intro text _
    exact .ok ⟨_, Expr.tests_regex (resolve_encodedKey bin l.path key l.settings .string) _ _⟩
  | present | absent => cases reads

end KeyedOp

/-- Keys that are stored as a text or as an integer. -/
inductive Settings.Stores (s : Settings) : Json → Prop
  | text (t : String) : s.Stores (.str t)
  | integer (n : Int64) : s.Stores (.int64 n)
  | number (n : Number) (h : s.keepKeyTypes = false) : s.Stores (.num n)
  | bool (b : Bool) (h : s.keepKeyTypes = false) : s.Stores (.bool b)

/-- The name of an entry stands for a key: it is the text of the key, or spells the integer that is
kept as such. -/
def Settings.Names (s : Settings) (key : Json) (name : String) : Prop :=
  key.keyText? = some name ∨
    s.keepKeyTypes = true ∧ ∃ n, key = .int64 n ∧ Text.readInt64? name.toList = some n

namespace Settings

variable {s : Settings} {key : Json} {t name : String}

theorem names_iff_of_text (stored : Encoder.json.encodeKey key s = .str t) :
    s.Names key name ↔ name = t := by
  have text : key.keyText? = some t := by
    rw [← Encoder.keyText?_encodeKey key s, stored]
    rfl
  rw [Names, text]
  constructor
  · rintro (same | ⟨kept, n, rfl, -⟩)
    · cases same
      rfl
    · simp [Encoder.json, kept] at stored
      cases stored
  · rintro rfl
    exact .inl rfl

theorem names_iff_of_integer {n : Int64} (kept : s.keepKeyTypes = true) :
    s.Names (.int64 n) name ↔ Text.readInt64? name.toList = some n := by
  constructor
  · rintro (same | ⟨-, m, isInt, reads⟩)
    · cases same
      exact Text.readInt64?_toString n
    · rw [reads, Json.int64_inj.1 isInt]
  · intro reads
    exact .inr ⟨kept, n, rfl, reads⟩

theorem Stores.cases (h : s.Stores key) :
    (∃ t, Encoder.json.encodeKey key s = .str t) ∨
      s.keepKeyTypes = true ∧ ∃ n, key = .int64 n := by
  cases kept : s.keepKeyTypes with
  | false =>
    left
    simp only [Encoder.json, kept, Bool.false_eq_true, if_false]
    cases h <;> exact ⟨_, rfl⟩
  | true =>
    cases h with
    | text t => exact .inl ⟨t, by simp [Encoder.json, kept]⟩
    | integer n => exact .inr ⟨rfl, n, rfl⟩
    | number _ h | bool _ h => simp [kept] at h

theorem selects_iff_names (h : s.Stores key) :
    let stored := Selector.value (Encoder.json.encodeKey key s)
    stored.selects (stored.keyValue name) ↔ s.Names key name := by
  intro stored
  rw [stored.keyValue_eq_ofKey]
  obtain ⟨t, text⟩ | ⟨kept, n, rfl⟩ := h.cases
  · simp only [stored, text, names_iff_of_text text, Selector.selects, Selector.isNumeric,
      Json.isNumber, Json.ofKey, Json.equal_str_iff, Json.str.injEq]
  · have asIs : Encoder.json.encodeKey (.int64 n) s = .int64 n := by simp [Encoder.json, kept]
    have isNumber : (Json.int64 n).isNumber = true := rfl
    simp only [stored, asIs, names_iff_of_integer kept, Selector.selects, Selector.isNumeric,
      isNumber, Json.ofKey]
    cases read : Text.readInt64? name.toList with
    | some m => simp [Json.equal_int64_iff (Json.indexable_int64 m)]
    | none =>
      have differs : (Json.str name).equal (.int64 n) = false := rfl
      simp [differs]

end Settings

theorem Selector.exists_selected_iff {s : Selector} {v : Json} :
    (∃ n, s.count .mapKeys v = some n ∧ 0 < n) ↔
      ∃ fields, v = .obj fields ∧ ∃ entry ∈ fields, s.selects (s.keyValue entry.1) := by
  cases v with
  | obj fields => simp [count, List.countP_pos_iff]
  | _ => simp [count]

namespace KeyedOp

variable {l : Leaf} {bin : String} {key : Json}

theorem evaluate_present_iff {s : Settings} {path : Path} (stores : s.Stores key) (r : Record) :
    (Expr.compare (.ineq .gt)
        (.count bin path .mapKeys (.value (Encoder.json.encodeKey key s)))
        (.literal (.int 0))).evaluate r = .holds ↔
      ∃ fields, (r.bin? bin).bind path.resolve = some (.obj fields) ∧
        ∃ entry ∈ fields, s.Names key entry.1 := by
  rw [Expr.evaluate_count_pos_iff]
  simp only [Selector.exists_selected_iff, Settings.selects_iff_names stores]
  constructor
  · rintro ⟨_, resolved, fields, rfl, found⟩
    exact ⟨fields, resolved, found⟩
  · rintro ⟨fields, resolved, found⟩
    exact ⟨_, resolved, fields, rfl, found⟩

end KeyedOp

namespace Leaf

def keyCount (l : Leaf) (bin : String) (key : Json) : Operand :=
  .count bin l.path .mapKeys (.value (Encoder.json.encodeKey key l.settings))

theorem expression_present {l : Leaf} {bin : String} {key : Json} (target : l.target = .field bin)
    (isPresent : l.op = .keyed .present) (hasKey : l.key = some key) :
    l.expression .json = .ok (.compare (.ineq .gt) (l.keyCount bin key) (.literal (.int 0))) := by
  simp only [expression, target, isPresent, KeyedOp.expression, requireKey_eq_ok hasKey]
  rfl

theorem expression_absent {l : Leaf} {bin : String} {key : Json} (target : l.target = .field bin)
    (isAbsent : l.op = .keyed .absent) (hasKey : l.key = some key) :
    l.expression .json = .ok (.compare .eq (l.keyCount bin key) (.literal (.int 0))) := by
  simp only [expression, target, isAbsent, KeyedOp.expression, requireKey_eq_ok hasKey]
  rfl

theorem mapValue?_ne_none_of_evaluate {m : Leaf} {bin : String} {key : Json} {op : KeyedOp}
    {z : Expr} {r : Record} (target : m.target = .field bin) (isKeyed : m.op = .keyed op)
    (hasKey : m.key = some key) (reads : op.readsValue) (compiled : m.expression .json = .ok z)
    (known : z.evaluate r ≠ .unknown) : r.mapValue? bin m.path key ≠ none := by
  simp only [expression, target, isKeyed] at compiled
  obtain ⟨test, tests⟩ := KeyedOp.tests_of_expression reads (requireKey_eq_ok hasKey) z compiled
  intro absent
  rw [tests.evaluate_eq, absent, tests.absent] at known
  exact known rfl

/-- A condition that reads the value under a key and finds one to compare finds the map to have the
key as well, and the map has it just when there is an entry whose name stands for the key. -/
theorem present_of_value_read {l : Leaf} {bin : String} {key : Json}
    (target : l.target = .field bin) (isPresent : l.op = .keyed .present)
    (hasKey : l.key = some key) (stores : l.settings.Stores key) :
    ∃ x y, l.expression .json = .ok x ∧
      { l with op := .keyed .absent }.expression .json = .ok y ∧
      ∀ r,
        (∀ (m : Leaf) (op : KeyedOp) (z : Expr), op.readsValue → m.op = .keyed op →
          m.target = l.target → m.key = l.key → m.path = l.path → m.settings = l.settings →
          m.expression .json = .ok z → z.evaluate r ≠ .unknown →
            x.evaluate r = .holds ∧ y.evaluate r = .fails) ∧
        (x.evaluate r = .holds ↔
          ∃ fields, (r.bin? bin).bind l.path.resolve = some (.obj fields) ∧
            ∃ entry ∈ fields, l.settings.Names key entry.1) := by
  have sameKey : l.key = { l with op := .keyed .absent }.key :=
    (twin_withOp (by rw [isPresent]; rfl)).key
  refine ⟨_, _, expression_present target isPresent hasKey,
    expression_absent target rfl (sameKey.symm.trans hasKey),
    fun r => ⟨?_, KeyedOp.evaluate_present_iff stores r⟩⟩
  intro m op z reads isKeyed sameTarget sameKey samePath _ read known
  have stored := mapValue?_ne_none_of_evaluate (sameTarget.trans target) isKeyed
    (sameKey.trans hasKey) reads read known
  rw [samePath] at stored
  obtain ⟨v, stored⟩ := Option.ne_none_iff_exists'.1 stored
  obtain ⟨fields, resolved, name, text, mem⟩ := Record.exists_entry_of_mapValue? stored
  have holds := (KeyedOp.evaluate_present_iff stores r).2
    ⟨fields, resolved, (name, v), mem, .inl text⟩
  have opposite := Expr.negates_count bin l.path .mapKeys
    (.value (Encoder.json.encodeKey key l.settings)) r
  rw [holds] at opposite
  exact ⟨holds, opposite⟩

theorem present_of_value_read_of_integer :
    let present : Leaf := {
      target := .field "m", op := .keyed .present, value1 := some (.int64 5),
      settings := { keepKeyTypes := true } }
    let equal := { present with op := .keyed (.compare .eq), value2 := some (.int 1) }
    let five : Record := { bins := [("m", .obj [("5", .int 2)])] }
    ∃ x y z, present.expression .json = .ok x ∧
      { present with op := .keyed .absent }.expression .json = .ok y ∧
      equal.expression .json = .ok z ∧ z.evaluate five ≠ .unknown ∧
      x.evaluate five = .holds ∧ y.evaluate five = .fails := by
  intro present equal five
  obtain ⟨x, y, compiled, compiledToo, meaning⟩ :=
    present_of_value_read (l := present) rfl rfl rfl (.integer 5)
  have known : (Expr.compare .eq (.mapValue "m" [] (.int64 5) .int) (.literal (.int 1))).evaluate
      five ≠ .unknown := by
    decide
  obtain ⟨holds, fails⟩ := (meaning five).1 equal (.compare .eq) _ rfl rfl rfl rfl rfl rfl rfl known
  exact ⟨x, y, _, compiled, compiledToo, rfl, known, holds, fails⟩

/-- Where the types of keys are kept, another spelling of an integer counts as the entry that no
comparison finds, and the entry that a comparison with a boolean key finds does not count. -/
theorem presence_apart_from_reading :
    let present (key : Json) : Leaf := {
      target := .field "m", op := .keyed .present, value1 := some key,
      settings := { keepKeyTypes := true } }
    let equal (key : Json) :=
      { present key with op := .keyed (.compare .eq), value2 := some (.int 1) }
    let holding (name : String) : Record := { bins := [("m", .obj [(name, .int 1)])] }
    (∃ x z, (present (.int 5)).expression .json = .ok x ∧
      (equal (.int 5)).expression .json = .ok z ∧
      x.evaluate (holding "05") = .holds ∧ z.evaluate (holding "05") = .unknown ∧
      (holding "05").mapValue? "m" [] (.int 5) = none) ∧
    ∃ x z, (present (.bool true)).expression .json = .ok x ∧
      (equal (.bool true)).expression .json = .ok z ∧
      z.evaluate (holding "true") = .holds ∧ x.evaluate (holding "true") = .fails := by
  exact ⟨⟨_, _, rfl, rfl, by decide, by decide, rfl⟩, _, _, rfl, rfl, by decide, by decide⟩

end Leaf

end StoreQuery
