import StoreQuery.Index.Listing
import StoreQuery.Proofs.Except
import StoreQuery.Proofs.Text.Word

namespace StoreQuery

def IndexType.spellings : IndexType → List String
  | .numeric => ["numeric", "integer"]
  | .string => ["string", "text"]
  | .blob => ["blob"]
  | .geo2dSphere => ["geo2dsphere", "geojson"]

def Coverage.spellings : Coverage → List String
  | .whole => ["default", "none"]
  | .elements .list => ["list"]
  | .elements .mapKeys => ["mapkeys"]
  | .elements .mapValues => ["mapvalues"]

theorem IndexType.ofText?_eq_some_iff {s : String} {t : IndexType} :
    ofText? s = some t ↔ Text.lower s ∈ t.spellings := by
  unfold ofText?
  split <;> cases t <;> simp_all [spellings]

theorem Coverage.ofText?_eq_some_iff {s : String} {c : Coverage} :
    ofText? s = some c ↔ Text.lower s ∈ c.spellings := by
  unfold ofText?
  cases c with
  | whole => split <;> simp_all [spellings]
  | elements es => split <;> cases es <;> simp_all [spellings]

namespace Listing

section Reading

variable {entry : String} {pairs : List (String × String)}

def IsField (part : String) (pair : String × String) : Prop :=
  ∃ name value, part = name ++ "=" ++ value ∧ '=' ∉ name.toList ∧
    pair = (Text.trim name, Text.trim value)

theorem IsField.field?_eq {part : String} {pair : String × String} (h : IsField part pair) :
    field? part = some pair := by
  obtain ⟨name, value, rfl, noEquals, rfl⟩ := h
  have plain : ∀ c ∈ name.toList, decide (c ≠ '=') = true := by
    intro c mem
    simp only [decide_eq_true_eq]
    rintro rfl
    exact noEquals mem
  have text : (name ++ "=" ++ value).toList = name.toList ++ '=' :: value.toList := by simp
  have before : (name ++ "=" ++ value).toList.takeWhile (· ≠ '=') = name.toList := by
    rw [text, List.takeWhile_append_of_pos plain]
    simp
  have after : (name ++ "=" ++ value).toList.dropWhile (· ≠ '=') = '=' :: value.toList := by
    rw [text, List.dropWhile_append_of_pos plain]
    simp
  simp only [field?, before, after]
  rfl

theorem field?_eq_none {part : String} (h : '=' ∉ part.toList) : field? part = none := by
  have nothing : part.toList.dropWhile (· ≠ '=') = [] := by
    rw [List.dropWhile_eq_nil_iff]
    intro c mem
    simp only [decide_eq_true_eq]
    rintro rfl
    exact h mem
  simp only [field?, nothing]

theorem field?_eq_some_iff {part : String} {pair : String × String} :
    field? part = some pair ↔ IsField part pair := by
  constructor
  · intro h
    by_cases mem : '=' ∈ part.toList
    · obtain ⟨name, value, text, noEquals⟩ := List.eq_append_cons_of_mem mem
      have split : part = String.ofList name ++ "=" ++ String.ofList value := by
        rw [← String.toList_inj, text]
        simp
      have isField :
          IsField part (Text.trim (String.ofList name), Text.trim (String.ofList value)) :=
        ⟨_, _, split, by simpa using noEquals, rfl⟩
      rw [isField.field?_eq] at h
      obtain rfl := Option.some.inj h
      exact isField
    · rw [field?_eq_none mem] at h
      cases h
  · exact IsField.field?_eq

theorem fieldOf_eq_ok_iff {part : String} {pair : String × String} :
    fieldOf entry part = .ok pair ↔ IsField part pair := by
  rw [← field?_eq_some_iff, fieldOf]
  cases field? part <;> simp

theorem fields_eq_ok_iff {separator : Char} : fields separator entry = .ok pairs ↔
    ∃ inOrder, List.Forall₂ IsField ((Text.split separator entry).filter (· ≠ "")) inOrder ∧
      pairs = inOrder.reverse := by
  simp only [fields, Except.bind_pure_eq_ok_iff, Except.mapM_eq_ok_iff, fieldOf_eq_ok_iff]

theorem require_eq_ok_iff {key value : String} :
    require entry pairs key = .ok value ↔ pairs.lookup key = some value := by
  unfold require
  cases pairs.lookup key <;> simp

theorem binOf_eq_ok_iff {bin : String} :
    binOf entry pairs = .ok bin ↔
      pairs.lookup "bin" = some bin ∨
        pairs.lookup "bin" = none ∧ pairs.lookup "bins" = some bin := by
  rw [← Option.or_eq_some_iff, binOf]
  cases (pairs.lookup "bin").or (pairs.lookup "bins") <;> simp

theorem setOf_eq_iff {set : String} :
    setOf pairs = set ↔
      pairs.lookup "set" = some set ∧ set ≠ "NULL" ∨
        set = "" ∧ pairs.lookup "set" ∈ [none, some "NULL"] := by
  unfold setOf
  cases pairs.lookup "set" with
  | none => simp [eq_comm]
  | some named =>
    by_cases null : named = "NULL"
    · subst null
      simp only [Option.some.injEq, List.mem_cons, reduceCtorEq, List.not_mem_nil, or_false,
        false_or, and_true]
      constructor
      · intro h
        exact .inr h.symm
      · rintro (⟨rfl, differs⟩ | rfl)
        · exact absurd rfl differs
        · rfl
    · simp only [Option.some.injEq, List.mem_cons, reduceCtorEq, List.not_mem_nil, or_false,
        null, and_false]
      constructor
      · rintro rfl
        exact ⟨rfl, null⟩
      · rintro ⟨rfl, -⟩
        rfl

theorem typeOf_eq_ok_iff {t : IndexType} :
    typeOf entry pairs = .ok t ↔
      ∃ text, pairs.lookup "type" = some text ∧ Text.lower text ∈ t.spellings := by
  simp only [typeOf, Except.bind_eq_ok_iff, require_eq_ok_iff, ← IndexType.ofText?_eq_some_iff]
  apply exists_congr
  intro text
  cases IndexType.ofText? text <;> simp

theorem coverageOf_eq_ok_iff {c : Coverage} :
    coverageOf pairs = .ok c ↔
      (∃ text, pairs.lookup "indextype" = some text ∧ Text.lower text ∈ c.spellings) ∨
        pairs.lookup "indextype" = none ∧ c = .whole := by
  simp only [coverageOf, ← Coverage.ofText?_eq_some_iff]
  cases pairs.lookup "indextype" with
  | none => simp [eq_comm]
  | some text =>
    simp only [Option.some.injEq, reduceCtorEq, false_and, or_false, exists_eq_left']
    cases Coverage.ofText? text <;> simp

theorem isReadable_iff :
    isReadable pairs = true ↔
      pairs.lookup "state" ∈ [none, some "RW"] ∧ pairs.lookup "context" ∈ [none, some "NULL"] := by
  unfold isReadable
  cases pairs.lookup "state" <;> cases pairs.lookup "context" <;> simp

theorem parse_append (a b : String) :
    parse (a ++ ";" ++ b) = do return (← parse a) ++ (← parse b) := by
  rw [parse, parse, parse, show ";" = Char.toString ';' from rfl, Text.split_append,
    List.map_append, List.filter_append, List.mapM_append]
  simp only [bind_assoc, pure_bind, List.filterMap_append]

theorem parse_of_blank {text : String} (plain : ';' ∉ text.toList) (blank : Text.trim text = "") :
    parse text = .ok [] := by
  simp [parse, Text.split_of_notMem plain, blank]

theorem parse_of_entry {text : String} (plain : ';' ∉ text.toList)
    (nonempty : Text.trim text ≠ "") :
    parse text = do return (← entry? (Text.trim text)).toList := by
  simp only [parse, Text.split_of_notMem plain, List.map_cons, List.map_nil, ne_eq, nonempty,
    not_false_eq_true, decide_true, List.filter_cons_of_pos, List.filter_nil, List.mapM_cons,
    List.mapM_nil, bind_assoc, pure_bind]
  congr! 2 with i

end Reading

end Listing

end StoreQuery
