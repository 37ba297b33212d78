import StoreQuery.Path
import StoreQuery.Proofs.Except
import StoreQuery.Proofs.Text.Integer
import StoreQuery.Proofs.Text.Word

/-!
Paths written as text and read back. Nothing can be escaped in the text of a path, so it comes back
only if no dot stands in a key and no key looks like one of the other steps. Whatever is read is
such a path.
-/

namespace StoreQuery

def Text.Enclosed (first last : Char) (s : String) : Prop :=
  ∃ inner, s.toList = first :: (inner ++ [last])

namespace PathStep

inductive Writable : PathStep → Prop
  | listIndex (i : Int64) : Writable (.listIndex i)
  | integerKey (i : Int64) : Writable (.mapKey (.int64 i))
  | textKey {key : String} (nonempty : key ≠ "") (noDot : '.' ∉ key.toList)
    (noBrackets : ¬Text.Enclosed '[' ']' key) (noBraces : ¬Text.Enclosed '\x7b' '\x7d' key) :
    Writable (.mapKey (.str key))

section Reading

variable {first last : Char} {cs inner : List Char} {s : String}

theorem enclosed?_eq_some_iff :
    enclosed? first last cs = some inner ↔ cs = first :: (inner ++ [last]) := by
  cases cs with
  | nil => simp [enclosed?]
  | cons c rest =>
    simp only [enclosed?, List.cons.injEq]
    constructor
    · intro h
      split at h
      case isTrue ends =>
        obtain ⟨init, rfl⟩ := List.getLast?_eq_some_iff.1 ends.2
        exact ⟨ends.1, by simpa using h⟩
      case isFalse => cases h
    · rintro ⟨rfl, rfl⟩
      simp

theorem enclosed?_eq_none_iff :
    enclosed? first last s.toList = none ↔ ¬Text.Enclosed first last s := by
  simp only [Text.Enclosed, ← enclosed?_eq_some_iff, Option.eq_none_iff_forall_ne_some, not_exists]

instance (first last : Char) (s : String) : Decidable (Text.Enclosed first last s) :=
  decidable_of_iff ((enclosed? first last s.toList).isSome = true) <| by
    simp only [Text.Enclosed, Option.isSome_iff_exists, enclosed?_eq_some_iff]

example : Text.Enclosed '[' ']' "[]" ∧ ¬Text.Enclosed '[' '[' "[" := by decide

theorem ofText?_of_brackets (h : s.toList = '[' :: (inner ++ [']'])) : ofText? s =
    match Text.readInt64? (Text.trimChars inner) with
    | some i => .ok (.listIndex i)
    | none => .error (.badListIndex s) := by
  have enclosed : enclosed? '[' ']' s.toList = some inner := enclosed?_eq_some_iff.2 h
  have nonempty : s.toList ≠ [] := by simp [h]
  cases read : Text.readInt64? (Text.trimChars inner) <;>
    simp only [ofText?, nonempty, if_false, enclosed, read]

theorem ofText?_of_braces (h : s.toList = '\x7b' :: (inner ++ ['\x7d'])) : ofText? s =
    match Text.readInt64? (Text.trimChars inner) with
    | some i => .ok (.mapKey (.int64 i))
    | none => .error (.badIntegerKey s) := by
  have noBrackets : enclosed? '[' ']' s.toList = none := by simp [h, enclosed?]
  have enclosed : enclosed? '\x7b' '\x7d' s.toList = some inner := enclosed?_eq_some_iff.2 h
  have nonempty : s.toList ≠ [] := by simp [h]
  cases read : Text.readInt64? (Text.trimChars inner) <;>
    simp only [ofText?, nonempty, if_false, noBrackets, enclosed, read]

theorem ofText?_of_word (nonempty : s ≠ "") (noBrackets : ¬Text.Enclosed '[' ']' s)
    (noBraces : ¬Text.Enclosed '\x7b' '\x7d' s) : ofText? s = .ok (.mapKey (.str s)) := by
  have nonemptyList : s.toList ≠ [] := by simpa using nonempty
  simp only [ofText?, nonemptyList, if_false, enclosed?_eq_none_iff.2 noBrackets,
    enclosed?_eq_none_iff.2 noBraces]

theorem ofText?_yields_writable (noDot : '.' ∉ s.toList) : (ofText? s).Yields Writable := by
  by_cases empty : s = ""
  · subst empty
    exact .error PathError.emptyStep
  by_cases brackets : Text.Enclosed '[' ']' s
  · obtain ⟨inner, text⟩ := brackets
    rw [ofText?_of_brackets text]
    cases Text.readInt64? (Text.trimChars inner) with
    | some i => exact .ok (.listIndex i)
    | none => exact .error (PathError.badListIndex s)
  by_cases braces : Text.Enclosed '\x7b' '\x7d' s
  · obtain ⟨inner, text⟩ := braces
    rw [ofText?_of_braces text]
    cases Text.readInt64? (Text.trimChars inner) with
    | some i => exact .ok (.integerKey i)
    | none => exact .error (PathError.badIntegerKey s)
  · rw [ofText?_of_word empty brackets braces]
    exact .ok (.textKey empty noDot brackets braces)

end Reading

theorem readInt64?_trimChars_toString (i : Int64) :
    Text.readInt64? (Text.trimChars (toString i.toInt).toList) = some i := by
  have notBlank : ∀ c ∈ (toString i.toInt).toList, Text.isBlank c = false := by
    intro c mem
    obtain digit | rfl := Text.isDigit_or_of_mem_toString mem
    · exact Text.isBlank_of_isDigit digit
    · rfl
  rw [Text.trimChars_of_notBlank notBlank, Text.readInt64?_toString]

theorem dot_notMem_toString (i : Int) : '.' ∉ (toString i).toList := by
  intro mem
  obtain digit | minus := Text.isDigit_or_of_mem_toString mem
  · cases digit
  · cases minus

theorem toText_integerKey (i : Int64) :
    toText (.mapKey (.int64 i)) = "\x7b" ++ toString i.toInt ++ "\x7d" := rfl

namespace Writable

variable {step : PathStep}

theorem dot_notMem_toText (writable : step.Writable) : '.' ∉ step.toText.toList := by
  cases writable with
  | listIndex i => simpa [toText] using dot_notMem_toString i.toInt
  | integerKey i => simpa [toText_integerKey] using dot_notMem_toString i.toInt
  | textKey nonempty noDot => exact noDot

theorem ofText?_toText (writable : step.Writable) : ofText? step.toText = .ok step := by
  cases writable with
  | listIndex i =>
    have text : (toText (.listIndex i)).toList = '[' :: ((toString i.toInt).toList ++ [']']) := by
      simp [toText]
    rw [ofText?_of_brackets text, readInt64?_trimChars_toString]
  | integerKey i =>
    have text : (toText (.mapKey (.int64 i))).toList =
        '\x7b' :: ((toString i.toInt).toList ++ ['\x7d']) := by
      simp [toText_integerKey]
    rw [ofText?_of_braces text, readInt64?_trimChars_toString]
  | textKey nonempty noDot noBrackets noBraces =>
    exact ofText?_of_word nonempty noBrackets noBraces

end Writable

end PathStep

namespace Path

/-- An empty text has one part, which is no step. -/
theorem ofText?_of_mapM {text : String} {p : Path}
    (h : (Text.split '.' text).mapM PathStep.ofText? = .ok p) : ofText? text = .ok p := by
  by_cases empty : text = ""
  · subst empty
    cases h
  · rw [ofText?, if_neg empty, h]

theorem ofText?_yields_writable (text : String) :
    (ofText? text).Yields fun p => ∀ step ∈ p, step.Writable := by
  rw [ofText?]
  split
  · exact .ok (List.forall_mem_nil _)
  · refine .mapM_of_mem fun part mem => ?_
    exact PathStep.ofText?_yields_writable (Text.notMem_of_mem_split mem)

theorem ofText?_toText {p : Path} (writable : ∀ step ∈ p, step.Writable) :
    ofText? p.toText = .ok p := by
  cases p with
  | nil => rfl
  | cons first rest =>
    have noDot : ∀ s ∈ (first :: rest).map PathStep.toText, '.' ∉ s.toList :=
      List.forall_mem_map.2 fun step mem => (writable step mem).dot_notMem_toText
    have parts : Text.split '.' (toText (first :: rest)) = (first :: rest).map PathStep.toText :=
      Text.split_intercalate (List.cons_ne_nil _ _) noDot
    -- That the text is not empty follows from its parts being read.
    apply ofText?_of_mapM
    rw [parts]
    exact Except.mapM_map_eq_ok fun step mem => (writable step mem).ofText?_toText

/-- A path is read back from its text just if each of its steps is writable, and what is read from
any text is such a path. -/
theorem reads_back_iff_writable :
    (∀ p : Path, ofText? p.toText = .ok p ↔ ∀ step ∈ p, step.Writable) ∧
      ∀ text p, ofText? text = .ok p → ofText? p.toText = .ok p :=
  ⟨fun p => ⟨ofText?_yields_writable p.toText p, ofText?_toText⟩,
    fun text p read => ofText?_toText (ofText?_yields_writable text p read)⟩

theorem reads_back_iff_writable_of_padded :
    let p : Path := [.mapKey (.str "]a["), .listIndex 0, .mapKey (.int64 7)]
    let flag : Path := [.mapKey (.bool true)]
    ofText? "]a[.[ +0\t].\x7b07\x7d" = .ok p ∧ p.toText = "]a[.[0].\x7b7\x7d" ∧
      (ofText? p.toText = .ok p ∧ ∀ step ∈ p, step.Writable) ∧ ofText? flag.toText ≠ .ok flag := by
  intro p flag
  obtain ⟨readsBack, reads⟩ := reads_back_iff_writable
  have read : ofText? "]a[.[ +0\t].\x7b07\x7d" = .ok p := rfl
  have again := reads _ p read
  refine ⟨read, rfl, ⟨again, (readsBack p).1 again⟩, fun back => ?_⟩
  cases (readsBack flag).1 back _ List.mem_cons_self

end Path

end StoreQuery
