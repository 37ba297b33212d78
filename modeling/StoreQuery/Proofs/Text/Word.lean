import StoreQuery.Text.Basic
import Mathlib.Data.List.TakeWhile

namespace StoreQuery.Text

def Blank (s : String) : Prop := ∀ c ∈ s.toList, isBlank c = true

def Trimmed (s : String) : Prop :=
  (∀ c ∈ s.toList.head?, isBlank c = false) ∧ ∀ c ∈ s.toList.getLast?, isBlank c = false

instance (s : String) : Decidable (Blank s) :=
  decidable_of_iff (s.toList.all isBlank = true) List.all_eq_true

instance (s : String) : Decidable (Trimmed s) :=
  decidable_of_iff
    (s.toList.head?.any isBlank = false ∧ s.toList.getLast?.any isBlank = false)
    (by simp only [Trimmed, Option.any_eq_false, Option.mem_def])

theorem Blank.notMem {s : String} {c : Char} (blank : Blank s) (h : isBlank c = false) :
    c ∉ s.toList := by
  intro mem
  simp [blank c mem] at h

theorem dropWhile_isBlank {padding cs : List Char} (blank : ∀ c ∈ padding, isBlank c = true)
    (head : ∀ c ∈ cs.head?, isBlank c = false) : (padding ++ cs).dropWhile isBlank = cs := by
  rw [List.dropWhile_append_of_pos blank]
  cases cs with
  | nil => rfl
  | cons c cs => exact List.dropWhile_cons_of_neg (by simp [head c rfl])

theorem trimChars_padded {before cs after : List Char}
    (blankBefore : ∀ c ∈ before, isBlank c = true) (head : ∀ c ∈ cs.head?, isBlank c = false)
    (last : ∀ c ∈ cs.getLast?, isBlank c = false)
    (blankAfter : ∀ c ∈ after, isBlank c = true) : trimChars (before ++ (cs ++ after)) = cs := by
  have back : (cs ++ after).reverse.dropWhile isBlank = cs.reverse := by
    rw [List.reverse_append]
    apply dropWhile_isBlank
    · simpa using blankAfter
    · simpa using last
  cases cs with
  | nil =>
    have front : (before ++ after).dropWhile isBlank = [] := by
      rw [List.dropWhile_eq_nil_iff]
      simpa [or_imp, forall_and] using ⟨blankBefore, blankAfter⟩
    rw [trimChars, List.nil_append, front]
    rfl
  | cons c cs =>
    rw [trimChars, dropWhile_isBlank blankBefore (by simpa using head), back, List.reverse_reverse]

theorem isBlank_of_isDigit {c : Char} (h : c.isDigit = true) : isBlank c = false := by
  have digit : 48 ≤ c.toNat ∧ c.toNat ≤ 57 := Char.isDigit_iff_toNat.1 h
  simp only [isBlank, inRanges, blankRanges, List.any_cons, List.any_nil, Bool.or_false,
    Bool.or_eq_false_iff, Bool.and_eq_false_iff, decide_eq_false_iff_not]
  omega

theorem trimChars_of_notBlank {cs : List Char} (h : ∀ c ∈ cs, isBlank c = false) :
    trimChars cs = cs := by
  have head : ∀ c ∈ cs.head?, isBlank c = false := fun c mem => h c (List.mem_of_mem_head? mem)
  have last : ∀ c ∈ cs.getLast?, isBlank c = false :=
    fun c mem => h c (List.mem_of_mem_getLast? mem)
  simpa using trimChars_padded (List.forall_mem_nil _) head last (List.forall_mem_nil _)

/-- What stands between the ends has to be a word by itself, since the ends may be empty. -/
theorem Trimmed.append {s t u : String} (first : Trimmed s) (second : Trimmed t) (third : Trimmed u)
    (nonempty : t ≠ "") : Trimmed (s ++ t ++ u) := by
  constructor
  · intro c h
    rw [String.toList_append, String.toList_append, List.head?_append, List.head?_append,
      Option.mem_def, Option.or_eq_some_iff, Option.or_eq_some_iff] at h
    obtain (h | ⟨-, h⟩) | ⟨ends, -⟩ := h
    · exact first.1 c h
    · exact second.1 c h
    · simp_all
  · intro c h
    rw [String.toList_append, String.toList_append, List.getLast?_append, List.getLast?_append,
      Option.mem_def, Option.or_eq_some_iff, Option.or_eq_some_iff] at h
    obtain h | ⟨-, h | ⟨ends, -⟩⟩ := h
    · exact third.2 c h
    · exact second.2 c h
    · simp_all

theorem Trimmed.intercalate {separator : String} {parts : List String}
    (trimmedSeparator : Trimmed separator) (nonempty : separator ≠ "")
    (trimmed : ∀ s ∈ parts, Trimmed s) : Trimmed (separator.intercalate parts) := by
  induction parts with
  | nil => simp [Trimmed]
  | cons s rest ih =>
    obtain ⟨first, others⟩ := List.forall_mem_cons.1 trimmed
    cases rest with
    | nil => simpa using first
    | cons t rest =>
      rw [String.intercalate_cons_cons]
      exact first.append trimmedSeparator (ih others) nonempty

theorem trim_padded {before s after : String} (blankBefore : Blank before) (trimmed : Trimmed s)
    (blankAfter : Blank after) : trim (before ++ s ++ after) = s := by
  rw [trim, String.append_assoc, String.toList_append, String.toList_append,
    trimChars_padded blankBefore trimmed.1 trimmed.2 blankAfter, String.ofList_toList]

theorem Trimmed.ofList_trimChars {s : String} (trimmed : Trimmed s) :
    String.ofList (trimChars s.toList) = s := by
  have unpadded : trim ("" ++ s ++ "") = s :=
    trim_padded (by simp [Blank]) trimmed (by simp [Blank])
  simpa [trim] using unpadded

theorem split_append (separator : Char) (s t : String) :
    split separator (s ++ separator.toString ++ t) = split separator s ++ split separator t := by
  simp [split, List.splitOn_append_cons_self]

theorem split_of_notMem {separator : Char} {s : String} (h : separator ∉ s.toList) :
    split separator s = [s] := by
  simp [split, List.splitOn_eq_singleton h]

theorem notMem_of_mem_splitOn {separator : Char} {cs part : List Char}
    (h : part ∈ cs.splitOn separator) : separator ∉ part := by
  induction cs generalizing part with
  | nil =>
    obtain rfl : part = [] := by simpa using h
    exact List.not_mem_nil
  | cons c rest ih =>
    rw [List.splitOn_cons_eq_if_modifyHead] at h
    split at h
    case isTrue =>
      obtain rfl | later := List.mem_cons.1 h
      · exact List.not_mem_nil
      · exact ih later
    case isFalse differs =>
      -- The character goes to the front of the first part.
      obtain ⟨first, others, parts⟩ := List.exists_cons_of_ne_nil (rest.splitOn_ne_nil separator)
      rw [parts] at h ih
      obtain rfl | later := List.mem_cons.1 h
      · rw [List.mem_cons, not_or]
        exact ⟨fun same => differs (by simp [same]), ih List.mem_cons_self⟩
      · exact ih (List.mem_cons_of_mem first later)

theorem notMem_of_mem_split {separator : Char} {s part : String} (h : part ∈ split separator s) :
    separator ∉ part.toList := by
  obtain ⟨cs, mem, rfl⟩ := List.mem_map.1 h
  simpa using notMem_of_mem_splitOn mem

theorem split_intercalate {separator : Char} {parts : List String} (nonempty : parts ≠ [])
    (plain : ∀ s ∈ parts, separator ∉ s.toList) :
    split separator (separator.toString.intercalate parts) = parts := by
  rw [split, String.toList_intercalate, Char.toString, String.toList_singleton,
    List.splitOn_intercalate separator (by simpa using plain) (by simpa using nonempty)]
  simp

theorem notMem_intercalate {c : Char} {separator : String} {parts : List String}
    (between : c ∉ separator.toList) (inside : ∀ s ∈ parts, c ∉ s.toList) :
    c ∉ (separator.intercalate parts).toList := by
  induction parts with
  | nil => simp
  | cons s rest ih =>
    obtain ⟨first, others⟩ := List.forall_mem_cons.1 inside
    cases rest with
    | nil => simpa using first
    | cons t rest =>
      rw [String.intercalate_cons_cons, String.toList_append, String.toList_append, List.mem_append,
        List.mem_append]
      exact not_or_intro (not_or_intro first between) (ih others)

end StoreQuery.Text
