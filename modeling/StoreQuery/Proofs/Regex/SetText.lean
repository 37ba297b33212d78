import StoreQuery.Proofs.Regex.Parse

/-!
How sets in brackets are read. Their text is taken over into the extended form as it is, where each
member is one if none of them has a meaning there, and where a set within the set is never closed.
-/

namespace StoreQuery.Regex

structure SetMembers where
  members : List Char
  nonempty : members ≠ []
  noCaret : members.head? ≠ some '^'
  noClosing : ']' ∉ members
  noHyphen : '-' ∉ members

namespace SetMembers

def text (s : SetMembers) (negated : Bool) : List Char :=
  (if negated then ['^'] else []) ++ s.members

def pattern (s : SetMembers) (negated : Bool) : List Char :=
  '^' :: '[' :: (s.text negated ++ [']', '$'])

theorem exists_first (s : SetMembers) :
    ∃ c cs, s.members = c :: cs ∧ c ≠ '^' ∧ c ≠ ']' ∧ c ≠ '-' := by
  obtain ⟨members, nonempty, noCaret, noClosing, noHyphen⟩ := s
  obtain ⟨c, cs, rfl⟩ := List.exists_cons_of_ne_nil nonempty
  simp only [List.mem_cons, not_or] at noClosing noHyphen
  exact ⟨c, cs, rfl, by simpa using noCaret, Ne.symm noClosing.1, Ne.symm noHyphen.1⟩

end SetMembers

variable {members rest : List Char} {c : Char}

theorem head?_ne_of_notMem {d : Char} (absent : d ∉ members) (last : rest.head? ≠ some d) :
    (members ++ rest).head? ≠ some d := by
  cases members with
  | nil => exact last
  | cons e es =>
    rintro same
    obtain rfl : e = d := Option.some_inj.1 same
    exact absent List.mem_cons_self

theorem head?_ne_of_notInfix {d : Char} (absent : ¬[c, d] <:+: c :: members)
    (last : rest.head? ≠ some d) : (members ++ rest).head? ≠ some d := by
  cases members with
  | nil => exact last
  | cons e es =>
    rintro same
    obtain rfl : e = d := Option.some_inj.1 same
    exact absent (List.prefix_append [c, e] es).isInfix

theorem idxOf?_closing (noClosing : ']' ∉ members) (rest : List Char) :
    (members ++ ']' :: rest).idxOf? ']' = some members.length := by
  rw [List.idxOf?_eq_some_iff]
  refine ⟨by simp, by simp, fun j before => ?_⟩
  rw [List.getElem_append_left before]
  rintro same
  exact noClosing (same ▸ List.getElem_mem before)

theorem bracketLength?_text (s : SetMembers) (negated : Bool) (rest : List Char) :
    bracketLength? (s.text negated ++ ']' :: rest) = some ((s.text negated).length + 1) := by
  obtain ⟨c, cs, first, caret, closing, -⟩ := s.exists_first
  have found := idxOf?_closing s.noClosing rest
  rw [first, List.cons_append] at found
  cases negated <;>
    simp [SetMembers.text, first, bracketLength?, caret, closing, found, Nat.add_comm 1]

theorem extend_copied (cs rest : List Char) :
    extend false true cs.length (cs ++ rest) = cs ++ extend false true 0 rest := by
  induction cs with
  | nil => rfl
  | cons c cs ih =>
    have copied : extend false true (cs.length + 1) (c :: (cs ++ rest)) =
        c :: extend false true cs.length (cs ++ rest) := by
      rw [extend.eq_def]
      split <;> simp_all
    rw [List.cons_append, List.length_cons, copied, ih]
    rfl

theorem basicToExtended_set (s : SetMembers) (negated : Bool) :
    basicToExtended (s.pattern negated) = s.pattern negated := by
  have length := bracketLength?_text s negated ['$']
  have copied := extend_copied (s.text negated ++ [']']) ['$']
  rw [List.length_append, List.length_singleton, List.append_assoc] at copied
  simpa [SetMembers.pattern, basicToExtended, extend, length] using copied

/-- In extended syntax no member of a set has a meaning of its own: none begins an escape, a set
within the set or an operator. -/
structure SetMembers.Plain (s : SetMembers) : Prop where
  noEscape : '\\' ∉ s.members
  noNested : '[' ∉ s.members
  noIntersection : ¬['&', '&'] <:+: s.members
  noDifference : ¬['~', '~'] <:+: s.members

theorem hyphens_of_noHyphen {cs : List Char} (h : cs.head? ≠ some '-') :
    OpenSet.hyphens false cs = ([], cs) := by
  cases cs with
  | nil => rfl
  | cons c rest =>
    have other : c ≠ '-' := by simpa using h
    simp [OpenSet.hyphens, takeAllSpaced, takeSpaced, other]

theorem ofStart_text (s : SetMembers) (negated : Bool) (rest : List Char) :
    OpenSet.ofStart false (s.text negated ++ ']' :: rest) =
      (⟨negated, none, .empty, 0, 0⟩, s.members ++ ']' :: rest) := by
  obtain ⟨c, cs, first, caret, closing, hyphen⟩ := s.exists_first
  have others : OpenSet.hyphens false (c :: (cs ++ ']' :: rest)) = ([], c :: (cs ++ ']' :: rest)) :=
    hyphens_of_noHyphen (by simpa using hyphen)
  cases negated <;> simp [SetMembers.text, first, OpenSet.ofStart, others, caret, closing]

theorem bracket?_member {current : OpenSet} {around : List OpenSet} (closing : c ≠ ']')
    (nested : c ≠ '[') (escape : c ≠ '\\') (hyphen : c ≠ '-') (noRange : rest.head? ≠ some '-')
    (intersection : c = '&' → rest.head? ≠ some '&')
    (difference : c = '~' → rest.head? ≠ some '~') (goesOn : rest ≠ []) :
    bracket? false current around (c :: rest) =
      bracket? false (current.add (.range c c) 0) around rest := by
  have single : memberOrRange? false (c :: rest) = some (.range c c, rest) := by
    obtain ⟨d, rest, rfl⟩ := List.exists_cons_of_ne_nil goesOn
    have : d ≠ '-' := by simpa using noRange
    simp [memberOrRange?, member?, Escape.alone?, *]
  rw [bracket?]
  simp only [skip_false]
  split <;> simp_all

def OpenSet.addMembers (s : OpenSet) (members : List Char) : OpenSet :=
  members.foldl (fun s c => s.add (.range c c) 0) s

theorem bracket?_members {current : OpenSet} {around : List OpenSet} (closing : ']' ∉ members)
    (nested : '[' ∉ members) (escape : '\\' ∉ members) (hyphen : '-' ∉ members)
    (intersection : ¬['&', '&'] <:+: members) (difference : ¬['~', '~'] <:+: members) :
    bracket? false current around (members ++ ']' :: rest) =
      bracket? false (current.addMembers members) around (']' :: rest) := by
  induction members generalizing current with
  | nil => rfl
  | cons c cs ih =>
    have single {d : Char} (other : (']' :: rest).head? ≠ some d) (doubled : ¬[d, d] <:+: c :: cs) :
        c = d → (cs ++ ']' :: rest).head? ≠ some d := by
      rintro rfl
      exact head?_ne_of_notInfix doubled other
    have later {d : Char} : ¬[d, d] <:+: c :: cs → ¬[d, d] <:+: cs :=
      fun absent found => absent (found.trans (List.suffix_cons c cs).isInfix)
    simp only [List.mem_cons, not_or] at closing nested escape hyphen
    rw [List.cons_append, bracket?_member (Ne.symm closing.1) (Ne.symm nested.1)
      (Ne.symm escape.1) (Ne.symm hyphen.1) (head?_ne_of_notMem hyphen.2 (by simp))
      (single (by simp) intersection) (single (by simp) difference) (by simp)]
    exact ih closing.2 nested.2 escape.2 hyphen.2 (later intersection) (later difference)

def withMembers (b : Bracket) (members : List Char) : Bracket :=
  members.foldl (fun b c => .union (.range c c) b) b

theorem addMembers_eq (s : OpenSet) (members : List Char) :
    s.addMembers members = { s with
      members := withMembers s.members members, count := s.count + members.length } := by
  induction members generalizing s with
  | nil => rfl
  | cons c cs ih =>
    have first : s.addMembers (c :: cs) = (s.add (.range c c) 0).addMembers cs := rfl
    rw [first, ih]
    simp [OpenSet.add, withMembers, Nat.add_assoc, Nat.add_comm 1]

theorem next?_set (s : SetMembers) (plain : s.Plain) (negated : Bool) (rest : List Char) :
    ∃ depth < 250, next? false ('[' :: (s.text negated ++ ']' :: rest)) =
        some (.bracket (.nested (withMembers .empty s.members) negated) depth, rest) := by
  have read : bracket? false ⟨negated, none, .empty, 0, 0⟩ [] (s.members ++ ']' :: rest) = _ :=
    bracket?_members s.noClosing plain.noNested plain.noEscape s.noHyphen plain.noIntersection
      plain.noDifference
  have closed (s : OpenSet) : bracket? false s [] (']' :: rest) = some (s.close, rest) := by
    rw [bracket?]
    rfl
  rw [next?, ofStart_text]
  dsimp only
  rw [read, closed, addMembers_eq]
  refine ⟨_, ?_, rfl⟩
  simp only [OpenSet.close, OpenSet.operand]
  split <;> decide

/-- What follows within so many other sets does not close all of them, and has neither escapes nor
hyphens nor named classes. -/
inductive Unclosed : Nat → List Char → Prop
  | stop (n : Nat) : Unclosed n []
  | closes {n : Nat} {rest : List Char} (next : Unclosed n rest) : Unclosed (n + 1) (']' :: rest)
  | opens {n : Nat} {rest : List Char} (noClass : rest.head? ≠ some ':')
      (next : Unclosed (n + 1) rest) : Unclosed n ('[' :: rest)
  | member {n : Nat} {c : Char} {rest : List Char} (closing : c ≠ ']') (nested : c ≠ '[')
      (escape : c ≠ '\\') (hyphen : c ≠ '-') (next : Unclosed n rest) : Unclosed n (c :: rest)

theorem Unclosed.succ {n : Nat} {cs : List Char} (h : Unclosed n cs) : Unclosed (n + 1) cs := by
  induction h with
  | stop n => exact .stop (n + 1)
  | closes _ ih => exact .closes ih
  | opens noClass _ ih => exact .opens noClass ih
  | member closing nested escape hyphen _ ih => exact .member closing nested escape hyphen ih

theorem Unclosed.noHyphen {n : Nat} {cs : List Char} (h : Unclosed n cs) : cs.head? ≠ some '-' := by
  cases h with
  | stop | closes | opens => simp
  | member _ _ _ hyphen => simpa using hyphen

theorem Unclosed.tail {n : Nat} {c : Char} {rest : List Char} (h : Unclosed n (c :: rest))
    (closing : c ≠ ']') (nested : c ≠ '[') : Unclosed n rest := by
  cases h with
  | closes => exact absurd rfl closing
  | opens => exact absurd rfl nested
  | member _ _ _ _ next => exact next

theorem Unclosed.ofStart {n : Nat} {cs : List Char} (h : Unclosed (n + 1) cs) :
    Unclosed (n + 1) (OpenSet.ofStart false cs).2 ∧
      (OpenSet.ofStart false cs).2.length ≤ cs.length := by
  -- a caret comes first, then a closing bracket that is a member
  have caret : ∃ others, Unclosed (n + 1) others ∧ others.length ≤ cs.length ∧
      ((OpenSet.ofStart false cs).2 = others ∨ others = ']' :: (OpenSet.ofStart false cs).2) := by
    by_cases negated : cs.head? = some '^'
    · obtain ⟨rest, rfl⟩ := List.head?_eq_some_iff.1 negated
      have next := h.tail (by decide) (by decide)
      refine ⟨rest, next, Nat.le_succ _, ?_⟩
      simp only [OpenSet.ofStart, skip_false, hyphens_of_noHyphen next.noHyphen]
      split <;> simp_all
    · refine ⟨cs, h, Nat.le_refl _, ?_⟩
      cases cs with
      | nil => exact .inl rfl
      | cons c rest =>
        have free : c ≠ '^' := by simpa using negated
        simp only [OpenSet.ofStart, skip_false, List.cons.injEq, free, false_and, imp_false,
          not_false_eq_true, implies_true, hyphens_of_noHyphen h.noHyphen]
        split <;> simp_all
  obtain ⟨others, next, shorter, rfl | rfl⟩ := caret
  · exact ⟨next, shorter⟩
  · cases next with
    | closes next => exact ⟨next.succ, Nat.le_of_succ_le shorter⟩
    | member closing => exact absurd rfl closing

theorem bracket?_operator (operator : c = '&' ∨ c = '~') (current : OpenSet)
    (around : List OpenSet) (rest : List Char) :
    ∃ later, bracket? false current around (c :: c :: rest) = bracket? false later around rest := by
  obtain rfl | rfl := operator
  · exact ⟨current.operator .inter, by rw [bracket?]; rfl⟩
  · exact ⟨current.operator .symmDiff, by rw [bracket?]; rfl⟩

theorem Unclosed.bracket?_step {around : List OpenSet} {cs : List Char}
    (h : Unclosed around.length cs) (current : OpenSet) :
    bracket? false current around cs = none ∨
      ∃ later others rest, Unclosed others.length rest ∧ rest.length < cs.length ∧
        bracket? false current around cs = bracket? false later others rest := by
  generalize depth : around.length = n at h
  cases h with
  | stop => exact .inl (by rw [bracket?]; rfl)
  | closes next =>
    cases around with
    | nil => cases depth
    | cons outer around =>
      cases depth
      refine .inr ⟨outer.add current.close.1 current.close.2, around, _, next,
        Nat.lt_succ_self _, ?_⟩
      rw [bracket?]
      rfl
  | @opens _ rest noClass next =>
    subst depth
    obtain ⟨later, shorter⟩ := next.ofStart
    have unnamed : namedClass? rest = none := by
      rw [namedClass?]
      rintro others rfl
      exact noClass rfl
    refine .inr ⟨(OpenSet.ofStart false rest).1, current :: around, _, later,
      Nat.lt_succ_of_le shorter, ?_⟩
    rw [bracket?]
    simp only [skip_false, unnamed]
    rw [if_pos shorter]
  | @member _ c rest closing nested escape hyphen next =>
    subst depth
    cases rest with
    | nil =>
      have unread : memberOrRange? false [c] = none := by simp [memberOrRange?, member?]
      left
      rw [bracket?]
      simp only [skip_false]
      split <;> simp_all
    | cons d rest =>
      -- hyphens aside, an operator is a doubled character, and anything else a member
      by_cases operator : c = d ∧ (c = '&' ∨ c = '~')
      · obtain ⟨rfl, operator⟩ := operator
        obtain ⟨later, same⟩ := bracket?_operator operator current around rest
        exact .inr ⟨later, around, rest, next.tail closing nested,
          Nat.lt_add_of_pos_right Nat.two_pos, same⟩
      · refine .inr ⟨_, around, _, next, Nat.lt_succ_self _,
          bracket?_member closing nested escape hyphen next.noHyphen ?_ ?_ (List.cons_ne_nil _ _)⟩
        · rintro rfl same
          exact operator ⟨(Option.some_inj.1 same).symm, .inl rfl⟩
        · rintro rfl same
          exact operator ⟨(Option.some_inj.1 same).symm, .inr rfl⟩

theorem bracket?_of_unclosed {current : OpenSet} {around : List OpenSet} {cs : List Char}
    (h : Unclosed around.length cs) : bracket? false current around cs = none := by
  obtain unread | ⟨later, others, rest, next, shorter, same⟩ := h.bracket?_step current
  · exact unread
  · rw [same]
    exact bracket?_of_unclosed next
termination_by cs.length
decreasing_by exact shorter

theorem unclosed_members {n : Nat} (closing : ']' ∉ members) (escape : '\\' ∉ members)
    (hyphen : '-' ∉ members) (noClass : ¬['[', ':'] <:+: members) (last : rest.head? ≠ some ':')
    (next : Unclosed (n + members.count '[') rest) : Unclosed n (members ++ rest) := by
  induction members generalizing n with
  | nil => exact next
  | cons c cs ih =>
    have later : ¬['[', ':'] <:+: cs :=
      fun found => noClass (found.trans (List.suffix_cons c cs).isInfix)
    by_cases nested : c = '['
    · subst nested
      simp only [List.mem_cons, not_or] at closing escape hyphen
      rw [List.count_cons_self, Nat.add_comm _ 1, ← Nat.add_assoc] at next
      exact .opens (head?_ne_of_notInfix noClass last) (ih closing.2 escape.2 hyphen.2 later next)
    · simp only [List.mem_cons, not_or] at closing escape hyphen
      rw [List.count_cons_of_ne nested] at next
      exact .member (Ne.symm closing.1) nested (Ne.symm escape.1) (Ne.symm hyphen.1)
        (ih closing.2 escape.2 hyphen.2 later next)

theorem next?_unclosed (s : SetMembers) (nested : '[' ∈ s.members) (escape : '\\' ∉ s.members)
    (noClass : ¬['[', ':'] <:+: s.members) (negated : Bool) :
    next? false ('[' :: (s.text negated ++ [']', '$'])) = none := by
  obtain ⟨n, count⟩ := Nat.exists_eq_add_one.2 (List.count_pos_iff.2 nested)
  have last : Unclosed (n + 1) [']', '$'] :=
    .closes (.member (by decide) (by decide) (by decide) (by decide) (.stop n))
  have unclosed : Unclosed 0 (s.members ++ [']', '$']) :=
    unclosed_members s.noClosing escape s.noHyphen noClass (by decide)
      (by rwa [Nat.zero_add, count])
  have read (current : OpenSet) : bracket? false current [] (s.members ++ [']', '$']) = none :=
    bracket?_of_unclosed unclosed
  rw [next?, ofStart_text]
  dsimp only
  rw [read]
  rfl

end StoreQuery.Regex
