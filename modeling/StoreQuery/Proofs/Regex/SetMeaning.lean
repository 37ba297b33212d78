import StoreQuery.Proofs.Regex.Limit
import StoreQuery.Proofs.Regex.SetText

namespace StoreQuery.Regex

variable {members : List Char} {c : Char}

theorem bracketRanges?_withMembers {f : Flags} (unicode : f.unicode) {b : Bracket}
    {ranges : List (Nat × Nat)} (known : f.bracketRanges? b = some ranges) (members : List Char) :
    ∃ all, f.bracketRanges? (withMembers b members) = some all ∧
      (∀ code, CharSet.Covers all code ↔
        (∃ c ∈ members, code = c.toNat) ∨ CharSet.Covers ranges code) ∧
      (CharSet.Filled ranges → CharSet.Filled all) := by
  induction members generalizing b ranges with
  | nil => exact ⟨ranges, known, by simp, id⟩
  | cons c cs ih =>
    have more : f.bracketRanges? (.union (.range c c) b) =
        some ((CharSet.range c c).ranges ++ ranges) := by
      simp [Flags.bracketRanges?, unicode, known]
    obtain ⟨all, whole, covers, filled⟩ := ih more
    refine ⟨all, whole, fun code => ?_, fun rest => filled ((CharSet.filled_range c c).append rest)⟩
    rw [covers, CharSet.covers_append, CharSet.covers_range_self, List.exists_mem_cons_iff,
      or_assoc, or_left_comm]

theorem filled_fold (ignoreCase : Bool) {ranges : List (Nat × Nat)}
    (filled : CharSet.Filled ranges) :
    CharSet.Filled (Flags.fold { icase := ignoreCase } (.ofRanges ranges)).ranges := by
  cases ignoreCase with
  | false => exact CharSet.filled_normal filled
  | true => exact CharSet.filled_folded (CharSet.filled_normal filled)

theorem contains_fold (ignoreCase : Bool) {ranges : List (Nat × Nat)}
    (covers : ∀ code, CharSet.Covers ranges code ↔ ∃ d ∈ members, code = d.toNat) (c : Char) :
    (Flags.fold { icase := ignoreCase } (.ofRanges ranges)).contains c ↔
      Text.caseKey ignoreCase c ∈ members.map (Text.caseKey ignoreCase) := by
  rw [List.mem_map]
  cases ignoreCase with
  | false =>
    have plain : (Flags.fold { icase := false } (.ofRanges ranges)) = .ofRanges ranges := rfl
    rw [plain, CharSet.contains, CharSet.hasCode_ofRanges, covers]
    simp [Text.caseKey, Char.toNat_inj, eq_comm]
  | true =>
    have folded : (Flags.fold { icase := true } (.ofRanges ranges)) =
        (CharSet.ofRanges ranges).folded := rfl
    rw [folded, CharSet.contains, CharSet.hasCode_folded]
    simp only [CharSet.hasCode_ofRanges, covers]
    constructor
    · rintro ⟨_, ⟨d, mem, rfl⟩, same⟩
      exact ⟨d, mem, (Text.foldCase_eq_iff d c).2 same⟩
    · rintro ⟨d, mem, same⟩
      exact ⟨_, ⟨d, mem, rfl⟩, (Text.foldCase_eq_iff d c).1 same⟩

theorem bracket?_withMembers (ignoreCase negated : Bool) (members : List Char) :
    ∃ set, Flags.bracket? { icase := ignoreCase } (.nested (withMembers .empty members) negated) =
        some set ∧
      ∀ c, set.contains c = (negated !=
        decide (Text.caseKey ignoreCase c ∈ members.map (Text.caseKey ignoreCase))) := by
  obtain ⟨all, whole, covers, filled⟩ :=
    bracketRanges?_withMembers (f := { icase := ignoreCase }) rfl (b := .empty) rfl members
  simp only [CharSet.covers_nil, or_false] at covers
  have contains := contains_fold ignoreCase covers
  have same (set : CharSet) (c : Char) :
      (CharSet.ofRanges set.ranges).contains c = set.contains c := by
    rw [Bool.eq_iff_iff, CharSet.contains, CharSet.hasCode_ofRanges, ← CharSet.hasCode_iff,
      CharSet.contains]
  cases negated with
  | false =>
    refine ⟨_, by simp only [Flags.bracket?, Flags.bracketRanges?, whole]; rfl, fun c => ?_⟩
    rw [same, Bool.eq_iff_iff, contains]
    simp
  | true =>
    refine ⟨_, by simp only [Flags.bracket?, Flags.bracketRanges?, whole]; rfl, fun c => ?_⟩
    rw [same, Bool.eq_iff_iff, CharSet.contains_compl (filled_fold ignoreCase (filled nofun)),
      contains]
    simp

theorem adds_bracket {f : Flags} {b : Bracket} {set : CharSet} {depth : Nat} (shallow : depth < 250)
    (known : f.bracket? b = some set) : Adds f (.bracket b depth) (.ofSet set depth) where
  unnamed := rfl
  shallow := shallow
  step s same := by
    rw [Reader.step?, same, known]
    rfl

theorem ofPattern?_set {ignoreCase negated : Bool} {s : SetMembers} (plain : s.Plain)
    {set : CharSet} (known : Flags.bracket? { icase := ignoreCase }
      (.nested (withMembers .empty s.members) negated) = some set) :
    ∃ part, Part.ofPattern? ignoreCase (basicToExtended (s.pattern negated)) = some part ∧
      part.regex = ofSequence [.look .textStart, .set set, .look .textEnd] ∧
      part.outline = .ofSequence [.look .textStart, .ofSet set, .look .textEnd] := by
  obtain ⟨depth, shallow, next⟩ := next?_set s plain negated ['$']
  have shorter : ['$'].length < ('[' :: (s.text negated ++ [']', '$'])).length := by
    simp only [List.length_cons, List.length_append]
    omega
  have after (b : Bracket) : Spacing.after ⟨false, []⟩ (.bracket b depth) = ⟨false, []⟩ := rfl
  have tokens : tokens? ⟨false, []⟩ (s.pattern negated) =
      some [.caret, .bracket (.nested (withMembers .empty s.members) negated) depth, .dollar] := by
    rw [SetMembers.pattern, tokens?_caret, tokens?_of_next? next shorter, after, tokens?_dollar]
    rfl
  have makes := makes_of_adds (.cons (adds_caret rfl) (.cons (adds_bracket shallow known)
    (.cons (adds_dollar rfl) .nil)))
  rw [Part.ofPattern?, basicToExtended_set, tokens, Option.bind_some]
  exact ofTokens?_makes makes

theorem ofPattern?_unclosed (ignoreCase : Bool) (s : SetMembers) (nested : '[' ∈ s.members)
    (escape : '\\' ∉ s.members) (noClass : ¬['[', ':'] <:+: s.members) (negated : Bool) :
    Part.ofPattern? ignoreCase (basicToExtended (s.pattern negated)) = none := by
  have unread := next?_unclosed s nested escape noClass negated
  rw [Part.ofPattern?, basicToExtended_set, SetMembers.pattern, tokens?_caret,
    tokens?_eq_none (List.cons_ne_nil _ _) unread]
  rfl

theorem isMatch_set {set : CharSet} {text : String} (single : text.toList = [c]) :
    (ofSequence [.look .textStart, .set set, .look .textEnd]).isMatch text = set.contains c := by
  rw [Bool.eq_iff_iff, isMatch_iff]
  constructor
  · rintro ⟨i, j, inside, spans⟩
    obtain ⟨⟨_, ⟨-, d, here, member⟩, -⟩, atStart, -⟩ :=
      (spans_framed true true [.set set] inside).1 spans
    rw [atStart rfl, single] at here
    cases here
    exact member
  · intro member
    have here : c ∈ text.toList[0]? := by
      rw [single]
      rfl
    have length : text.toList.length = 1 := by rw [single, List.length_singleton]
    have body : (ofSequence [.set set]).Spans text.toList 0 1 :=
      ⟨1, ⟨rfl, c, here, member⟩, rfl, Nat.le_of_eq length.symm⟩
    exact ⟨0, 1, Nat.zero_le _, (spans_framed true true _ (Nat.zero_le _)).2
      ⟨body, fun _ => rfl, fun _ => length.symm⟩⟩

end StoreQuery.Regex

namespace StoreQuery.Expr

open Regex

/-- A set in brackets between anchors tells its members from all other characters, where no member
has a meaning of its own in extended syntax. It never has an answer if a member opens a set within
the set, since nothing closes that. -/
theorem set_tells_plain_members (ignoreCase negated : Bool) (s : SetMembers)
    {pattern text : String} {c : Char} {source : Operand} {r : Record}
    (written : pattern.toList = s.pattern negated) (resolved : source.resolve r = some (.str text))
    (single : text.toList = [c]) :
    (s.Plain → Regex.Fits ignoreCase pattern →
      (Expr.regex source pattern { icase := ignoreCase }).evaluate r = .ofBool (negated !=
        decide (Text.caseKey ignoreCase c ∈ s.members.map (Text.caseKey ignoreCase)))) ∧
    ('[' ∈ s.members → '\\' ∉ s.members → ¬['[', ':'] <:+: s.members →
      (Expr.regex source pattern { icase := ignoreCase }).evaluate r = .unknown) := by
  rw [evaluate, resolved, evaluateRegex]
  constructor
  · intro plain fits
    obtain ⟨set, known, contains⟩ := bracket?_withMembers ignoreCase negated s.members
    obtain ⟨part, made, regex, -⟩ := ofPattern?_set plain known
    rw [← written] at made
    rw [PatternFlags.isMatch?_of_fits fits made, regex, isMatch_set single, contains]
  · intro nested escape noClass
    have unread := ofPattern?_unclosed ignoreCase s nested escape noClass negated
    rw [PatternFlags.isMatch?, if_neg Bool.false_ne_true, written, parse?, unread]
    rfl

theorem set_tells_plain_members_of_dot :
    (Expr.regex (.literal (.str ".")) "^[a.&]$" { icase := false }).evaluate {} = .holds ∧
      (Expr.regex (.literal (.str "b")) "^[a.&]$" { icase := false }).evaluate {} = .fails ∧
      (Expr.regex (.literal (.str "a")) "^[a[]$" { icase := false }).evaluate {} = .unknown := by
  let dot : SetMembers := ⟨['a', '.', '&'], by decide, by decide, by decide, by decide⟩
  let opening : SetMembers := ⟨['a', '['], by decide, by decide, by decide, by decide⟩
  have plain : dot.Plain := ⟨by decide, by decide, by decide, by decide⟩
  have fits : Regex.Fits false "^[a.&]$" := by
    intro part parsed
    let ranges := [(0x26, 0x26), (0x2e, 0x2e), (0x61, 0x61)]
    have normal : CharSet.normal ranges = ranges := by
      rw [CharSet.normal, List.mergeSort_of_pairwise (by decide)]
      simp [ranges, CharSet.join]
    have known :
        Flags.bracket? { icase := false } (.nested (withMembers .empty dot.members) false) =
          some (.ofRanges (CharSet.normal ranges)) := rfl
    obtain ⟨part', parsed', -, outline⟩ := ofPattern?_set plain known
    have written : "^[a.&]$".toList = dot.pattern false := rfl
    rw [written, parsed', Option.mem_some_iff] at parsed
    rw [← parsed, outline, CharSet.ofRanges, normal, normal]
    decide +kernel
  have resolved (text : String) :
      (Operand.literal (.str text)).resolve {} = some (.str text) := rfl
  have told (text : String) (c : Char) (single : text.toList = [c]) :=
    (set_tells_plain_members false false dot rfl (resolved text) single).1 plain fits
  refine ⟨(told "." '.' rfl).trans (by decide), (told "b" 'b' rfl).trans (by decide), ?_⟩
  exact (set_tells_plain_members false false opening (c := 'a') rfl (resolved "a") rfl).2
    (by decide) (by decide) (by decide)

end StoreQuery.Expr
