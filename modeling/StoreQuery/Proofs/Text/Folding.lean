import StoreQuery.Proofs.Text.CharSet

/-!
Simple case folding. No character is folded in two ways, and none that another is folded to is
folded itself, so the characters that are equal to a given one but for case are those that fold to
the same one.
-/

namespace StoreQuery

namespace Text

def marks : List Nat → Nat
  | [] => 0
  | c :: rest => marks rest ||| 1 <<< c

def again (marked : Nat) : List Nat → List Nat
  | [] => []
  | c :: rest =>
    if marked.testBit c then c :: again marked rest else again (marked ||| 1 <<< c) rest

theorem testBit_mark (marked c d : Nat) :
    (marked ||| 1 <<< c).testBit d ↔ marked.testBit d ∨ d = c := by
  simp only [Nat.one_shiftLeft, Nat.testBit_or, Nat.testBit_two_pow, Bool.or_eq_true,
    decide_eq_true_eq]
  exact or_congr_right eq_comm

theorem testBit_marks (cs : List Nat) (d : Nat) : (marks cs).testBit d ↔ d ∈ cs := by
  induction cs with
  | nil => simp [marks]
  | cons c rest ih => rw [marks, testBit_mark, ih, List.mem_cons, or_comm]

theorem count_le_again (marked : Nat) (cs : List Nat) (d : Nat) :
    cs.count d ≤ (again marked cs).count d + if marked.testBit d then 0 else 1 := by
  induction cs generalizing marked with
  | nil => simp
  | cons c rest ih =>
    rw [again, List.count_cons]
    by_cases seen : marked.testBit c
    · have := ih marked
      rw [if_pos seen, List.count_cons]
      omega
    · have := ih (marked ||| 1 <<< c)
      rw [if_neg seen]
      by_cases same : c = d
      · subst same
        rw [if_pos ((testBit_mark marked c c).2 (.inr rfl))] at this
        rw [if_neg seen, if_pos (beq_self_eq_true c)]
        omega
      · have marks : (marked ||| 1 <<< c).testBit d = marked.testBit d := by
          rw [Bool.eq_iff_iff, testBit_mark]
          exact or_iff_left (Ne.symm same)
        rw [marks] at this
        simpa [same] using this

theorem again_sources : again (marks (foldPairs.map Prod.snd)) (foldPairs.map Prod.fst) = [] := by
  decide +kernel

theorem again_targets : again 0 (again 0 (again 0 (foldPairs.map Prod.snd))) = [] := by
  decide +kernel

theorem count_sources_le (c : Nat) : (foldPairs.map Prod.fst).count c ≤ 1 := by
  have := count_le_again (marks (foldPairs.map Prod.snd)) (foldPairs.map Prod.fst) c
  rw [again_sources, List.count_nil] at this
  split at this <;> omega

theorem nodup_sources : (foldPairs.map Prod.fst).Nodup := List.nodup_iff_count.2 count_sources_le

theorem count_targets_le (t : Nat) : (foldPairs.map Prod.snd).count t ≤ 3 := by
  have first := count_le_again 0 (foldPairs.map Prod.snd) t
  have second := count_le_again 0 (again 0 (foldPairs.map Prod.snd)) t
  have third := count_le_again 0 (again 0 (again 0 (foldPairs.map Prod.snd))) t
  rw [again_targets] at third
  simp only [Nat.zero_testBit, Bool.false_eq_true, if_false, List.count_nil] at first second third
  omega

theorem folded_notMem {c d t : Nat} (h : (c, d) ∈ foldPairs) : (d, t) ∉ foldPairs := by
  intro source
  have target : (marks (foldPairs.map Prod.snd)).testBit d :=
    (testBit_marks _ d).2 (List.mem_map.2 ⟨_, h, rfl⟩)
  have := count_le_again (marks (foldPairs.map Prod.snd)) (foldPairs.map Prod.fst) d
  rw [again_sources, List.count_nil, if_pos target] at this
  have := List.count_pos_iff.2 (List.mem_map.2 ⟨_, source, rfl⟩ : d ∈ foldPairs.map Prod.fst)
  omega

theorem isValidChar_folded : ∀ p ∈ foldPairs, p.2.isValidChar := by
  decide +kernel

theorem lookup_eq_some_iff {pairs : List (Nat × Nat)} (distinct : (pairs.map Prod.fst).Nodup)
    (c t : Nat) : pairs.lookup c = some t ↔ (c, t) ∈ pairs := by
  induction pairs with
  | nil => simp
  | cons pair rest ih =>
    obtain ⟨source, target⟩ := pair
    obtain ⟨fresh, others⟩ := List.nodup_cons.1 distinct
    rw [List.lookup_cons, List.mem_cons, Prod.mk.injEq]
    by_cases same : c = source
    · subst same
      have absent : (c, t) ∉ rest := fun again => fresh (List.mem_map.2 ⟨_, again, rfl⟩)
      simp [absent, eq_comm]
    · simp [beq_false_of_ne same, same, ih others]

def foldCase (c : Char) : Char := ((foldPairs.lookup c.toNat).map Char.ofNat).getD c

def foldCode (code : Nat) : Nat := (foldPairs.lookup code).getD code

theorem foldCode_eq {c t : Nat} (h : (c, t) ∈ foldPairs) : foldCode c = t := by
  rw [foldCode, (lookup_eq_some_iff nodup_sources c t).2 h, Option.getD_some]

theorem foldCode_cases (c : Nat) : foldCode c = c ∨ (c, foldCode c) ∈ foldPairs := by
  cases found : foldPairs.lookup c with
  | none => exact .inl (by simp [foldCode, found])
  | some t =>
    have pair := (lookup_eq_some_iff nodup_sources c t).1 found
    exact .inr (by simpa [foldCode, found] using pair)

theorem foldCode_folded {c t : Nat} (h : (c, t) ∈ foldPairs) : foldCode t = t :=
  (foldCode_cases t).resolve_right (folded_notMem h)

theorem toNat_foldCase (c : Char) : (foldCase c).toNat = foldCode c.toNat := by
  cases found : foldPairs.lookup c.toNat with
  | none => simp [foldCase, foldCode, found]
  | some t =>
    have valid := isValidChar_folded _ ((lookup_eq_some_iff nodup_sources _ _).1 found)
    simp only [foldCase, foldCode, found, Option.map_some, Option.getD_some]
    rw [Char.ofNat, dif_pos valid]
    rfl

theorem foldCase_eq_iff (c d : Char) :
    foldCase c = foldCase d ↔ foldCode c.toNat = foldCode d.toNat := by
  rw [← Char.toNat_inj, toNat_foldCase, toNat_foldCase]

def caseKey (ignoreCase : Bool) (c : Char) : Char := if ignoreCase then foldCase c else c

end Text

namespace CharSet

open Text

def withTargets (s : CharSet) : CharSet :=
  ofRanges (s.ranges ++ s.chosen Prod.fst Prod.snd foldPairs)

theorem folded_eq (s : CharSet) :
    s.folded =
      ofRanges (s.withTargets.ranges ++ s.withTargets.chosen Prod.snd Prod.fst foldPairs) := rfl

theorem hasCode_withTargets (s : CharSet) (d : Nat) :
    s.withTargets.hasCode d ↔ s.hasCode d ∨ ∃ c, (c, d) ∈ foldPairs ∧ s.hasCode c := by
  rw [withTargets, hasCode_ofRanges, covers_append, covers_chosen, ← hasCode_iff]
  apply or_congr_right
  constructor
  · rintro ⟨p, pair, has, rfl⟩
    exact ⟨p.1, pair, has⟩
  · rintro ⟨c, pair, has⟩
    exact ⟨(c, d), pair, has, rfl⟩

/-- First what the members fold to is added, then what folds to any of these. -/
theorem hasCode_folded (s : CharSet) (d : Nat) :
    s.folded.hasCode d ↔ ∃ c, s.hasCode c ∧ foldCode c = foldCode d := by
  have split : s.folded.hasCode d ↔
      s.withTargets.hasCode d ∨ ∃ t, (d, t) ∈ foldPairs ∧ s.withTargets.hasCode t := by
    rw [folded_eq, hasCode_ofRanges, covers_append, covers_chosen, ← hasCode_iff]
    apply or_congr_right
    constructor
    · rintro ⟨p, pair, has, rfl⟩
      exact ⟨p.2, pair, has⟩
    · rintro ⟨t, pair, has⟩
      exact ⟨(d, t), pair, has, rfl⟩
  simp only [split, hasCode_withTargets]
  constructor
  · rintro ((has | ⟨c, pair, has⟩) | ⟨t, pair, has | ⟨c, other, has⟩⟩)
    · exact ⟨d, has, rfl⟩
    · exact ⟨c, has, by rw [foldCode_eq pair, foldCode_folded pair]⟩
    · exact ⟨t, has, by rw [foldCode_eq pair, foldCode_folded pair]⟩
    · exact ⟨c, has, by rw [foldCode_eq pair, foldCode_eq other]⟩
  · rintro ⟨c, has, same⟩
    obtain unfolded | pair := foldCode_cases c <;> obtain fixed | other := foldCode_cases d
    · exact .inl (.inl ((unfolded.symm.trans same).trans fixed ▸ has))
    · exact .inr ⟨c, by rwa [← same, unfolded] at other, .inl has⟩
    · exact .inl (.inr ⟨c, by rwa [same, fixed] at pair, has⟩)
    · exact .inr ⟨foldCode d, other, .inr ⟨c, same ▸ pair, has⟩⟩

theorem contains_folded_single (c d : Char) :
    (single c).folded.contains d ↔ foldCase d = foldCase c := by
  simp only [contains, hasCode_folded, hasCode_single, exists_eq_left, foldCase_eq_iff]
  exact eq_comm

theorem countP_le_count_pair {p : Nat → Bool} {a b : Nat} (h : ∀ c, p c → c = a ∨ c = b)
    (cs : List Nat) : cs.countP p ≤ cs.count a + cs.count b := by
  induction cs with
  | nil => simp
  | cons c cs ih =>
    rw [List.countP_cons, List.count_cons, List.count_cons]
    by_cases kept : p c
    · rw [if_pos kept]
      obtain rfl | rfl := h c kept <;> rw [beq_self_eq_true, if_pos rfl] <;> omega
    · rw [if_neg kept]
      omega

/-- A character folds to one other at most, and there are at most three that fold to either. -/
theorem size_folded_single (c : Char) : size (single c).folded.ranges ≤ 8 := by
  have targets : (foldPairs.map Prod.fst).countP (single c).hasCode ≤ 1 := by
    refine Nat.le_trans (List.countP_mono_left fun d _ has => ?_) (count_sources_le c.toNat)
    exact beq_iff_eq.2 ((hasCode_single c d).1 has)
  have near : ∀ d, (single c).withTargets.hasCode d → d = c.toNat ∨ d = foldCode c.toNat := by
    intro d has
    obtain has | ⟨e, pair, has⟩ := (hasCode_withTargets _ d).1 has
    · exact .inl ((hasCode_single c d).1 has)
    · obtain rfl := (hasCode_single c e).1 has
      exact .inr (foldCode_eq pair).symm
  have sources : (foldPairs.map Prod.snd).countP (single c).withTargets.hasCode ≤ 6 := by
    have := countP_le_count_pair near (foldPairs.map Prod.snd)
    have := count_targets_le c.toNat
    have := count_targets_le (foldCode c.toNat)
    omega
  have size_near : size (single c).withTargets.ranges ≤ 2 := by
    refine Nat.le_trans (size_normal_le _) ?_
    rw [size_append, size_chosen]
    have : size (single c).ranges = 1 := by simp [single, size]
    omega
  rw [folded_eq]
  refine Nat.le_trans (size_normal_le _) ?_
  rw [size_append, size_chosen]
  omega

theorem filled_folded {s : CharSet} (filled : Filled s.ranges) : Filled s.folded.ranges := by
  have near : Filled s.withTargets.ranges :=
    filled_normal (filled.append (filled_chosen s Prod.fst Prod.snd foldPairs))
  exact filled_normal (near.append (filled_chosen s.withTargets Prod.snd Prod.fst foldPairs))

end CharSet

end StoreQuery
