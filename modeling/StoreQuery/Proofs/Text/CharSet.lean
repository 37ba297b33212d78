import Mathlib.Algebra.GroupWithZero.Nat
import StoreQuery.Text.CharSet

namespace StoreQuery.CharSet

def Covers (ranges : List (Nat × Nat)) (code : Nat) : Prop :=
  ∃ r ∈ ranges, r.1 ≤ code ∧ code ≤ r.2

theorem hasCode_iff (s : CharSet) (code : Nat) : s.hasCode code ↔ Covers s.ranges code := by
  simp [hasCode, Covers]

@[simp] theorem covers_nil (code : Nat) : ¬Covers [] code := by simp [Covers]

@[simp] theorem covers_cons (r : Nat × Nat) (ranges : List (Nat × Nat)) (code : Nat) :
    Covers (r :: ranges) code ↔ (r.1 ≤ code ∧ code ≤ r.2) ∨ Covers ranges code := by
  simp [Covers]

@[simp] theorem covers_append (as bs : List (Nat × Nat)) (code : Nat) :
    Covers (as ++ bs) code ↔ Covers as code ∨ Covers bs code := by
  simp [Covers, or_and_right, exists_or]

theorem covers_join {ranges : List (Nat × Nat)} (ascending : ranges.Pairwise (·.1 ≤ ·.1))
    (code : Nat) : Covers (join ranges) code ↔ Covers ranges code := by
  induction ranges using join.induct with
  | case1 => rw [join]
  | case2 r => rw [join]
  | case3 first last next end_ rest touching ih =>
    obtain ⟨before, others⟩ := List.pairwise_cons.1 ascending
    have low : first ≤ next := before _ List.mem_cons_self
    have still : ((first, max last end_) :: rest).Pairwise (·.1 ≤ ·.1) :=
      List.pairwise_cons.2 ⟨fun r mem => before r (List.mem_cons_of_mem _ mem), others.of_cons⟩
    rw [join, if_pos touching, ih still, covers_cons, covers_cons, covers_cons, ← or_assoc]
    -- a code beyond `last` is at least `next`, since the ranges touch
    exact or_congr_left (by dsimp only; omega)
  | case4 first last next end_ rest apart ih =>
    rw [join, if_neg apart, covers_cons, ih ascending.of_cons, ← covers_cons]

theorem ascending_mergeSort (ranges : List (Nat × Nat)) :
    (ranges.mergeSort fun a b => a.1 ≤ b.1).Pairwise (·.1 ≤ ·.1) := by
  have trans (a b c : Nat × Nat) :
      decide (a.1 ≤ b.1) → decide (b.1 ≤ c.1) → decide (a.1 ≤ c.1) := by
    simp only [decide_eq_true_eq]
    exact Nat.le_trans
  have total (a b : Nat × Nat) : decide (a.1 ≤ b.1) || decide (b.1 ≤ a.1) := by
    simpa using Nat.le_total a.1 b.1
  simpa using List.pairwise_mergeSort trans total ranges

theorem covers_normal (ranges : List (Nat × Nat)) (code : Nat) :
    Covers (normal ranges) code ↔ Covers ranges code := by
  rw [normal, covers_join (ascending_mergeSort ranges)]
  simp [Covers]

@[simp] theorem hasCode_ofRanges (ranges : List (Nat × Nat)) (code : Nat) :
    (ofRanges ranges).hasCode code ↔ Covers ranges code := by
  rw [hasCode_iff, ofRanges, covers_normal]

def chosen (s : CharSet) (key code : Nat × Nat → Nat) (pairs : List (Nat × Nat)) :
    List (Nat × Nat) :=
  pairs.filterMap fun p => if s.hasCode (key p) then some (code p, code p) else none

theorem mem_chosen {s : CharSet} {key code : Nat × Nat → Nat} {pairs : List (Nat × Nat)}
    {r : Nat × Nat} :
    r ∈ s.chosen key code pairs ↔ ∃ p ∈ pairs, s.hasCode (key p) ∧ r = (code p, code p) := by
  simp [chosen, @eq_comm _ r]

theorem covers_chosen (s : CharSet) (key code : Nat × Nat → Nat) (pairs : List (Nat × Nat))
    (d : Nat) :
    Covers (s.chosen key code pairs) d ↔ ∃ p ∈ pairs, s.hasCode (key p) ∧ d = code p := by
  simp only [Covers, mem_chosen]
  constructor
  · rintro ⟨_, ⟨p, mem, has, rfl⟩, low, high⟩
    exact ⟨p, mem, has, Nat.le_antisymm high low⟩
  · rintro ⟨p, mem, has, rfl⟩
    exact ⟨_, ⟨p, mem, has, rfl⟩, Nat.le_refl _, Nat.le_refl _⟩

/-- How many codes the ranges have, each of them taken by itself. -/
def size (ranges : List (Nat × Nat)) : Nat := (ranges.map fun r => r.2 + 1 - r.1).sum

@[simp] theorem size_append (as bs : List (Nat × Nat)) : size (as ++ bs) = size as + size bs := by
  simp [size]

theorem size_chosen (s : CharSet) (key code : Nat × Nat → Nat) (pairs : List (Nat × Nat)) :
    size (s.chosen key code pairs) = (pairs.map key).countP s.hasCode := by
  induction pairs with
  | nil => rfl
  | cons p pairs ih =>
    rw [List.map_cons, List.countP_cons, ← ih]
    by_cases has : s.hasCode (key p)
    · simp only [chosen, has, size, List.filterMap_cons, if_true, List.map_cons, List.sum_cons]
      omega
    · simp [chosen, has]

def Filled (ranges : List (Nat × Nat)) : Prop := ∀ r ∈ ranges, r.1 ≤ r.2

theorem Filled.append {as bs : List (Nat × Nat)} (ha : Filled as) (hb : Filled bs) :
    Filled (as ++ bs) := List.forall_mem_append.2 ⟨ha, hb⟩

theorem filled_chosen (s : CharSet) (key code : Nat × Nat → Nat) (pairs : List (Nat × Nat)) :
    Filled (s.chosen key code pairs) := by
  intro r mem
  obtain ⟨p, _, _, rfl⟩ := mem_chosen.1 mem
  exact Nat.le_refl _

theorem size_join_le (ranges : List (Nat × Nat)) : size (join ranges) ≤ size ranges := by
  induction ranges using join.induct with
  | case1 => simp [join]
  | case2 r => simp [join]
  | case3 first last next end_ rest touching ih =>
    rw [join, if_pos touching]
    simp only [size, List.map_cons, List.sum_cons] at ih ⊢
    omega
  | case4 first last next end_ rest apart ih =>
    rw [join, if_neg apart]
    simp only [size, List.map_cons, List.sum_cons] at ih ⊢
    omega

theorem filled_join {ranges : List (Nat × Nat)} (filled : Filled ranges) :
    Filled (join ranges) := by
  induction ranges using join.induct with
  | case1 => rwa [join]
  | case2 r => rwa [join]
  | case3 first last next end_ rest touching ih =>
    rw [join, if_pos touching]
    obtain ⟨one, others⟩ := List.forall_mem_cons.1 filled
    have merged : first ≤ max last end_ := Nat.le_trans one (Nat.le_max_left _ _)
    exact ih (List.forall_mem_cons.2 ⟨merged, fun r mem => others r (List.mem_cons_of_mem _ mem)⟩)
  | case4 first last next end_ rest apart ih =>
    rw [join, if_neg apart]
    obtain ⟨one, others⟩ := List.forall_mem_cons.1 filled
    exact List.forall_mem_cons.2 ⟨one, ih others⟩

theorem size_normal_le (ranges : List (Nat × Nat)) : size (normal ranges) ≤ size ranges := by
  have sorted := (List.mergeSort_perm ranges fun a b => a.1 ≤ b.1).map fun r => r.2 + 1 - r.1
  exact Nat.le_trans (size_join_le _) (Nat.le_of_eq sorted.sum_nat)

theorem filled_normal {ranges : List (Nat × Nat)} (filled : Filled ranges) :
    Filled (normal ranges) :=
  filled_join fun r mem => filled r (List.mem_mergeSort.1 mem)

theorem length_le_size {ranges : List (Nat × Nat)} (filled : Filled ranges) :
    ranges.length ≤ size ranges := by
  induction ranges with
  | nil => exact Nat.zero_le _
  | cons r rest ih =>
    obtain ⟨first, others⟩ := List.forall_mem_cons.1 filled
    have := ih others
    simp only [size, List.length_cons, List.map_cons, List.sum_cons] at this ⊢
    omega

def Apart (ranges : List (Nat × Nat)) : Prop := ranges.Pairwise fun a b => a.2 < b.1

theorem exists_start_of_mem_join {ranges : List (Nat × Nat)} {r : Nat × Nat}
    (mem : r ∈ join ranges) : ∃ q ∈ ranges, q.1 = r.1 := by
  induction ranges using join.induct with
  | case1 => rw [join] at mem; cases mem
  | case2 q => exact ⟨r, by rwa [join] at mem, rfl⟩
  | case3 first last next end_ rest touching ih =>
    rw [join, if_pos touching] at mem
    obtain ⟨q, among, same⟩ := ih mem
    obtain rfl | among := List.mem_cons.1 among
    · exact ⟨_, List.mem_cons_self, same⟩
    · exact ⟨q, List.mem_cons_of_mem _ (List.mem_cons_of_mem _ among), same⟩
  | case4 first last next end_ rest apart ih =>
    rw [join, if_neg apart] at mem
    obtain rfl | mem := List.mem_cons.1 mem
    · exact ⟨_, List.mem_cons_self, rfl⟩
    · obtain ⟨q, among, same⟩ := ih mem
      exact ⟨q, List.mem_cons_of_mem _ among, same⟩

theorem apart_join {ranges : List (Nat × Nat)} (ascending : ranges.Pairwise (·.1 ≤ ·.1)) :
    Apart (join ranges) := by
  induction ranges using join.induct with
  | case1 => rw [join]; exact .nil
  | case2 r => rw [join]; exact List.pairwise_singleton _ r
  | case3 first last next end_ rest touching ih =>
    obtain ⟨before, others⟩ := List.pairwise_cons.1 ascending
    rw [join, if_pos touching]
    exact ih (List.pairwise_cons.2
      ⟨fun r mem => before r (List.mem_cons_of_mem _ mem), others.of_cons⟩)
  | case4 first last next end_ rest apart ih =>
    rw [join, if_neg apart]
    refine List.pairwise_cons.2 ⟨fun r mem => ?_, ih ascending.of_cons⟩
    obtain ⟨q, among, same⟩ := exists_start_of_mem_join mem
    have later : next ≤ q.1 := by
      obtain rfl | among := List.mem_cons.1 among
      · exact Nat.le_refl _
      · exact (List.pairwise_cons.1 ascending.of_cons).1 q among
    dsimp only
    omega

theorem covers_gaps {ranges : List (Nat × Nat)} (filled : Filled ranges) (apart : Apart ranges)
    {start code : Nat} (below : ∀ r ∈ ranges, start ≤ r.1) (inside : code ≤ lastCode) :
    Covers (gaps start ranges) code ↔ start ≤ code ∧ ¬Covers ranges code := by
  induction ranges generalizing start with
  | nil =>
    rw [gaps]
    split
    · simp [inside]
    · simp only [covers_nil, not_false_eq_true, and_true, false_iff]
      omega
  | cons r rest ih =>
    obtain ⟨first, last⟩ := r
    obtain ⟨one, others⟩ := List.forall_mem_cons.1 filled
    obtain ⟨low, _⟩ := List.forall_mem_cons.1 below
    obtain ⟨next, apart⟩ := List.pairwise_cons.1 apart
    have beyond : Covers rest code → last < code := fun ⟨q, mem, above, _⟩ =>
      Nat.lt_of_lt_of_le (next q mem) above
    have later : Covers (gaps (last + 1) rest) code ↔ last + 1 ≤ code ∧ ¬Covers rest code :=
      ih others apart next
    have split : Covers (gaps start ((first, last) :: rest)) code ↔
        (start ≤ code ∧ code < first) ∨ Covers (gaps (last + 1) rest) code := by
      rw [gaps]
      split
      · rw [covers_cons]
        exact or_congr_left (by dsimp only; omega)
      · exact (or_iff_right (by dsimp only at low; omega)).symm
    rw [split, later, covers_cons]
    dsimp only at one low ⊢
    by_cases covered : Covers rest code
    · have := beyond covered
      simp only [covered, not_true_eq_false, and_false, or_false, or_true, iff_false]
      omega
    · simp only [covered, not_false_eq_true, and_true, or_false]
      omega

theorem contains_compl {s : CharSet} (filled : Filled s.ranges) (c : Char) :
    s.compl.contains c ↔ ¬s.contains c := by
  have all : Filled (surrogates :: s.ranges) := List.forall_mem_cons.2 ⟨by decide, filled⟩
  have valid : c.toNat < 0xD800 ∨ 0xDFFF < c.toNat ∧ c.toNat < 0x110000 := c.valid
  have inside : c.toNat ≤ lastCode := by
    rw [lastCode]
    omega
  have proper : ¬(surrogates.1 ≤ c.toNat ∧ c.toNat ≤ surrogates.2) := by
    rw [surrogates]
    dsimp only
    omega
  rw [contains, contains, compl, hasCode_iff, hasCode_iff, covers_gaps (filled_normal all)
    (apart_join (ascending_mergeSort _)) (fun _ _ => Nat.zero_le _) inside, covers_normal,
    covers_cons]
  simp [proper]

theorem hasCode_single (c : Char) (code : Nat) : (single c).hasCode code ↔ code = c.toNat := by
  simp only [hasCode_iff, single, covers_cons, covers_nil, or_false]
  omega

theorem covers_range_self (c : Char) (code : Nat) :
    Covers (range c c).ranges code ↔ code = c.toNat := by
  have valid : c.toNat < 0xD800 ∨ 0xDFFF < c.toNat ∧ c.toNat < 0x110000 := c.valid
  simp only [Covers, range, surrogates, List.mem_filter, List.mem_cons,
    List.not_mem_nil, or_false, decide_eq_true_eq]
  constructor
  · rintro ⟨r, ⟨rfl | rfl, _⟩, low, high⟩ <;> dsimp only at low high <;> omega
  · rintro rfl
    obtain below | ⟨above, _⟩ := valid
    · exact ⟨_, ⟨.inl rfl, by dsimp only; omega⟩, by dsimp only; omega, by dsimp only; omega⟩
    · exact ⟨_, ⟨.inr rfl, by dsimp only; omega⟩, by dsimp only; omega, by dsimp only; omega⟩

theorem filled_range (first last : Char) : Filled (range first last).ranges := by
  intro r mem
  exact of_decide_eq_true (List.mem_filter.1 mem).2

theorem contains_single (c d : Char) : (single c).contains d ↔ d = c := by
  rw [contains, hasCode_single, Char.toNat_inj]

end StoreQuery.CharSet
