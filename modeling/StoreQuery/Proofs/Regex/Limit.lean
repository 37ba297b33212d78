import StoreQuery.Expr.Eval
import StoreQuery.Proofs.Regex.Literal
import StoreQuery.Proofs.Regex.Program

namespace StoreQuery.Regex

/-- The program of a basic pattern is not too large to be built. -/
def Fits (icase : Bool) (pattern : String) : Prop :=
  ∀ part ∈ Part.ofPattern? icase (basicToExtended pattern.toList), part.outline.fits

open Program

/-- What a character takes up at most, if as many as eight others are equal to it but for case. -/
def charRoom : Nat := codesRoom 8

theorem partRoom_ofSet_le {s : CharSet} (few : CharSet.size s.ranges ≤ 8) :
    partRoom (.ofSet s) ≤ charRoom := by
  rw [Outline.ofSet]
  split
  next c _ =>
    have bytes : (textBytes false [c]).length ≤ 4 := by
      simpa [textBytes] using Utf8.length_bytes_le c.toNat
    simp only [partRoom, charRoom, codesRoom, stateCost, edgeCost]
    omega
  next =>
    simp only [partRoom, charRoom, codesRoom, stateCost, edgeCost]
    omega

theorem takes_ofSet {s : CharSet} (filled : CharSet.Filled s.ranges) :
    Takes (partRoom (.ofSet s)) (.ofSet s) := by
  rw [Outline.ofSet]
  split
  next c _ => exact takes_literal [c]
  next => exact takes_set filled

theorem parts_ofSet (s : CharSet) : (Outline.ofSet s).parts = [Outline.ofSet s] := by
  rw [Outline.ofSet]
  split <;> rfl

theorem filled_single (c : Char) : CharSet.Filled (CharSet.single c).ranges := by
  simp [CharSet.Filled, CharSet.single]

theorem fold_single (icase : Bool) (c : Char) :
    CharSet.size (Flags.fold { icase } (.single c)).ranges ≤ 8 ∧
      CharSet.Filled (Flags.fold { icase } (.single c)).ranges := by
  cases icase with
  | false =>
    have one : CharSet.size (CharSet.single c).ranges = 1 := by simp [CharSet.size, CharSet.single]
    exact ⟨Nat.le_of_lt (one ▸ by decide), filled_single c⟩
  | true => exact ⟨CharSet.size_folded_single c, CharSet.filled_folded (filled_single c)⟩

theorem sum_chars_le (icase : Bool) (s : List Char) :
    (s.map fun c => partRoom (.ofSet (Flags.fold { icase } (.single c)))).sum ≤
      s.length * charRoom := by
  induction s with
  | nil => simp
  | cons c s ih =>
    have first := partRoom_ofSet_le (fold_single icase c).1
    rw [List.map_cons, List.sum_cons, List.length_cons, Nat.succ_mul]
    omega

theorem sum_framed_le (atStart atEnd : Bool) (first last : Nat) (body : List Nat) :
    (framed atStart atEnd first last body).sum ≤ first + last + body.sum := by
  cases atStart <;> cases atEnd <;> simp [framed] <;> omega

theorem takes_literalParts (icase : Bool) (p : Place) (s : List Char) :
    Takes (stateCost + (2 * stateCost + s.length * charRoom))
      (.ofSequence ((literalParts { icase } p s).map Part.outline)) := by
  rw [map_outline_literalParts]
  have flat : ∀ o ∈ framed p.atStart p.atEnd (Outline.look .textStart) (.look .textEnd)
      (s.map fun c => .ofSet (Flags.fold { icase } (.single c))), o.parts = [o] :=
    forall_mem_framed (P := fun o : Outline => o.parts = [o]) rfl rfl
      (List.forall_mem_map.2 fun c _ => parts_ofSet _) _ _
  have ends (a : Assertion) : Takes (partRoom (.look a)) (.look a) := takes_look a
  have each : ∀ o ∈ framed p.atStart p.atEnd (Outline.look .textStart) (.look .textEnd)
      (s.map fun c => .ofSet (Flags.fold { icase } (.single c))), Takes (partRoom o) o :=
    forall_mem_framed (P := fun o => Takes (partRoom o) o) (ends _) (ends _)
      (List.forall_mem_map.2 fun c _ => takes_ofSet (fold_single icase c).2) _ _
  refine (takes_ofSequence flat each).mono ?_
  rw [map_framed, List.map_map]
  have total := sum_framed_le p.atStart p.atEnd stateCost stateCost
    (s.map fun c => partRoom (.ofSet (Flags.fold { icase } (.single c))))
  have chars := sum_chars_le icase s
  refine Nat.add_le_add_left (Nat.le_trans total ?_) _
  omega

theorem fits_of_short (icase : Bool) (p : Place) {pattern : String} {s : List Char}
    (anchored : pattern.toList = framed p.atStart p.atEnd '^' '$' (escapeBasic s))
    (short : s.length ≤ 7000) : Fits icase pattern := by
  intro part parsed
  obtain ⟨part', parsed', _, outline⟩ := ofPattern?_literal icase p s
  rw [anchored, parsed'] at parsed
  obtain rfl := Option.some_inj.1 parsed
  rw [outline]
  apply fits_of_takes (takes_literalParts icase p s)
  simp only [frameRoom, charRoom, codesRoom, stateCost, edgeCost, choiceCost, limit]
  omega

end StoreQuery.Regex

namespace StoreQuery

theorem PatternFlags.isMatch?_of_fits {ignoreCase : Bool} {pattern : String} {part : Regex.Part}
    (fits : Regex.Fits ignoreCase pattern)
    (made : Regex.Part.ofPattern? ignoreCase (Regex.basicToExtended pattern.toList) = some part)
    (text : String) :
    PatternFlags.isMatch? { icase := ignoreCase } pattern text =
      some (part.regex.isMatch text) := by
  have parses : Regex.parse? (Regex.basicToExtended pattern.toList) ignoreCase =
      some part.regex := by
    rw [Regex.parse?, made, Option.filter_some, if_pos (fits part made), Option.map_some]
  rw [isMatch?, if_neg Bool.false_ne_true, parses, Option.map_some]

end StoreQuery
