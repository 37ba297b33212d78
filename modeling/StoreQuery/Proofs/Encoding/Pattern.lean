import StoreQuery.Encoding.Leaf
import StoreQuery.Proofs.Expr.Negation
import StoreQuery.Proofs.Regex.Limit

namespace StoreQuery

theorem PatternFlags.isMatch?_literal (icase : Bool) (p : Place) {pattern : String}
    (s text : String)
    (anchored :
      pattern.toList = Regex.framed p.atStart p.atEnd '^' '$' (Regex.escapeBasic s.toList))
    (fits : Regex.Fits icase pattern) :
    PatternFlags.isMatch? { icase } pattern text =
      some (decide (p.Holds (s.toList.map (Text.caseKey icase))
        (text.toList.map (Text.caseKey icase)))) := by
  obtain ⟨part, parsed, regex, _⟩ := Regex.ofPattern?_literal icase p s.toList
  rw [← anchored] at parsed
  have found := Regex.isMatch_literalParts icase p s.toList text
  rw [← regex] at found
  rw [isMatch?_of_fits fits parsed, Option.some_inj, Bool.eq_iff_iff, found, decide_eq_true_iff]

/-- Where an operation looks for its operand in the text of a bin, and whether it is met when the
operand is found. -/
inductive Operation.Seeks : Operation → (ignoreCase : Bool) → Place → (wanted : Bool) → Prop
  | startsWith (ignoreCase : Bool) : Seeks (.pattern .startsWith) ignoreCase .start true
  | endsWith (ignoreCase : Bool) : Seeks (.pattern .endsWith) ignoreCase .stop true
  | containing (ignoreCase : Bool) : Seeks (.pattern .containing) ignoreCase .anywhere true
  | notContaining (ignoreCase : Bool) : Seeks (.pattern .notContaining) ignoreCase .anywhere false
  | eq : Seeks (.scalar (.compare .eq)) true .whole true
  | ne : Seeks (.scalar (.compare .ne)) true .whole false

namespace Operation.Seeks

variable {op : Operation} {ignoreCase wanted : Bool} {p : Place}

theorem toList_patternFor (h : op.Seeks ignoreCase p wanted) (s : String) :
    (op.patternFor s).toList =
      Regex.framed p.atStart p.atEnd '^' '$' (Regex.escapeBasic s.toList) := by
  cases h <;> simp [patternFor, Regex.framed, Place.atStart, Place.atEnd]

end Operation.Seeks

namespace Leaf

variable {l : Leaf} {bin s : String} {p : Place} {wanted : Bool}

theorem expression_of_seeks (e : Encoder) (target : l.target = .field bin)
    (seeks : l.op.Seeks l.ignoreCase p wanted) (operand : l.value = some (.str s)) :
    let found : Expr := .regex (.bin bin .string) (l.op.patternFor s) { icase := l.ignoreCase }
    l.expression e = .ok (if wanted then found else .not found) := by
  have value : l.requireValue = .ok (.str s) := by rw [requireValue, operand, require]
  have opposite : Operation.patternFor (.scalar (.compare .ne)) s =
      Operation.patternFor (.scalar (.compare .eq)) s := rfl
  rw [expression, target]
  generalize op : l.op = o at seeks
  generalize case : l.ignoreCase = ignoreCase at seeks
  cases seeks <;>
    simp [op, case, PatternOp.expression, ScalarOp.expression, equality, value, requireString,
      opposite]

/-- A condition that looks for a text in a bin is met by the texts that have it at the right place,
or by the others, and can always be told of a text. -/
theorem pattern_matches_literally (e : Encoder) (target : l.target = .field bin)
    (seeks : l.op.Seeks l.ignoreCase p wanted) (operand : l.value = some (.str s))
    (fits : Regex.Fits l.ignoreCase (l.op.patternFor s)) :
    ∃ x, l.expression e = .ok x ∧ ∀ r text, r.bin? bin = some (.str text) →
      x.evaluate r = .ofBool (wanted == decide (p.Holds (s.toList.map (Text.caseKey l.ignoreCase))
        (text.toList.map (Text.caseKey l.ignoreCase)))) := by
  refine ⟨_, expression_of_seeks e target seeks operand, ?_⟩
  intro r text stored
  have resolved : (Operand.bin bin .string).resolve r = some (.str text) := by
    rw [Operand.resolve, stored]
    rfl
  have exact_ :=
    PatternFlags.isMatch?_literal l.ignoreCase p s text (seeks.toList_patternFor s) fits
  cases wanted <;> simp [Expr.evaluate, Expr.evaluateRegex, resolved, exact_]

theorem pattern_matches_literally_of_special_characters :
    let same : Leaf := {
      target := .field "name", op := .scalar (.compare .eq), value1 := some (.str "^A[l.*\\"),
      ignoreCase := true }
    ∃ x, same.expression .json = .ok x ∧
      x.evaluate { bins := [("name", .str "^a[L.*\\")] } = .holds ∧
      x.evaluate { bins := [("name", .str "Allan\\")] } = .fails := by
  intro same
  have seeks : same.op.Seeks same.ignoreCase .whole true := .eq
  obtain ⟨x, compiled, evaluate⟩ := pattern_matches_literally .json rfl seeks rfl
    (Regex.fits_of_short true .whole (seeks.toList_patternFor "^A[l.*\\") (by decide))
  refine ⟨x, compiled, ?_, ?_⟩
  · rw [evaluate _ _ rfl]
    decide +kernel
  · rw [evaluate _ _ rfl]
    decide +kernel

end Leaf

end StoreQuery
