import StoreQuery.Proofs.Encoding.Leaf
import StoreQuery.Proofs.Json.Order

/-!
What conditions on elements mean. Such a condition wants the items of a list or map in a relation to
its operands, and holds if some item is in it, or if none is; where there is no list or map it is
unknown. The bounds by which the expression counts are moved to the next value, so counting is
right because the next value has no other one before it.
-/

namespace StoreQuery

/-- The key of a map as a value: a text, or the integer that it spells where these are wanted. -/
def Json.ofKey (byNumber : Bool) (key : String) : Json :=
  match byNumber, Text.readInt64? key.toList with
  | true, some n => .int64 n
  | _, _ => .str key

def Elements.items? (byNumber : Bool) : Elements → Json → Option (List Json)
  | .list, .arr items => some items
  | .mapValues, .obj fields => some (fields.map Prod.snd)
  | .mapKeys, .obj fields => some (fields.map fun (key, _) => .ofKey byNumber key)
  | _, _ => none

namespace ElementOp

/-- What an item has to equal. Keys of maps are looked for in the form in which they are stored. -/
def sought? (l : Leaf) (es : Elements) : Option Json :=
  l.value.map fun v => if es = .mapKeys then Encoder.json.encodeKey v l.settings else v

def byNumber (l : Leaf) : ElementOp → Bool
  | .contains es => (sought? l es).any Json.isNumber
  | .lacks es => (sought? l es).any Json.isNumber
  | .between _ => l.value.any Json.isNumber
  | .listValue _ => false

def Wants (l : Leaf) (item : Json) : ElementOp → Prop
  | .contains es => ∃ v ∈ sought? l es, item == v
  | .lacks es => ∃ v ∈ sought? l es, item == v
  | .between _ => ∃ low ∈ l.value, ∃ high ∈ l.upper, low.AtMost item ∧ item.AtMost high
  | .listValue .lt => ∃ v ∈ l.value, item.Below v
  | .listValue .le => ∃ v ∈ l.value, item.AtMost v
  | .listValue .gt => ∃ v ∈ l.value, v.Below item
  | .listValue .ge => ∃ v ∈ l.value, v.AtMost item

def Accepts (l : Leaf) (items : List Json) : ElementOp → Prop
  | .lacks es => ¬∃ item ∈ items, (lacks es).Wants l item
  | op => ∃ item ∈ items, op.Wants l item

def items? (l : Leaf) (bin : String) (r : Record) (op : ElementOp) : Option (List Json) :=
  ((r.bin? bin).bind l.path.resolve).bind (op.elements.items? (op.byNumber l))

end ElementOp

namespace Json

theorem equal_eq_beq {v w : Json} (hv : v.Indexable) (hw : w.Indexable) : v.equal w = (v == w) := by
  by_cases number : v.isNumber ∧ w.isNumber
  · obtain ⟨m, rfl⟩ := hv number.1
    obtain ⟨n, rfl⟩ := hw number.2
    rw [Bool.eq_iff_iff, equal_int64_iff hv, int64_inj, ← Int64.toInt_inj]
    exact beq_iff_eq.symm
  · cases v <;> cases w <;> first | rfl | exact absurd ⟨rfl, rfl⟩ number

/-- One value comes right after another, with no value of its kind in between. -/
structure Follows (next v : Json) : Prop where
  isBound : next.IsBound
  below_iff : ∀ item : Json, item.Below next ↔ item.AtMost v
  atMost_iff : ∀ item, next.AtMost item ↔ v.Below item

theorem follows_int64 {n : Int64} (inside : n ≠ .maxValue) :
    Follows (.int64 (n + 1)) (.int64 n) where
  isBound := isBound_int64 (n + 1)
  below_iff item := by
    simp only [Below, AtMost, related_int64_right_iff, Int64.lt_add_one_iff inside]
  atMost_iff item := by
    simp only [Below, AtMost, related_int64_left_iff, Int64.add_one_le_iff inside]

theorem follows_str (s : String) : Follows (.str (s ++ "\x00")) (.str s) where
  isBound := isBound_str (s ++ "\x00")
  below_iff item := by
    simp only [Below, AtMost, related_str_right_iff, Text.lt_next_iff]
  atMost_iff item := by
    simp only [Below, AtMost, related_str_left_iff, Text.next_le_iff]

end Json

theorem successor_cases {op : Operation} {v : Json} {next : Option Json} (indexable : v.Indexable)
    (h : successor op v = .ok next) :
    v = .int64 .maxValue ∧ next = none ∨ ∃ w, next = some w ∧ w.Follows v := by
  cases v with
  | num x =>
    obtain ⟨n, isInt⟩ := indexable rfl
    rw [isInt, successor_int64, next?] at h
    rw [isInt]
    split at h
    · rename_i atMax
      cases h
      exact .inl ⟨by rw [atMax], rfl⟩
    · rename_i inside
      cases h
      exact .inr ⟨_, rfl, Json.follows_int64 inside⟩
  | str s =>
    cases h
    exact .inr ⟨_, rfl, Json.follows_str s⟩
  | null | bool | arr | obj => cases h

theorem requireSuccessor_follows {op : Operation} {v w : Json} (indexable : v.Indexable)
    (h : requireSuccessor op v = .ok w) : w.Follows v := by
  obtain ⟨next, isNext, h⟩ := Except.bind_eq_ok_iff.1 h
  obtain ⟨-, rfl⟩ | ⟨u, rfl, follows⟩ := successor_cases indexable isNext
  · cases h
  · cases h
    exact follows

theorem isBound_of_checkOrderable {op : Operation} {v : Json} (indexable : v.Indexable)
    (h : checkOrderable op v = .ok ()) : v.IsBound where
  indexable := indexable
  notBool b := by
    rintro rfl
    cases h

namespace Selector

theorem keyValue_eq_ofKey (s : Selector) (key : String) :
    s.keyValue key = .ofKey s.isNumeric key := by
  rw [keyValue, Json.ofKey.eq_def]
  cases Text.readInt64? key.toList <;> cases s.isNumeric <;> rfl

theorem count_eq (s : Selector) (es : Elements) (v : Json) :
    s.count es v = (es.items? s.isNumeric v).map (List.countP s.selects) := by
  cases es <;> cases v <;>
    simp [count, Elements.items?, List.countP_map, Function.comp_def, keyValue_eq_ofKey]

structure Fits (l : Leaf) (op : ElementOp) (s : Selector) : Prop where
  selects_iff : ∀ {item}, item.Indexable → (s.selects item ↔ op.Wants l item)
  isNumeric : op.elements = .mapKeys → s.isNumeric = op.byNumber l

variable {item bound lower upper : Json}

theorem selects_below_iff (indexable : item.Indexable) (isBound : bound.IsBound) :
    (range none (some bound)).selects item ↔ item.Below bound := by
  rw [← Json.any_isLT_compare?_iff indexable isBound]
  cases found : item.compare? bound <;> simp [selects, found]

theorem selects_atLeast_iff (indexable : item.Indexable) (isBound : bound.IsBound) :
    (range (some bound) none).selects item ↔ bound.AtMost item := by
  rw [← Json.any_isGE_compare?_iff indexable isBound]
  simp [selects]

theorem selects_range_of_both_iff : (range (some lower) (some upper)).selects item ↔
      (range (some lower) none).selects item ∧ (range none (some upper)).selects item := by
  cases found : item.compare? upper <;> simp [selects, found]

end Selector

namespace ElementOp

variable {l : Leaf} {es : Elements} {op : ElementOp} {s : Selector} {v w : Json}

theorem sought?_eq_member (value : l.value = some v) :
    sought? l es = some (member l .json v es) := by
  have unchanged : Encoder.json.operand v l.settings = v := by cases v <;> rfl
  cases es <;> simp [sought?, value, member, unchanged]

theorem indexable_member (indexable : v.Indexable) : (member l .json v es).Indexable := by
  cases es with
  | list | mapValues => cases v <;> exact indexable
  | mapKeys =>
    simp only [member, Encoder.json]
    split
    · exact indexable
    · cases v <;> first | exact indexable | nofun

theorem fits_value (value : l.value = some v) (indexable : v.Indexable)
    (wants : ∀ item, op.Wants l item ↔ ∃ v ∈ sought? l es, item == v)
    (byNumber : op.byNumber l = (sought? l es).any Json.isNumber) :
    (Selector.value (member l .json v es)).Fits l op where
  selects_iff := by
    intro item itemIndexable
    rw [wants, sought?_eq_member value, Selector.selects,
      Json.equal_eq_beq itemIndexable (indexable_member indexable)]
    simp
  isNumeric _ := by
    rw [byNumber, sought?_eq_member value]
    rfl

theorem minValue_atMost_iff {item : Json} :
    (Json.int64 .minValue).AtMost item ↔ item.AtMost (.int64 .maxValue) := by
  simp [Json.AtMost, Json.related_int64_left_iff, Json.related_int64_right_iff, Int64.minValue_le,
    Int64.le_maxValue]

theorem isNumber_of_checkBounds {op : Operation} {n : Int64}
    (h : checkBounds op v (.int64 n) = .ok ()) : v.isNumber := by
  obtain ⟨⟨⟩, -, h⟩ := Except.bind_eq_ok_iff.1 h
  obtain ⟨⟨⟩, -, h⟩ := Except.bind_eq_ok_iff.1 h
  cases v with
  | num => rfl
  | _ => cases h

theorem fits_between {low high : Json} {next : Option Json} (isLow : l.value = some low)
    (isHigh : l.upper = some high) (lowIndexable : low.Indexable) (highIndexable : high.Indexable)
    (bounds : checkBounds l.op low high = .ok ()) (isNext : successor l.op high = .ok next) :
    (Selector.range (some low) next).Fits l (.between es) where
  selects_iff := by
    intro item indexable
    obtain ⟨⟨⟩, orderable, -⟩ := Except.bind_eq_ok_iff.1 bounds
    have low_iff := Selector.selects_atLeast_iff indexable
      (isBound_of_checkOrderable lowIndexable orderable)
    obtain ⟨rfl, rfl⟩ | ⟨w, rfl, follows⟩ := successor_cases highIndexable isNext
    · -- The lower bound is an integer too, so it leaves no other items than integers.
      obtain ⟨n, rfl⟩ := lowIndexable (isNumber_of_checkBounds bounds)
      have isInt : (Json.int64 n).AtMost item → item.AtMost (.int64 .maxValue) := by
        intro h
        obtain ⟨m, rfl, -⟩ := Json.related_int64_left_iff.1 h
        exact Json.related_int64_right_iff.2 ⟨m, rfl, m.le_maxValue⟩
      rw [low_iff]
      simpa [Wants, isLow, isHigh] using isInt
    · rw [Selector.selects_range_of_both_iff, low_iff,
        Selector.selects_below_iff indexable follows.isBound, follows.below_iff]
      simp [Wants, isLow, isHigh]
  isNumeric _ := by simp [Selector.isNumeric, byNumber, isLow]

theorem fits_listValue {i : Inequality} (isValue : l.value = some v) (indexable : v.Indexable)
    (h : selector l .json (.listValue i) = .ok s) : s.Fits l (.listValue i) where
  selects_iff := by
    intro item itemIndexable
    simp only [selector, ignoreCase_of_selector h, Bool.false_eq_true, if_false,
      Leaf.requireValue_eq_ok_iff.2 isValue, Except.ok_bind] at h
    cases i with
    | gt =>
      obtain ⟨w, next, h⟩ := Except.bind_eq_ok_iff.1 h
      cases h
      have follows : w.Follows v := requireSuccessor_follows indexable next
      rw [Selector.selects_atLeast_iff itemIndexable follows.isBound, follows.atMost_iff]
      simp [Wants, isValue]
    | ge =>
      obtain ⟨⟨⟩, orderable, h⟩ := Except.bind_eq_ok_iff.1 h
      cases h
      rw [Selector.selects_atLeast_iff itemIndexable
        (isBound_of_checkOrderable indexable orderable)]
      simp [Wants, isValue]
    | lt =>
      obtain ⟨⟨⟩, orderable, h⟩ := Except.bind_eq_ok_iff.1 h
      cases h
      rw [Selector.selects_below_iff itemIndexable (isBound_of_checkOrderable indexable orderable)]
      simp [Wants, isValue]
    | le =>
      obtain ⟨next, isNext, h⟩ := Except.bind_eq_ok_iff.1 h
      obtain ⟨rfl, rfl⟩ | ⟨w, rfl, follows⟩ := successor_cases indexable isNext
      · cases h
        rw [Selector.selects_atLeast_iff itemIndexable (Json.isBound_int64 _), minValue_atMost_iff]
        simp [Wants, isValue]
      · cases h
        rw [Selector.selects_below_iff itemIndexable follows.isBound, follows.below_iff]
        simp [Wants, isValue]
  isNumeric := nofun

theorem fits_of_selector (value : ∀ v ∈ l.value, v.Indexable)
    (upper : ∀ v ∈ l.upper, v.Indexable) (h : op.selector l .json = .ok s) : s.Fits l op := by
  obtain ⟨v, isValue⟩ := requireValue_of_selector h
  have has := Leaf.requireValue_eq_ok_iff.1 isValue
  have indexable : v.Indexable := value v has
  cases op with
  | listValue i => exact fits_listValue has indexable h
  | contains es =>
    rw [selector_contains h isValue]
    exact fits_value has indexable (fun _ => Iff.rfl) rfl
  | lacks es =>
    rw [selector_lacks] at h
    rw [selector_contains h isValue]
    exact fits_value has indexable (fun _ => Iff.rfl) rfl
  | between es =>
    simp only [selector, ignoreCase_of_selector h, Bool.false_eq_true, if_false, isValue,
      Except.ok_bind] at h
    obtain ⟨high, isHigh, h⟩ := Except.bind_eq_ok_iff.1 h
    have hasUpper := Leaf.requireUpper_eq_ok_iff.1 isHigh
    obtain ⟨⟨⟩, bounds, h⟩ := Except.bind_eq_ok_iff.1 h
    obtain ⟨next, isNext, h⟩ := Except.bind_eq_ok_iff.1 h
    cases h
    exact fits_between has hasUpper indexable (upper high hasUpper) bounds isNext

end ElementOp

theorem Elements.items?_congr {es : Elements} {a b : Bool} (h : es = .mapKeys → a = b) :
    es.items? a = es.items? b := by
  cases es with
  | mapKeys => rw [h rfl]
  | list | mapValues =>
    funext v
    cases v <;> rfl

theorem Comparison.evaluate_count_eq (n : Nat) :
    Comparison.eq.evaluate (.count n) (.int 0) = .ofBool (decide (n = 0)) := by
  obtain ⟨m, eq, pos_iff⟩ := Json.count_eq_int64 n
  have zero_iff : m = 0 ↔ n = 0 := by
    constructor
    · rintro rfl
      simpa using pos_iff
    · rintro rfl
      have zero : Json.int64 0 = .int64 m := eq
      exact (Json.int64_inj.1 zero).symm
  rw [eq, show Json.int 0 = .int64 0 from rfl, evaluate]
  congr 1
  rw [Bool.eq_iff_iff, Json.equal_int64_iff (Json.indexable_int64 m), Json.int64_inj,
    decide_eq_true_iff, zero_iff]

namespace ElementOp

variable {l : Leaf} {bin : String} {op : ElementOp} {s : Selector} {x : Expr}

theorem test_count (fits : s.Fits l op) {items : List Json}
    (indexable : ∀ item ∈ items, item.Indexable) :
    ∃ b, op.test.evaluate (.count (items.countP s.selects)) (.int 0) = .ofBool b ∧
      (b = true ↔ op.Accepts l items) := by
  have some_wanted : 0 < items.countP s.selects ↔ ∃ item ∈ items, op.Wants l item := by
    rw [List.countP_pos_iff]
    exact exists_congr fun item => and_congr_right fun mem => fits.selects_iff (indexable item mem)
  cases op with
  | lacks es =>
    refine ⟨_, Comparison.evaluate_count_eq _, ?_⟩
    rw [decide_eq_true_iff, Accepts, ← some_wanted]
    omega
  | contains | between | listValue =>
    refine ⟨_, Comparison.evaluate_count_gt _, ?_⟩
    rw [decide_eq_true_iff, some_wanted]
    rfl

theorem count_eq_items? (fits : s.Fits l op) (r : Record) :
    ((r.bin? bin).bind l.path.resolve).bind (s.count op.elements) =
      (op.items? l bin r).map (List.countP s.selects) := by
  rw [items?, ← Elements.items?_congr fits.isNumeric, Option.map_bind]
  congr 1
  funext v
  exact s.count_eq op.elements v

end ElementOp

/-- A condition on elements holds where the items are as it wants them and fails where they are
not. It is unknown just where there is no list or map of items. -/
theorem Leaf.evaluate_element {l : Leaf} {bin : String} {op : ElementOp} {x : Expr}
    (target : l.target = .field bin) (isElement : l.op = .element op)
    (value : ∀ v ∈ l.value, v.Indexable) (upper : ∀ v ∈ l.upper, v.Indexable)
    (compiled : l.expression .json = .ok x) (r : Record) :
    (op.items? l bin r = none → x.evaluate r = .unknown) ∧
      ∀ items, op.items? l bin r = some items → (∀ item ∈ items, item.Indexable) →
        (op.Accepts l items → x.evaluate r = .holds) ∧
          (¬op.Accepts l items → x.evaluate r = .fails) := by
  simp only [expression, target, isElement] at compiled
  obtain ⟨s, selects, -⟩ := Except.bind_eq_ok_iff.1 compiled
  rw [ElementOp.expression_eq selects] at compiled
  cases compiled
  have fits : s.Fits l op := ElementOp.fits_of_selector value upper selects
  rw [Expr.evaluate_count, ElementOp.count_eq_items? fits]
  constructor
  · intro absent
    rw [absent]
    rfl
  · intro items found indexable
    obtain ⟨b, counted, accepts_iff⟩ := ElementOp.test_count fits indexable
    rw [found, Option.map_some]
    simp only [counted, ← accepts_iff]
    cases b <;> simp [Truth.ofBool]

theorem Leaf.evaluate_element_of_maxValue :
    ∃ x, (Leaf.onBin "scores" (.element (.listValue .le)) (.int64 .maxValue)).expression .json =
        .ok x ∧
      x.evaluate { bins := [("scores", .arr [.str "x", .int64 .minValue])] } = .holds ∧
      x.evaluate { bins := [("scores", .arr [.str "x"])] } = .fails ∧
      x.evaluate {} = .unknown := by
  have meaning := Leaf.evaluate_element
    (l := Leaf.onBin "scores" (.element (.listValue .le)) (.int64 .maxValue)) rfl rfl
    (by rintro _ ⟨⟩; exact Json.indexable_int64 _) nofun rfl
  refine ⟨_, rfl, ?_, ?_, (meaning _).1 rfl⟩
  · apply ((meaning _).2 [.str "x", .int64 .minValue] rfl
      (by simp [Json.Indexable, Json.isNumber])).1
    exact ⟨_, by simp, _, rfl, .inl ⟨_, _, rfl, rfl, Int64.minValue_le _⟩⟩
  · apply ((meaning _).2 [.str "x"] rfl (by simp [Json.Indexable, Json.isNumber])).2
    rintro ⟨_, ⟨⟩ | ⟨_, ⟨⟩⟩, _, ⟨⟩, h⟩
    obtain ⟨_, isInt, -⟩ := Json.related_int64_right_iff.1 h
    cases isInt

end StoreQuery
