namespace StoreQuery

inductive Inequality
  | lt
  | le
  | gt
  | ge
  deriving DecidableEq

inductive Comparison
  | eq
  | ne
  | ineq (i : Inequality)
  deriving DecidableEq

inductive Elements
  | list
  | mapKeys
  | mapValues
  deriving DecidableEq

inductive ScalarOp
  | compare (c : Comparison)
  | between
  | isIn
  | notIn
  | isNull
  | isNotNull
  deriving DecidableEq

inductive PatternOp
  | startsWith
  | endsWith
  | containing
  | notContaining
  | like
  deriving DecidableEq

inductive ElementOp
  | contains (e : Elements)
  | lacks (e : Elements)
  | between (e : Elements)
  | listValue (i : Inequality)
  deriving DecidableEq

inductive KeyedOp
  | compare (c : Comparison)
  | between
  | startsWith
  | endsWith
  | containing
  | present
  | absent
  deriving DecidableEq

inductive Operation
  | scalar (op : ScalarOp)
  | pattern (op : PatternOp)
  | element (op : ElementOp)
  | keyed (op : KeyedOp)
  | geoWithin
  deriving DecidableEq

structure RoleSet where
  key : Bool
  value : Bool
  upper : Bool
  deriving DecidableEq

def Comparison.all : List Comparison :=
  [.eq, .ne, .ineq .gt, .ineq .ge, .ineq .lt, .ineq .le]

namespace Operation

def all : List Operation :=
  Comparison.all.map (.scalar <| .compare ·)
    ++ [ScalarOp.between, .isIn, .notIn, .isNull, .isNotNull].map .scalar
    ++ [PatternOp.startsWith, .endsWith, .containing, .notContaining, .like].map .pattern
    ++ [ElementOp.contains .list, .lacks .list, .between .list, .listValue .gt, .listValue .ge,
        .listValue .lt, .listValue .le, .contains .mapKeys, .lacks .mapKeys, .contains .mapValues,
        .lacks .mapValues, .between .mapKeys, .between .mapValues].map .element
    ++ Comparison.all.map (.keyed <| .compare ·)
    ++ [KeyedOp.between, .startsWith, .endsWith, .containing, .present, .absent].map .keyed
    ++ [.geoWithin]

def name : Operation → String
  | .scalar (.compare .eq) => "EQ"
  | .scalar (.compare .ne) => "NOT_EQ"
  | .scalar (.compare (.ineq .gt)) => "GT"
  | .scalar (.compare (.ineq .ge)) => "GT_EQ"
  | .scalar (.compare (.ineq .lt)) => "LT"
  | .scalar (.compare (.ineq .le)) => "LT_EQ"
  | .scalar .between => "BETWEEN"
  | .scalar .isIn => "IN"
  | .scalar .notIn => "NOT_IN"
  | .scalar .isNull => "IS_NULL"
  | .scalar .isNotNull => "IS_NOT_NULL"
  | .pattern .startsWith => "STARTS_WITH"
  | .pattern .endsWith => "ENDS_WITH"
  | .pattern .containing => "CONTAINING"
  | .pattern .notContaining => "NOT_CONTAINING"
  | .pattern .like => "LIKE"
  | .element (.contains .list) => "LIST_VAL_CONTAINING"
  | .element (.lacks .list) => "LIST_VAL_NOT_CONTAINING"
  | .element (.between .list) => "LIST_VAL_BETWEEN"
  | .element (.listValue .gt) => "LIST_VAL_GT"
  | .element (.listValue .ge) => "LIST_VAL_GT_EQ"
  | .element (.listValue .lt) => "LIST_VAL_LT"
  | .element (.listValue .le) => "LIST_VAL_LT_EQ"
  | .element (.contains .mapKeys) => "MAP_KEYS_CONTAIN"
  | .element (.lacks .mapKeys) => "MAP_KEYS_NOT_CONTAIN"
  | .element (.contains .mapValues) => "MAP_VALUES_CONTAIN"
  | .element (.lacks .mapValues) => "MAP_VALUES_NOT_CONTAIN"
  | .element (.between .mapKeys) => "MAP_KEYS_BETWEEN"
  | .element (.between .mapValues) => "MAP_VALUES_BETWEEN"
  | .keyed (.compare .eq) => "MAP_VAL_EQ_BY_KEY"
  | .keyed (.compare .ne) => "MAP_VAL_NOT_EQ_BY_KEY"
  | .keyed (.compare (.ineq .gt)) => "MAP_VAL_GT_BY_KEY"
  | .keyed (.compare (.ineq .ge)) => "MAP_VAL_GT_EQ_BY_KEY"
  | .keyed (.compare (.ineq .lt)) => "MAP_VAL_LT_BY_KEY"
  | .keyed (.compare (.ineq .le)) => "MAP_VAL_LT_EQ_BY_KEY"
  | .keyed .between => "MAP_VAL_BETWEEN_BY_KEY"
  | .keyed .startsWith => "MAP_VAL_STARTS_WITH_BY_KEY"
  | .keyed .endsWith => "MAP_VAL_ENDS_WITH_BY_KEY"
  | .keyed .containing => "MAP_VAL_CONTAINING_BY_KEY"
  | .keyed .present => "MAP_VAL_EXISTS_BY_KEY"
  | .keyed .absent => "MAP_VAL_NOT_EXISTS_BY_KEY"
  | .geoWithin => "GEO_WITHIN"

theorem mem_all (op : Operation) : op ∈ all := by
  cases op with
  | scalar s =>
    cases s with
    | compare c =>
      cases c with
      | ineq i => cases i <;> decide
      | _ => decide
    | _ => decide
  | pattern p => cases p <;> decide
  | element e =>
    cases e with
    | listValue i => cases i <;> decide
    | contains e | lacks e | between e => cases e <;> decide
  | keyed k =>
    cases k with
    | compare c =>
      cases c with
      | ineq i => cases i <;> decide
      | _ => decide
    | _ => decide
  | geoWithin => decide

theorem name_inj {a b : Operation} (h : a.name = b.name) : a = b := by
  have inj : ∀ a ∈ all, ∀ b ∈ all, a.name = b.name → a = b := by decide +kernel
  exact inj a (mem_all a) b (mem_all b) h

def isKeyed : Operation → Bool
  | .keyed _ => true
  | _ => false

/-- An index on map values ignores keys, so these conditions are checked again on each record that
the index finds. -/
def isDual : Operation → Bool
  | .keyed (.compare .ne) => false
  | .keyed (.compare _) => true
  | .keyed .between => true
  | _ => false

def needs : Operation → RoleSet
  | .scalar .isNull => ⟨false, false, false⟩
  | .scalar .isNotNull => ⟨false, false, false⟩
  | .scalar .between => ⟨false, true, true⟩
  | .element (.between _) => ⟨false, true, true⟩
  | .keyed .present => ⟨true, false, false⟩
  | .keyed .absent => ⟨true, false, false⟩
  | .keyed .between => ⟨true, true, true⟩
  | .keyed _ => ⟨true, true, false⟩
  | _ => ⟨false, true, false⟩

def acceptsPath : Operation → Bool
  | .element _ => true
  | .keyed _ => true
  | _ => false

def appliesToMetadata : Operation → Bool
  | .scalar .isNull => false
  | .scalar .isNotNull => false
  | .scalar _ => true
  | _ => false

end Operation

end StoreQuery
