import StoreQuery.Predicate.Leaf

/-!
How operands are brought into the form in which the store holds them. Only lists and maps, and the
keys of maps, pass through an encoder.
-/

namespace StoreQuery

structure Encoder where
  encode : Json → Settings → Json
  encodeKey : Json → Settings → Json

namespace Encoder

def json : Encoder where
  encode v _ := v
  encodeKey key settings :=
    if settings.keepKeyTypes then key
    else match key with
      | .num n => .str n.toText
      | .bool b => .str (if b then "true" else "false")
      | other => other

def operand (e : Encoder) (v : Json) (settings : Settings) : Json :=
  match v with
  | .arr _ => e.encode v settings
  | .obj _ => e.encode v settings
  | _ => v

end Encoder

end StoreQuery
