import StoreQuery.Json.Parse

namespace StoreQuery

structure Position where
  lng : Float
  lat : Float

inductive Geometry
  | point (p : Position)
  | polygon (rings : List (List Position))
  | circle (center : Position) (radius : Float)

def Json.float? : Json → Option Float
  | .num n => some n.toFloat
  | _ => none

def Json.items? : Json → Option (List Json)
  | .arr items => some items
  | _ => none

def Position.ofJson? : Json → Option Position
  | .arr (lng :: lat :: _) => return ⟨← lng.float?, ← lat.float?⟩
  | _ => none

namespace Geometry

def ofObject? (v : Json) : Option Geometry := do
  let coordinates ← v.field? "coordinates"
  match ← v.field? "type" with
  | .str "Point" => return .point (← Position.ofJson? coordinates)
  | .str "Polygon" =>
    let rings ← (← coordinates.items?).mapM fun ring => do (← ring.items?).mapM Position.ofJson?
    match rings with
    | [] => none
    | outer :: _ => if outer.length < 3 then none else return .polygon rings
  | .str "AeroCircle" =>
    match coordinates with
    | .arr (center :: radius :: _) => return .circle (← Position.ofJson? center) (← radius.float?)
    | _ => none
  | _ => none

def ofJson? : Json → Option Geometry
  | .str text => (Json.ofText? text).bind ofObject?
  | .obj fields => ofObject? (.obj fields)
  | _ => none

def crosses (p a b : Position) : Bool :=
  decide (a.lat > p.lat) != decide (b.lat > p.lat) &&
    decide (p.lng < (b.lng - a.lng) * (p.lat - a.lat) / (b.lat - a.lat) + a.lng)

/-- Inside means that the ray crosses the ring an odd number of times. -/
def ringContains (ring : List Position) (p : Position) : Bool :=
  match ring.getLast? with
  | none => false
  | some last =>
    if ring.length < 3 then false
    else (ring.zip (last :: ring)).foldl (fun inside (a, b) => inside != crosses p a b) false

def radians (degrees : Float) : Float := degrees * (3.14159265358979323846 / 180)

def earthRadius : Float := 6371008.8

def distance (a b : Position) : Float :=
  let halfLat := (radians (b.lat - a.lat) / 2).sin
  let halfLng := (radians (b.lng - a.lng) / 2).sin
  let h := halfLat * halfLat + (radians a.lat).cos * (radians b.lat).cos * (halfLng * halfLng)
  2 * earthRadius * h.sqrt.asin

def contains (region point : Geometry) : Bool :=
  match region, point with
  | .polygon (outer :: holes), .point p =>
    ringContains outer p && !holes.any (ringContains · p)
  | .circle center radius, .point p => distance p center ≤ radius
  | _, _ => false

end Geometry

end StoreQuery
