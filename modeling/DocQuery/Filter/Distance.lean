import DocQuery.Value.Number

/-!
# Distances

Points given by two coordinates, and two distances between them: along the
straight line, and along the surface of the unit sphere, with coordinates in
degrees of longitude and latitude.
-/

namespace DocQuery

/-- A point given by two coordinates. -/
structure Point where
  x : Binary64
  y : Binary64

namespace Point

/-- An array of exactly two numbers. -/
def ofValue? : Value → Option Point
  | .array [first, second] => do
    let x ← first.toBinary64?
    let y ← second.toBinary64?
    some ⟨x, y⟩
  | _ => none

/-- The length of the straight line between two points. -/
def planeDistance (here there : Point) : Binary64 :=
  (here.x.sub there.x).hypotenuse (here.y.sub there.y)

/-- The number of a bit pattern, for the functions of the circle. -/
def toReal (number : Binary64) : Float := Float.ofBits number.bits

/-- Radians in a degree. -/
def radiansPerDegree : Float := 3.141592653589793 / 180.0

/-- The angle between two points seen from the centre of the sphere, in
radians.  Where the coordinates give no number, the angle is a half turn. -/
def sphereDistance (here there : Point) : Binary64 :=
  let longitude := toReal here.x * radiansPerDegree
  let latitude := toReal here.y * radiansPerDegree
  let longitude' := toReal there.x * radiansPerDegree
  let latitude' := toReal there.y * radiansPerDegree
  let latitudeSine := Float.sin ((latitude' - latitude) / 2.0)
  let longitudeSine := Float.sin ((longitude' - longitude) / 2.0)
  let haversine := latitudeSine * latitudeSine +
    Float.cos latitude * Float.cos latitude' * (longitudeSine * longitudeSine)
  let chord := Float.sqrt haversine
  let bounded := if chord ≤ 1.0 then chord else 1.0
  ⟨(2.0 * Float.asin bounded).toBits⟩

end Point

end DocQuery
