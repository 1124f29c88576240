import SchoolCatalog.Failure

/-!
# Distance on the globe

The length of the great circle between two points given in degrees, by the haversine formula, in
miles. Where an argument leaves the domain of a step, there is no distance. Differences of integers
are taken before they are rounded.

Main statement: `distanceMiles_real`.
-/

namespace SchoolCatalog.Geo

def earthRadiusMiles : Float := 3963.0

def radians (degrees : Float) : Float := degrees * (3.141592653589793 / 180.0)

/-- Whether a sine or cosine is defined: not at an infinity. -/
def hasSine (x : Float) : Bool := !x.isInf

/-- The distance of points on two latitudes in miles, by how far their latitudes and longitudes are
apart. -/
def haversine (lat1 lat2 dlat dlon : Float) : Except Failure Binary64 :=
  let phi1 := radians lat1
  let phi2 := radians lat2
  let dphi := radians dlat / 2
  let dlambda := radians dlon / 2
  if !(hasSine phi1 && hasSine phi2 && hasSine dphi && hasSine dlambda) then
    .error (.refused .outsideDomain)
  else
    let a := Float.pow dphi.sin 2.0 + phi1.cos * phi2.cos * Float.pow dlambda.sin 2.0
    if a < 0.0 then .error (.refused .outsideDomain)
    else
      let root := a.sqrt
      if 1.0 < root then .error (.refused .outsideDomain)
      else .ok (.ofFloat (2.0 * earthRadiusMiles * root.asin))

/-- The integer that a value is, a flag counting as one. -/
def integer? : Datum → Option Int
  | .int i => some i
  | .bool b => some (if b then 1 else 0)
  | _ => none

/-- How far the second value is above the first. -/
def difference (x y : Datum) : Except Failure Float := do
  match integer? x, integer? y with
  | some i, some j => return (← (Datum.int (j - i)).toReal).toFloat
  | _, _ =>
    if y.toReal matches .error .mistyped then throw .mistyped
    let x ← x.toReal
    return (← y.toReal).toFloat - x.toFloat

/-- The distance of two points in miles. -/
def distanceMiles (lat1 lon1 lat2 lon2 : Datum) : Except Failure Binary64 := do
  let phi1 ← lat1.toReal
  let phi2 ← lat2.toReal
  haversine phi1.toFloat phi2.toFloat (← difference lat1 lat2) (← difference lon1 lon2)

theorem distanceMiles_real (lat1 lon1 lat2 lon2 : Binary64) :
    distanceMiles (.real lat1) (.real lon1) (.real lat2) (.real lon2) =
      haversine lat1.toFloat lat2.toFloat (lat2.toFloat - lat1.toFloat)
        (lon2.toFloat - lon1.toFloat) := rfl

end SchoolCatalog.Geo
