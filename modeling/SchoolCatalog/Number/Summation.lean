import SchoolCatalog.Number.Binary64

/-!
# Means and rounding up

The mean of a list of numbers is their exact sum, rounded once, divided by their count. The sum is
refused where a running sum leaves the range of finite numbers. Running sums are kept as a list of
parts of different sizes that add up to the exact sum; `addPart` says how a part is merged.

Main statement: `addUp_addPart`, merging loses nothing.
-/

namespace SchoolCatalog

/-- Why a list of numbers has no mean. -/
inductive MeanFault where
  | outOfRange
  | opposedInfinities
  deriving DecidableEq

namespace Number

/-- A signed count of units rounded to the nearest representable count. -/
def roundSigned (u : Int) : Int :=
  if u < 0 then -(Binary64.roundUnits u.natAbs 1 : Int) else Binary64.roundUnits u.natAbs 1

/-- The exact sum of counts of units. -/
def addUp : List Int → Int
  | [] => 0
  | part :: parts => part + addUp parts

/-- Merges a count of units into parts: each part in turn is added, the rounded sum goes on and
what the rounding dropped stays behind. `none` where a rounded sum is out of range. -/
def addPart (carried : Int) : List Int → Option (List Int)
  | [] => some (if carried = 0 then [] else [carried])
  | part :: parts =>
    let high := roundSigned (carried + part)
    let low := carried + part - high
    if Binary64.limit ≤ high.natAbs then none
    else if low = 0 then addPart high parts
    else (addPart high parts).map (low :: ·)

theorem addUp_addPart {carried : Int} {parts merged : List Int}
    (h : addPart carried parts = some merged) : addUp merged = carried + addUp parts := by
  induction parts generalizing carried merged with
  | nil =>
    by_cases h0 : carried = 0 <;> simp [addPart, h0] at h <;> subst h <;> simp [addUp, h0]
  | cons part parts ih =>
    simp only [addPart] at h
    split at h
    · simp at h
    · split at h
      · have := ih h
        simp only [addUp]
        omega
      · obtain ⟨rest, hrest, rfl⟩ := Option.map_eq_some_iff.1 h
        have := ih hrest
        simp only [addUp]
        omega

/-- A running sum: the finite parts, the infinities met, and whether a NaN was met. -/
structure RunningSum where
  parts : List Int := []
  sawNaN : Bool := false
  sawPositive : Bool := false
  sawNegative : Bool := false

/-- Adds one number; an infinity or NaN clears the finite parts. -/
def RunningSum.add (s : RunningSum) : Binary64 → Option RunningSum
  | .nan => some { s with parts := [], sawNaN := true }
  | .infinite true => some { s with parts := [], sawNegative := true }
  | .infinite false => some { s with parts := [], sawPositive := true }
  | .finite negative u =>
    (addPart (if negative then -(u : Int) else u) s.parts).map fun parts => { s with parts := parts }

/-- The value of a running sum. -/
def RunningSum.value (s : RunningSum) : Except MeanFault Binary64 :=
  if s.sawPositive && s.sawNegative then .error .opposedInfinities
  else if s.sawNaN then .ok .nan
  else if s.sawPositive then .ok (.infinite false)
  else if s.sawNegative then .ok (.infinite true)
  else .ok (.ofSignedUnits (addUp s.parts))

/-- The running sum of a list of numbers, none where it leaves the range. -/
def runningSum? (xs : List Binary64) : Option RunningSum := xs.foldlM RunningSum.add {}

/-- The exact sum of a list of numbers, rounded once. -/
def sum (xs : List Binary64) : Except MeanFault Binary64 :=
  match runningSum? xs with
  | none => .error .outOfRange
  | some s => s.value

/-- The mean of a list of numbers, if it holds any. -/
def mean (xs : List Binary64) : Except MeanFault (Option Binary64) :=
  if xs.isEmpty then .ok none else (sum xs).map fun total => some (total.divNat xs.length)

end Number

/-- Why a number cannot be rounded up. -/
inductive RoundingFault where
  | infinite
  | notANumber
  deriving DecidableEq

namespace Binary64

/-- A number rounded up to a multiple of ten. -/
def ceilToTen (x : Binary64) : Except RoundingFault Int :=
  match x.divNat 10 with
  | nan => .error .notANumber
  | infinite _ => .error .infinite
  | tenth => .ok ((tenth.ceiling?.getD 0) * 10)

end Binary64

namespace Number

/-- An integer rounded up to a multiple of ten by way of the binary64 number nearest to a tenth
of it. -/
def ceilToTenOfInt (i : Int) : Except RoundingFault Int :=
  match Binary64.ofRatio (i < 0) i.natAbs 10 with
  | .finite negative u => .ok (((Binary64.finite negative u).ceiling?.getD 0) * 10)
  | _ => .error .infinite

end Number
end SchoolCatalog
