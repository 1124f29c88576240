/-!
# Binary64 numbers

A finite binary64 number is a signed count of units, where a unit is `2 ^ (-1074)`, the least
positive value of the format. Sums are then sums of integers, order is the order of integers,
and every operation is exact arithmetic followed by one rounding (`roundUnits`).

Main statement: `roundUnits_of_small`, a count of units below `2 ^ 53` is kept as it is.
-/

namespace SchoolCatalog

/-- A binary64 number: not a number, an infinity, or a sign and a count of units. -/
inductive Binary64 where
  | nan
  | infinite (negative : Bool)
  | finite (negative : Bool) (units : Nat)
  deriving DecidableEq, Inhabited

namespace Binary64

/-- How many units make one. -/
def one : Nat := Nat.pow 2 1074

/-- The count of units that is too large for a finite number. -/
def limit : Nat := Nat.pow 2 2098

/-- The integer nearest to `num / den`, a half going to the even neighbour. -/
def nearest (num den : Nat) : Nat :=
  let q := num / den
  let r := num % den
  if 2 * r < den then q
  else if den < 2 * r then q + 1
  else if q % 2 = 0 then q else q + 1

/-- The distance between neighbours around a count of units: 53 binary digits are kept. -/
def spacing (units : Nat) : Nat := Nat.pow 2 (units.log2 - 52)

/-- The count of units nearest to `num / den` among those with 53 significant binary digits. -/
def roundUnits (num den : Nat) : Nat :=
  let step := spacing (num / den)
  nearest num (den * step) * step

/-- A signed count of units, infinite from `limit` on. -/
def ofUnits (negative : Bool) (units : Nat) : Binary64 :=
  if units < limit then finite negative units else infinite negative

/-- The number nearest to the quotient `num / den`. -/
def ofRatio (negative : Bool) (num den : Nat) : Binary64 :=
  ofUnits negative (roundUnits (num * one) den)

def zero : Binary64 := finite false 0

/-- The number nearest to an integer, infinite where the format has no such number. -/
def ofInt (i : Int) : Binary64 := ofRatio (i < 0) i.natAbs 1

def isNaN : Binary64 → Bool
  | nan => true
  | _ => false

def isFinite : Binary64 → Bool
  | finite .. => true
  | _ => false

/-- The integer nearest to an integer, unless it is out of range. -/
def ofInt? (i : Int) : Option Binary64 :=
  if (ofInt i).isFinite then some (ofInt i) else none

/-- The signed count of units of a finite number. -/
def signedUnits? : Binary64 → Option Int
  | finite s u => some (if s then -(u : Int) else u)
  | _ => none

/-- The number with the given signed count of units, rounded; an exact zero is positive. -/
def ofSignedUnits (u : Int) : Binary64 := ofUnits (u < 0) (roundUnits u.natAbs 1)

def isNegative : Binary64 → Bool
  | infinite s => s
  | finite s u => s && u != 0
  | nan => false

def isZero : Binary64 → Bool
  | finite _ 0 => true
  | _ => false

/-- Division by a positive count. -/
def divNat (x : Binary64) (n : Nat) : Binary64 :=
  match x with
  | finite s u => ofUnits s (roundUnits u n)
  | other => other

/-- The order of numbers; nothing compares with a NaN. -/
def compare? : Binary64 → Binary64 → Option Ordering
  | nan, _ => none
  | _, nan => none
  | infinite s, infinite t => some (if s = t then .eq else if s then .lt else .gt)
  | infinite s, finite .. => some (if s then .lt else .gt)
  | finite .., infinite t => some (if t then .gt else .lt)
  | finite s u, finite t v =>
    some (compare (if s then -(u : Int) else u) (if t then -(v : Int) else v))

/-- The order of a number and an integer, exact. -/
def compareInt? (x : Binary64) (i : Int) : Option Ordering :=
  match x with
  | nan => none
  | infinite s => some (if s then .lt else .gt)
  | finite s u => some (compare (if s then -(u : Int) else u) (i * (one : Int)))

/-- The integer that a number is, if it is one. -/
def toInt? : Binary64 → Option Int
  | finite s u =>
    if u % one = 0 then some (if s then -((u / one : Nat) : Int) else (u / one : Nat)) else none
  | _ => none

/-- The integer part: fractions are dropped toward zero. -/
def truncate? : Binary64 → Option Int
  | finite s u => some (if s then -((u / one : Nat) : Int) else (u / one : Nat))
  | _ => none

/-- The least integer that is not below the number. -/
def ceiling? : Binary64 → Option Int
  | finite s u =>
    some (if s then -((u / one : Nat) : Int) else ((u + (one - 1)) / one : Nat))
  | _ => none

/-- How many fractions the interchange format has for each exponent. -/
def fractionCount : Nat := Nat.pow 2 52

/-- The weight of the sign bit in the interchange format. -/
def signWeight : Nat := Nat.pow 2 63

/-- Bits of the interchange format. -/
def toBits : Binary64 → UInt64
  | nan => 0x7FF8000000000000
  | infinite s => if s then 0xFFF0000000000000 else 0x7FF0000000000000
  | finite s u =>
    let sign : Nat := if s then signWeight else 0
    let shift := u.log2 - 52
    let body :=
      if u < fractionCount then u
      else (shift + 1) * fractionCount + (u / Nat.pow 2 shift - fractionCount)
    UInt64.ofNat (sign + body)

/-- The number that bits of the interchange format stand for. -/
def ofBits (bits : UInt64) : Binary64 :=
  let n := bits.toNat
  let s := decide (signWeight ≤ n)
  let exponent := n / fractionCount % 2048
  let fraction := n % fractionCount
  if exponent = 2047 then (if fraction = 0 then infinite s else nan)
  else if exponent = 0 then finite s fraction
  else finite s ((fractionCount + fraction) * Nat.pow 2 (exponent - 1))

/-- The machine's own number. -/
def toFloat (x : Binary64) : Float := Float.ofBits x.toBits

/-- The number that the machine holds. -/
def ofFloat (x : Float) : Binary64 := ofBits x.toBits

theorem nearest_one (n : Nat) : nearest n 1 = n := by
  simp [nearest, Nat.mod_one]

/-- A count of units below `2 ^ 53` needs no rounding. -/
theorem roundUnits_of_small {u : Nat} (h : u < Nat.pow 2 53) : roundUnits u 1 = u := by
  have hs : spacing u = 1 := by
    unfold spacing
    by_cases h0 : u = 0
    · subst h0
      decide
    · have : u.log2 < 53 := (Nat.log2_lt h0).2 h
      simp [show u.log2 - 52 = 0 by omega]
  simp [roundUnits, hs, nearest_one]

end Binary64
end SchoolCatalog
