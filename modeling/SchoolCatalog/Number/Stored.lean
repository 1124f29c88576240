import SchoolCatalog.Number.Extended
import SchoolCatalog.Number.Notation
import SchoolCatalog.Number.Reading
import SchoolCatalog.Number.Word

/-!
# Numbers in the store

How the store reads a text that looks like a number, and the text that it makes of a number. Both
ways go through wide numbers: reading collects up to nineteen digits and scales them by a power of
ten, writing scales to one digit before the point and takes fifteen digits. An integer of 64 bits is
read exactly.
-/

namespace SchoolCatalog
namespace Number

/-- What a numeric-looking text of a stored cell holds. -/
inductive Stored where
  | whole (value : Int)
  | fraction (value : Binary64)
  deriving DecidableEq

/-! ## Collecting digits -/

/-- The value from which on no further digit is taken in. -/
def fullSignificand : Nat := 922337203685477579

/-- The digits taken in of a text, and the power of ten that they are counted in. -/
structure Significand where
  value : Nat := 0
  exponent : Int := 0
  deriving DecidableEq

/-- Takes in a digit before the point; a digit that is left out raises the exponent. -/
def Significand.takeWhole (s : Significand) (digit : Nat) : Significand :=
  if s.value < fullSignificand then { s with value := s.value * 10 + digit }
  else { s with exponent := s.exponent + 1 }

/-- Takes in a digit after the point; a digit may be left out. -/
def Significand.takePlace (s : Significand) (digit : Nat) : Significand :=
  if s.value < fullSignificand then ⟨s.value * 10 + digit, s.exponent - 1⟩ else s

def digitOf (c : Char) : Nat := c.toNat - 0x30

/-- The significand of digits before and after the point. -/
def significandOf (whole places : List Char) : Significand :=
  (places.map digitOf).foldl Significand.takePlace
    ((whole.map digitOf).foldl Significand.takeWhole {})

/-- Moves powers of ten from a positive exponent into the value, as long as it has room. -/
def growValue : Nat → Nat → Nat × Nat
  | value, 0 => (value, 0)
  | value, e + 1 =>
    if (greatestWord / 10).toNat ≤ value then (value, e + 1) else growValue (value * 10) e

/-- Takes powers of ten out of the value for a negative exponent, as long as they divide it. -/
def shrinkValue : Nat → Nat → Nat × Nat
  | value, 0 => (value, 0)
  | value, e + 1 => if value % 10 = 0 then shrinkValue (value / 10) e else (value, e + 1)

/-! ## Scaling -/

/-- The exponent beyond which numbers are scaled in two steps. -/
def longStep : Nat := 308

/-- The exponent from which on nothing is left but zero or infinity. -/
def endStep : Nat := 342

/-- A binary64 number times or divided by `10 ^ 308`. -/
def scaleLong (negative up : Bool) : Binary64 → Binary64
  | .finite _ units => match (Decimal.mk false 1 longStep).toBinary64 with
    | .finite _ tens =>
      if up then .ofRatio negative (units * tens) (Binary64.one * Binary64.one)
      else .ofRatio negative units tens
    | other => other
  | other => other

/-- A whole number scaled by a power of ten. -/
def scaled (negative : Bool) (value : Nat) (up : Bool) (e : Nat) : Binary64 :=
  let scale (n : Nat) : Binary64 :=
    ((if up then (Wide.ofNat value).mul (Wide.tenPower n)
      else (Wide.ofNat value).div (Wide.tenPower n))).toBinary64 negative
  if e = 0 then .ofRatio negative value 1
  else if e < longStep then scale e
  else if e < endStep then scaleLong negative up (scale (e - longStep))
  else if up then .infinite negative
  else .finite negative 0

/-- The number that a significand stands for. -/
def Significand.toBinary64 (s : Significand) (negative : Bool) : Binary64 :=
  if s.value = 0 then .finite negative 0
  else if 0 ≤ s.exponent then
    let (value, e) := growValue s.value s.exponent.toNat
    scaled negative value true e
  else
    let (value, e) := shrinkValue s.value (-s.exponent).toNat
    scaled negative value false e

/-! ## Reading -/

/-- The greatest exponent that is told from larger ones. -/
def exponentCap : Int := 10000

/-- The number that the store reads in a decimal fraction without a sign, none if the text is none. -/
def readFraction? (negative : Bool) (cs : List Char) : Option Binary64 :=
  let whole := cs.takeWhile Char.isDigit
  let rest := cs.dropWhile Char.isDigit
  let (places, rest) := match rest with
    | '.' :: rest => (rest.takeWhile Char.isDigit, rest.dropWhile Char.isDigit)
    | _ => ([], rest)
  if whole.isEmpty && places.isEmpty then none
  else (scanExponent? rest).map fun e =>
    let s := significandOf whole places
    let e := max (-exponentCap) (min e exponentCap)
    { s with exponent := s.exponent + e : Significand }.toBinary64 negative

/-- The number that a stored text looks like; an integer must be within 64 bits, else it counts as
a fraction. -/
def readStored? (s : String) : Option Stored :=
  let (negative, body) := takeSign (Text.trimList Text.isAsciiSpace s.toList)
  let n : Int := if negative then -(digitsValue body : Int) else digitsValue body
  if !body.isEmpty && body.all Char.isDigit && fitsWord n then some (.whole n)
  else (readFraction? negative body).map .fraction

end Number

/-! ## Writing -/

namespace Wide

/-- Multiplies a scale by a factor as long as a number reaches it, and counts the powers of ten. -/
def raiseScale (x factor : Wide) (step : Int) : Nat → Wide × Int → Wide × Int
  | 0, p => p
  | fuel + 1, (scale, e) =>
    if (factor.mul scale).le x then raiseScale x factor step fuel (factor.mul scale, e + step)
    else (scale, e)

/-- Multiplies a number by a factor as long as it is below a bound, and counts the powers of ten. -/
def raiseTo (bound factor : Wide) (step : Int) : Nat → Wide × Int → Wide × Int
  | 0, p => p
  | fuel + 1, (x, e) =>
    if bound.le x then (x, e) else raiseTo bound factor step fuel (x.mul factor, e - step)

/-- A positive number scaled to one digit before the point, and its power of ten. -/
def toOneDigit (x : Wide) : Wide × Int :=
  let (scale, e) := raiseScale x (ofNat 10) 1 10
    (raiseScale x (ofNat 10000000000) 10 10
      (raiseScale x (ofDecimal 1 100) 100 4 (ofNat 1, 0)))
  raiseTo (ofNat 1) (ofNat 10) 1 10
    (raiseTo (ofDecimal 1 (-8)) (ofNat 100000000) 8 50 (x.div scale, e))

/-- What is added to round at the fifteenth digit: nearly half a unit of it. -/
def halfUnit : Wide :=
  match ((ofDecimal 5 (-5)).mul (ofDecimal 1 (-10))).toBinary64 false with
  | .finite _ units => ofUnits units
  | _ => ⟨0, 0⟩

/-- The next digits of a number with one digit before the point, as a whole number. -/
def takeDigits : Nat → Wide → Nat → Nat
  | 0, _, read => read
  | count + 1, x, read =>
    takeDigits count ((x.sub (ofNat x.floor)).mul (ofNat 10)) (read * 10 + x.floor)

/-- Fifteen digits of a positive number, and the power of ten of the first. -/
def fifteenDigits (x : Wide) : Nat × Int :=
  let (y, e) := toOneDigit x
  let y := y.add halfUnit
  let (y, e) := if (ofNat 10).le y then (y.mul (ofDecimal 1 (-1)), e + 1) else (y, e)
  (takeDigits 15 y 0, e)

end Wide

namespace Binary64

/-- The text of a number in the store; a zero has no sign. -/
def storedText : Binary64 → String
  | nan => ""
  | infinite s => if s then "-Inf" else "Inf"
  | finite _ 0 => "0.0"
  | finite s u =>
    let (digits, e) := (Wide.ofUnits u).fifteenDigits
    (Decimal.mk s digits (e - 14)).write .stored

end Binary64
end SchoolCatalog
