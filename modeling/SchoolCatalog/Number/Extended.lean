import SchoolCatalog.Number.Decimal

/-!
# Numbers of 64 binary digits

A wide number is a whole number of at most 64 significant binary digits and a power of two. The
store computes with them on the way between texts and binary64 numbers: each operation is exact
arithmetic followed by one rounding to 64 digits, a half going to the even neighbour.

Main statement: `round_of_small`, what has 64 digits is kept as it is.
-/

namespace SchoolCatalog

/-- The value `significand * 2 ^ exponent`. -/
structure Wide where
  significand : Nat
  exponent : Int
  deriving DecidableEq, Inhabited

namespace Wide

/-- The quotient of two whole numbers, times a power of two, rounded to 64 digits. -/
def ofRatio (num den : Nat) (exponent : Int) : Wide :=
  let lift := 66 + den.log2
  let raised := num * Nat.pow 2 lift
  let drop := (raised / den).log2 - 63
  ⟨Binary64.nearest raised (den * Nat.pow 2 drop), exponent - lift + drop⟩

/-- A whole number times a power of two, rounded to 64 digits. -/
def round (n : Nat) (exponent : Int) : Wide :=
  let drop := n.log2 - 63
  ⟨Binary64.nearest n (Nat.pow 2 drop), exponent + drop⟩

def ofNat (n : Nat) : Wide := round n 0

/-- The size of a finite binary64 number, which is kept exactly. -/
def ofUnits (units : Nat) : Wide := round units (-1074)

/-- The binary64 number nearest to a decimal fraction, as a wide number. -/
def ofDecimal (digits : Nat) (exponent : Int) : Wide :=
  match (Decimal.mk false digits exponent).toBinary64 with
  | .finite _ units => ofUnits units
  | _ => ⟨0, 0⟩

def mul (x y : Wide) : Wide := round (x.significand * y.significand) (x.exponent + y.exponent)

def div (x y : Wide) : Wide :=
  ofRatio x.significand y.significand (x.exponent - y.exponent)

/-- The significand over a smaller exponent. -/
def above (x : Wide) (exponent : Int) : Nat :=
  x.significand * Nat.pow 2 (x.exponent - exponent).toNat

def add (x y : Wide) : Wide :=
  let e := min x.exponent y.exponent
  round (x.above e + y.above e) e

/-- The difference, zero where the second number is the larger one. -/
def sub (x y : Wide) : Wide :=
  let e := min x.exponent y.exponent
  round (x.above e - y.above e) e

/-- Whether the first number is at most the second. -/
def le (x y : Wide) : Bool :=
  let e := min x.exponent y.exponent
  x.above e ≤ y.above e

/-- The whole part. -/
def floor (x : Wide) : Nat :=
  if 0 ≤ x.exponent then x.above 0 else x.significand / Nat.pow 2 (-x.exponent).toNat

/-- The number as a quotient of whole numbers. -/
def toRatio (x : Wide) : Nat × Nat :=
  if 0 ≤ x.exponent then (x.above 0, 1) else (x.significand, Nat.pow 2 (-x.exponent).toNat)

/-- The nearest binary64 number, with a sign. -/
def toBinary64 (negative : Bool) (x : Wide) : Binary64 :=
  .ofRatio negative x.toRatio.1 x.toRatio.2

/-- The power of a number with an exponent that has at most as many binary digits as the fuel, by
squaring; each product is rounded. -/
def powFrom : Nat → Wide → Wide → Nat → Wide
  | 0, product, _, _ => product
  | fuel + 1, product, square, n =>
    let product := if n % 2 = 1 then product.mul square else product
    if n / 2 = 0 then product else powFrom fuel product (square.mul square) (n / 2)

/-- `10 ^ n` as it is computed by squaring. -/
def tenPower (n : Nat) : Wide := powFrom (n + 1) (ofNat 1) (ofNat 10) n

theorem round_of_small {n : Nat} {exponent : Int} (h : n < Nat.pow 2 64) :
    round n exponent = ⟨n, exponent⟩ := by
  have h0 : n.log2 - 63 = 0 := by
    by_cases hn : n = 0
    · subst hn
      decide
    · have : n.log2 < 64 := (Nat.log2_lt hn).2 h
      omega
  simp [round, h0, Binary64.nearest_one]

end Wide
end SchoolCatalog
