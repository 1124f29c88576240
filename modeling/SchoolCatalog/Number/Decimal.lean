import SchoolCatalog.Number.Binary64

/-!
# Decimal fractions

A decimal fraction is a sign, a whole number of digits and a power of ten. This module rounds one
to a binary64 number, reads one from digits, and gives the digits of a binary64 number: the fewest
that read back (`shortest`), a given number of significant ones (`significant`) or a given number
of places (`fixed`).
-/

namespace SchoolCatalog

/-- The value `± digits * 10 ^ exponent`. -/
structure Decimal where
  negative : Bool
  digits : Nat
  exponent : Int
  deriving DecidableEq, Inhabited

namespace Decimal

/-- The binary64 number nearest to a decimal fraction. Exponents that are out of reach are answered
without computing the power. -/
def toBinary64 (d : Decimal) : Binary64 :=
  if d.digits = 0 then .finite d.negative 0
  else if 400 < d.exponent then .infinite d.negative
  else if (d.digits.log2 : Int) + 3 * d.exponent < -1100 then .finite d.negative 0
  else if 0 ≤ d.exponent then .ofRatio d.negative (d.digits * Nat.pow 10 d.exponent.toNat) 1
  else .ofRatio d.negative d.digits (Nat.pow 10 (-d.exponent).toNat)

/-- The value of a run of decimal digits. -/
def ofDigits (ds : List Nat) : Nat := ds.foldl (fun n d => n * 10 + d) 0

/-- The decimal digits of a number, the most significant first. -/
def digitsOf (n : Nat) : List Char := Nat.toDigits 10 n

end Decimal

namespace Binary64

/-- `10 ^ e` as a quotient. -/
def tenPower (e : Int) : Nat × Nat :=
  if 0 ≤ e then (Nat.pow 10 e.toNat, 1) else (1, Nat.pow 10 (-e).toNat)

/-- Whether `10 ^ e` is at most the given positive count of units. -/
def reaches (units : Nat) (e : Int) : Bool :=
  (tenPower e).1 * one ≤ units * (tenPower e).2

/-- The decimal exponent of a positive count of units: the power of ten of its first digit. -/
def decimalExponent (units : Nat) : Int :=
  let guess := ((units.log2 : Int) - 1074) * 30103 / 100000
  if reaches units (guess + 1) then guess + 1 else if reaches units guess then guess else guess - 1

/-- The quotient and remainder of a count of units by `10 ^ e`, with the divisor. -/
def gridAt (units : Nat) (e : Int) : Nat × Nat × Nat :=
  let num := units * (tenPower e).2
  let den := one * (tenPower e).1
  (num / den, num % den, den)

/-- The decimal fraction of `n` significant digits that is nearest, a half going to the even
digit. -/
def significant (n : Nat) (negative : Bool) (units : Nat) : Decimal :=
  let e := decimalExponent units + 1 - n
  let num := units * (tenPower e).2
  let den := one * (tenPower e).1
  ⟨negative, nearest num den, e⟩

/-- A decimal fraction of `n` significant digits that reads back as the number, the nearest of the
two candidates. -/
def withDigits? (n : Nat) (negative : Bool) (units : Nat) : Option Decimal :=
  let e := decimalExponent units + 1 - n
  let (q, r, den) := gridAt units e
  let below : Decimal := ⟨negative, q, e⟩
  let above : Decimal := ⟨negative, q + 1, e⟩
  let fits (d : Decimal) : Bool := d.toBinary64 = finite negative units
  match fits below, fits above with
  | true, true => some (if 2 * r < den || (2 * r = den && q % 2 = 0) then below else above)
  | true, false => some below
  | false, true => some above
  | false, false => none

/-- The decimal fraction with the fewest digits that reads back as the number; seventeen always
suffice. -/
def shortest (negative : Bool) (units : Nat) : Decimal :=
  match (List.range 17).findSome? fun n => withDigits? (n + 1) negative units with
  | some d => d
  | none => significant 17 negative units

/-- The number rounded to `places` decimal places, a half going to the even digit. -/
def fixed (places : Nat) (negative : Bool) (units : Nat) : Decimal :=
  ⟨negative, nearest (units * Nat.pow 10 places) one, -(places : Int)⟩

end Binary64
end SchoolCatalog
