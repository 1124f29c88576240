import SchoolCatalog.Number.Decimal

/-!
# How numbers are written

One record says how a format writes a finite number: where positional notation ends. The catalog
writes numbers in two formats: `plain`, in which the fewest digits that read back are written, and
`stored`, in which the store writes fifteen digits.
-/

namespace SchoolCatalog

/-- The exponents that are written positionally, and whether a whole mantissa keeps its `.0` before
an exponent. -/
structure NumberFormat where
  leastExponent : Int
  endExponent : Int
  wholeMantissaPoint : Bool

namespace NumberFormat

/-- Numbers from `0.0001` up to but not including `10 ^ 16` are positional. -/
def plain : NumberFormat := ⟨-4, 16, false⟩

/-- Numbers from `0.0001` up to but not including `10 ^ 15` are positional. -/
def stored : NumberFormat := ⟨-4, 15, true⟩

end NumberFormat

namespace Decimal

/-- The digits without the zeros at their end, and the exponent that then stands. -/
def trimZeros (digits : List Char) : List Char :=
  (digits.reverse.dropWhile (· == '0')).reverse

/-- An exponent: a sign and at least two digits. -/
def exponentText (e : Int) : String :=
  let digits := digitsOf e.natAbs
  let padded := if digits.length < 2 then '0' :: digits else digits
  (if e < 0 then "e-" else "e+") ++ String.ofList padded

/-- A decimal fraction in a format. -/
def write (format : NumberFormat) (d : Decimal) : String :=
  let sign := if d.negative then "-" else ""
  if d.digits = 0 then sign ++ "0.0"
  else
    let all := digitsOf d.digits
    let digits := trimZeros all
    let exponent : Int := d.exponent + all.length - 1
    if format.leastExponent ≤ exponent && exponent < format.endExponent then
      if exponent < 0 then
        sign ++ "0." ++ String.ofList (List.replicate ((-exponent).toNat - 1) '0' ++ digits)
      else
        let whole := exponent.toNat + 1
        let before := digits.take whole
        let after := digits.drop whole
        let before := before ++ List.replicate (whole - before.length) '0'
        sign ++ String.ofList before ++ "." ++ (if after.isEmpty then "0" else String.ofList after)
    else
      let mantissa := match digits with
        | [] => "0"
        | [d] => if format.wholeMantissaPoint then String.ofList [d, '.', '0'] else String.ofList [d]
        | d :: rest => String.ofList (d :: '.' :: rest)
      sign ++ mantissa ++ exponentText exponent

end Decimal

namespace Binary64

/-- The fewest digits that read back. -/
def text : Binary64 → String
  | nan => "nan"
  | infinite s => if s then "-inf" else "inf"
  | finite s 0 => if s then "-0.0" else "0.0"
  | finite s u => (shortest s u).write .plain

/-- A fixed number of places. -/
def fixedText (places : Nat) : Binary64 → String
  | nan => "nan"
  | infinite s => if s then "-inf" else "inf"
  | finite s u =>
    let n := (fixed places s u).digits
    let digits := Decimal.digitsOf n
    let digits := List.replicate (places + 1 - digits.length) '0' ++ digits
    let whole := digits.length - places
    (if s then "-" else "") ++ String.ofList (digits.take whole) ++
      (if places = 0 then "" else "." ++ String.ofList (digits.drop whole))

end Binary64
end SchoolCatalog
