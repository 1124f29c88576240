import SchoolCatalog.Bytes.Utf8
import SchoolCatalog.Text.Blank

/-!
# Hexadecimal text

Two digits a byte. Writing uses lower case; reading takes either case, and blanks of ASCII between
bytes. Main statement: `digit?_digit`, a digit that is written reads back.
-/

namespace SchoolCatalog.Bytes.Hex

/-- The digit of a value below sixteen. -/
def digit (n : Nat) : Char := if n < 10 then Char.ofNat (0x30 + n) else Char.ofNat (0x57 + n)

/-- The value of a digit. -/
def digit? (c : Char) : Option Nat :=
  let n := c.toNat
  if 0x30 ≤ n && n ≤ 0x39 then some (n - 0x30)
  else if 0x61 ≤ n && n ≤ 0x66 then some (n - 0x57)
  else if 0x41 ≤ n && n ≤ 0x46 then some (n - 0x37)
  else none

/-- Two digits for each byte. -/
def encodeChars : Bytes → List Char
  | [] => []
  | b :: bs => digit (b.toNat / 16) :: digit (b.toNat % 16) :: encodeChars bs

def encode (bytes : Bytes) : String := String.ofList (encodeChars bytes)

/-- Reads pairs of digits; blanks may stand between pairs but not within one. -/
def decodeChars? : List Char → Option Bytes
  | [] => some []
  | [c] => if Text.isAsciiSpace c then some [] else none
  | c :: d :: rest =>
    if Text.isAsciiSpace c then decodeChars? (d :: rest)
    else match digit? c, digit? d with
      | some high, some low => (decodeChars? rest).map (UInt8.ofNat (16 * high + low) :: ·)
      | _, _ => none

def decode? (s : String) : Option Bytes := decodeChars? s.toList

theorem digit?_digit : ∀ n < 16, digit? (digit n) = some n := by decide

end SchoolCatalog.Bytes.Hex
