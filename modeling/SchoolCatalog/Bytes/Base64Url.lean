import SchoolCatalog.Bytes.Utf8

/-!
# Base64 text for addresses

Six bits a character, with `-` and `_` as the last two of the alphabet and no padding. Reading is
lenient: it takes `+` and `/` as well, skips characters outside the alphabet, and ignores bits that
are left over; a padding mark ends the reading where it completes a group of four.
-/

namespace SchoolCatalog.Bytes.Base64Url

/-- Why a text cannot be read. -/
inductive Fault where
  | notAscii
  | incomplete
  deriving DecidableEq

/-- The character of a value below 64. -/
def symbol (n : Nat) : Char :=
  if n < 26 then Char.ofNat (0x41 + n)
  else if n < 52 then Char.ofNat (0x61 + (n - 26))
  else if n < 62 then Char.ofNat (0x30 + (n - 52))
  else if n = 62 then '-'
  else '_'

/-- The value of a character of the alphabet. -/
def value? (c : Char) : Option Nat :=
  let n := c.toNat
  if 0x41 ≤ n && n ≤ 0x5A then some (n - 0x41)
  else if 0x61 ≤ n && n ≤ 0x7A then some (n - 0x61 + 26)
  else if 0x30 ≤ n && n ≤ 0x39 then some (n - 0x30 + 52)
  else if c = '-' || c = '+' then some 62
  else if c = '_' || c = '/' then some 63
  else none

/-- Three bytes give four characters; one or two bytes at the end give two or three. -/
def encodeChars : Bytes → List Char
  | [] => []
  | [a] => [symbol (a.toNat / 4), symbol (a.toNat % 4 * 16)]
  | [a, b] =>
    [symbol (a.toNat / 4), symbol (a.toNat % 4 * 16 + b.toNat / 16), symbol (b.toNat % 16 * 4)]
  | a :: b :: c :: rest =>
    symbol (a.toNat / 4) :: symbol (a.toNat % 4 * 16 + b.toNat / 16) ::
      symbol (b.toNat % 16 * 4 + c.toNat / 64) :: symbol (c.toNat % 64) :: encodeChars rest

def encode (bytes : Bytes) : String := String.ofList (encodeChars bytes)

/-- Reads on from a place within a group: how many characters of the group were read, the bits
left of them, and how many padding marks followed the last of them. -/
def decodeFrom (position left pads : Nat) : List Char → Except Fault Bytes
  | [] => if position = 0 then .ok [] else .error .incomplete
  | c :: rest =>
    if c = '=' then
      if 2 ≤ position then
        if 4 ≤ position + (pads + 1) then .ok [] else decodeFrom position left (pads + 1) rest
      else decodeFrom position left pads rest
    else match value? c with
      | none => decodeFrom position left pads rest
      | some v =>
        if position = 0 then decodeFrom 1 v 0 rest
        else if position = 1 then
          (decodeFrom 2 (v % 16) 0 rest).map (UInt8.ofNat (left * 4 + v / 16) :: ·)
        else if position = 2 then
          (decodeFrom 3 (v % 4) 0 rest).map (UInt8.ofNat (left * 16 + v / 4) :: ·)
        else (decodeFrom 0 0 0 rest).map (UInt8.ofNat (left * 64 + v) :: ·)

/-- Reads a text after adding the padding that its length calls for. -/
def decodeChars (cs : List Char) : Except Fault Bytes :=
  if cs.all fun c => c.toNat < 0x80 then
    decodeFrom 0 0 0 (cs ++ List.replicate ((4 - cs.length % 4) % 4) '=')
  else .error .notAscii

def decode (s : String) : Except Fault Bytes := decodeChars s.toList

end SchoolCatalog.Bytes.Base64Url
