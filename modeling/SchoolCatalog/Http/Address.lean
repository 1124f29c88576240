import SchoolCatalog.Bytes.Hex
import SchoolCatalog.Bytes.Latin1

/-!
# Addresses

How the path and the query of an address stand for texts: a percent sign and two hexadecimal digits
are a byte, and the bytes are UTF-8, in which each ill-formed part reads as one replacement
character.
-/

namespace SchoolCatalog.Http

/-! ## Lenient UTF-8 -/

/-- A character that is not complete: how many bytes are wanted, the range of the next one, and the
value so far. -/
structure Pending where
  wanted : Nat
  least : Nat
  most : Nat
  value : Nat

/-- What the first byte of a character begins; none if no character begins so. -/
def Pending.ofLead? (n : Nat) : Option Pending :=
  if 0xC2 ≤ n && n ≤ 0xDF then some ⟨1, 0x80, 0xBF, n - 0xC0⟩
  else if n = 0xE0 then some ⟨2, 0xA0, 0xBF, 0⟩
  else if n = 0xED then some ⟨2, 0x80, 0x9F, 0xD⟩
  else if 0xE1 ≤ n && n ≤ 0xEF then some ⟨2, 0x80, 0xBF, n - 0xE0⟩
  else if n = 0xF0 then some ⟨3, 0x90, 0xBF, 0⟩
  else if 0xF1 ≤ n && n ≤ 0xF3 then some ⟨3, 0x80, 0xBF, n - 0xF0⟩
  else if n = 0xF4 then some ⟨3, 0x80, 0x8F, 4⟩
  else none

def replacement : Char := Char.ofNat 0xFFFD

/-- What a byte gives between characters. -/
def between (n : Nat) : List Char × Option Pending :=
  if n < 0x80 then ([Char.ofNat n], none)
  else match Pending.ofLead? n with
    | some p => ([], some p)
    | none => ([replacement], none)

/-- The characters of a string of bytes, going on from a character that is not complete. -/
def decodeFrom : Option Pending → Bytes → List Char
  | none, [] => []
  | some _, [] => [replacement]
  | none, b :: rest =>
    let (cs, p) := between b.toNat
    cs ++ decodeFrom p rest
  | some p, b :: rest =>
    let n := b.toNat
    if p.least ≤ n && n ≤ p.most then
      let value := p.value * 64 + (n - 0x80)
      if p.wanted ≤ 1 then Char.ofNat value :: decodeFrom none rest
      else decodeFrom (some ⟨p.wanted - 1, 0x80, 0xBF, value⟩) rest
    else
      let (cs, q) := between n
      replacement :: cs ++ decodeFrom q rest

/-- The text of bytes that need not be well-formed. -/
def lossyText (bytes : Bytes) : String := String.ofList (decodeFrom none bytes)

/-! ## Percent signs -/

/-- The bytes that a text with percent signs stands for. -/
def percentBytes : List Char → Bytes
  | [] => []
  | '%' :: a :: b :: rest =>
    match Bytes.Hex.digit? a, Bytes.Hex.digit? b with
    | some high, some low => UInt8.ofNat (16 * high + low) :: percentBytes rest
    | _, _ => Bytes.ofText "%" ++ percentBytes (a :: b :: rest)
  | c :: rest => Bytes.ofText c.toString ++ percentBytes rest

/-- The text that a text with percent signs stands for. -/
def unescape (s : String) : String := lossyText (percentBytes s.toList)

/-- The text of a part of a query, in which a plus sign is a space. -/
def unescapeForm (s : String) : String :=
  unescape (String.ofList (s.toList.map fun c => if c = '+' then ' ' else c))

/-- The pairs of a query, whose bytes each count as a character; parts without an equals sign have an
empty value. -/
def queryPairs (query : String) : List (String × String) :=
  (Text.split '&' (Bytes.toLatin1 (Bytes.ofText query))).filterMap fun part =>
    if part.isEmpty then none
    else match Text.cut '=' part with
      | (name, value) => some (unescapeForm name, unescapeForm (value.getD ""))

/-- Whether a character stands for itself in an address. -/
def isPlain (c : Char) : Bool :=
  c.isAlphanum || "_.-~:/%#?=@[]!$&'()*+,;".toList.contains c

/-- An address in which characters that do not stand for themselves are written as bytes. -/
def escapeAddress (s : String) : String :=
  String.ofList (s.toList.flatMap fun c =>
    if isPlain c then [c]
    else (Bytes.ofText c.toString).flatMap fun b =>
      '%' :: [b.toNat / 16, b.toNat % 16].map fun d => (Bytes.Hex.digit d).toUpper)

end SchoolCatalog.Http
