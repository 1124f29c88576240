import SchoolCatalog.Bytes.Wide
import SchoolCatalog.Text.Wording

/-!
# Encodings of JSON

A JSON text begins with two ASCII characters, so that the zeros among its first four bytes tell how
it is encoded. There are two rules: a strict one, by which only a clear pattern of zeros counts, and
a lenient one, by which each pattern stands for an encoding.
-/

namespace SchoolCatalog.Json

/-- How a text stands in bytes. -/
inductive Encoding where
  | utf8
  | markedUtf8
  | utf16 (bigEndian : Bool)
  | utf32 (bigEndian : Bool)
  deriving DecidableEq

/-- The byte order mark of UTF-8. -/
def utf8Mark : Bytes := [0xEF, 0xBB, 0xBF]

namespace Encoding

/-- What bytes stand for, perhaps with halves of pairs in it; a mark in front is no part of it. -/
def decode? (encoding : Encoding) (bytes : Bytes) : Option Wording :=
  match encoding with
  | utf8 => (Bytes.toText? bytes).map .proper
  | markedUtf8 => (Bytes.toText? (bytes.drop utf8Mark.length)).map .proper
  | utf16 bigEndian => (Bytes.points16? bigEndian bytes).map .ofPoints
  | utf32 bigEndian => (Bytes.points32? bigEndian bytes).map .ofPoints

/-- The text that bytes stand for, if no half of a pair is in it. -/
def decodeText? (encoding : Encoding) (bytes : Bytes) : Option String :=
  (encoding.decode? bytes).bind fun w => w.text.toOption

/-- The encoding by the lenient rule. -/
def lenient (bytes : Bytes) : Encoding :=
  if utf8Mark.isPrefixOf bytes then markedUtf8
  else match bytes with
    | [a, b] => if a = 0 then utf16 true else if b = 0 then utf16 false else utf8
    | a :: b :: c :: d :: _ =>
      if a = 0 then (if b = 0 then utf32 true else utf16 true)
      else if b = 0 then (if c = 0 && d = 0 then utf32 false else utf16 false)
      else utf8
    | _ => utf8

/-- The encoding by the strict rule; none if the zeros follow no pattern. -/
def strict? (bytes : Bytes) : Option Encoding :=
  if utf8Mark.isPrefixOf bytes then some markedUtf8
  else match (bytes.take 4).map (· == 0) with
    | [true, false, true, false] => some (utf16 true)
    | [false, true, false, true] => some (utf16 false)
    | [true, true, true, false] => some (utf32 true)
    | [false, true, true, true] => some (utf32 false)
    | zeros => if zeros.contains true then none else some utf8

end Encoding
end SchoolCatalog.Json
