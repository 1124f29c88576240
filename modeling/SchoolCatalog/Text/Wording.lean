import SchoolCatalog.Bytes.Utf8
import SchoolCatalog.Text.Blank
import SchoolCatalog.Text.Case
import SchoolCatalog.Text.Quoted

/-!
# Texts with halves of pairs

An escape may name one half of a UTF-16 pair without the other. Such a half is no character: a text
that holds one can be kept, trimmed, compared and shown with the half escaped, but it has no UTF-8
form. A wording is a text that may be broken in this way.

Main statement: `encode_proper`, only a broken wording has no bytes.
-/

namespace SchoolCatalog

/-- A text, or code points among which there is a half of a pair. -/
inductive Wording where
  | proper (text : String)
  | broken (points : List Nat)
  deriving DecidableEq, Inhabited

/-- Why a wording has no bytes: its first half of a pair, and the places from there to the last half
that follows without a gap. -/
structure UnpairedHalf where
  half : Nat
  first : Nat
  last : Nat
  deriving DecidableEq

namespace UnpairedHalf

def message (fault : UnpairedHalf) : String :=
  (if fault.first = fault.last then
    "'utf-8' codec can't encode character '\\u" ++ String.ofList (Text.hexPadded 4 fault.half) ++
      "' in position " ++ toString fault.first
  else
    "'utf-8' codec can't encode characters in position " ++ toString fault.first ++ "-" ++
      toString fault.last) ++ ": surrogates not allowed"

/-- The same fault in a text that begins with so many more characters. -/
def after (count : Nat) (fault : UnpairedHalf) : UnpairedHalf :=
  { fault with first := fault.first + count, last := fault.last + count }

end UnpairedHalf

namespace Wording

/-- Whether a code point is a half of a pair. -/
def isHalf (n : Nat) : Bool := 0xD800 ≤ n && n < 0xE000

/-- The character of a code point. -/
def char? (n : Nat) : Option Char := if isHalf n then none else some (Char.ofNat n)

def ofPoints (points : List Nat) : Wording :=
  if points.any isHalf then broken points else proper (String.ofList (points.map Char.ofNat))

/-- The code points of a wording. -/
def points : Wording → List Nat
  | proper s => s.toList.map Char.toNat
  | broken points => points

/-- A wording with a text in front. -/
def prepend (front : String) : Wording → Wording
  | proper s => proper (front ++ s)
  | broken points => broken (front.toList.map Char.toNat ++ points)

/-- The text with another character in the place of each half. -/
def withHalvesAs (mark : Char) : Wording → String
  | proper s => s
  | broken points => String.ofList (points.map fun n => (char? n).getD mark)

/-- The text with replacement characters in the place of halves. -/
def lossy (w : Wording) : String := w.withHalvesAs (Char.ofNat 0xFFFD)

def isEmpty : Wording → Bool
  | proper s => s.isEmpty
  | broken points => points.isEmpty

def isBlankPoint (n : Nat) : Bool := (char? n).any Text.isBlank

/-- Without the blanks at either end. -/
def trim : Wording → Wording
  | proper s => proper (Text.trim s)
  | broken points =>
    broken ((points.dropWhile isBlankPoint).reverse.dropWhile isBlankPoint).reverse

/-- Maps each run of characters between halves; `run` holds the last characters, the latest first. -/
def mapRuns (f : List Char → List Char) (run : List Char) : List Nat → List Nat
  | [] => (f run.reverse).map Char.toNat
  | n :: rest => match char? n with
    | some c => mapRuns f (c :: run) rest
    | none => (f run.reverse).map Char.toNat ++ n :: mapRuns f [] rest

def lower : Wording → Wording
  | proper s => proper (Text.lower s)
  | broken points => broken (mapRuns (Text.lowerList []) [] points)

def upper : Wording → Wording
  | proper s => proper (Text.upper s)
  | broken points => broken (mapRuns (·.flatMap Text.upperChar) [] points)

/-- The halves from the first code point on that does not pass, as far as they follow without a gap. -/
def haltedAt (passes : Nat → Bool) (points : List Nat) : UnpairedHalf :=
  let before := points.takeWhile passes
  let run := (points.drop before.length).takeWhile isHalf
  ⟨run.headD 0, before.length, before.length + run.length - 1⟩

/-- The first run of halves among code points. -/
def unpairedHalf (points : List Nat) : UnpairedHalf := haltedAt (fun n => !isHalf n) points

/-- The text that a wording is, if it is one. -/
def text : Wording → Except UnpairedHalf String
  | proper s => .ok s
  | broken points => .error (unpairedHalf points)

/-- The UTF-8 form of a wording. -/
def encode (w : Wording) : Except UnpairedHalf Bytes := w.text.map Bytes.ofText

/-- A code point as it stands between quotes. -/
def quotePoint (quote : Char) (n : Nat) : List Char :=
  match char? n with
  | some c => Text.quoteChar quote c
  | none => '\\' :: 'u' :: Text.hexPadded 4 n

/-- The wording between quotes. -/
def quoted : Wording → String
  | proper s => Text.quoted s
  | broken points =>
    let quote := if points.contains 0x27 && !points.contains 0x22 then '"' else '\''
    String.ofList (quote :: points.flatMap (quotePoint quote) ++ [quote])

/-! ## Names of files -/

/-- Whether a half stands for a byte beyond ASCII that is no part of a text. -/
def isByteHalf (n : Nat) : Bool := 0xDC80 ≤ n && n < 0xDD00

/-- The bytes of a code point in the name of a file. -/
def fileBytes (n : Nat) : Bytes :=
  match char? n with
  | some c => Bytes.ofText (String.singleton c)
  | none => [UInt8.ofNat (n - 0xDC00)]

/-- The bytes of a wording as the name of a file, in which a half may stand for a byte. -/
def encodeName : Wording → Except UnpairedHalf Bytes
  | proper s => .ok (Bytes.ofText s)
  | broken points =>
    let passes (n : Nat) : Bool := !isHalf n || isByteHalf n
    if points.all passes then .ok (points.flatMap fileBytes) else .error (haltedAt passes points)

theorem encode_proper (s : String) : (proper s).encode = .ok (Bytes.ofText s) := rfl

end Wording
end SchoolCatalog
