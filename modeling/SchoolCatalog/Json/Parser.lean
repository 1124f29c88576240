import SchoolCatalog.Datum.Basic
import SchoolCatalog.Bytes.Hex
import SchoolCatalog.Bytes.Wide
import SchoolCatalog.Number.Reading

/-!
# Reading JSON

A recursive-descent reader over characters that knows its place in the text, so that a fault names
the offset where reading stopped. Beyond the standard it reads `NaN`, `Infinity` and `-Infinity`, and
texts with halves of pairs, which may be escaped or stand there as they are. Of entries with the same
name the last one counts. Lists and records may stand within each other up to a fixed depth.
-/

namespace SchoolCatalog.Json

/-- Why a text is not read. -/
inductive Fault where
  | malformed (offset : Nat)
  | integerTooLong (digits : Nat)
  | tooDeep
  deriving DecidableEq

/-- A place in the text: the offset and the characters from there on. A half of a pair shows as a
replacement character; `halves` has the offset and the number of each. -/
structure Place where
  offset : Nat
  rest : List Char
  halves : List (Nat × Nat) := []

abbrev Step (α : Type) := Except Fault (α × Place)

namespace Place

/-- The place after the first `n` characters. -/
def advance (p : Place) (n : Nat) : Place := { p with offset := p.offset + n, rest := p.rest.drop n }

/-- The code point that stands here and shows as `c`. -/
def pointOf (p : Place) (c : Char) : Nat := (p.halves.lookup p.offset).getD c.toNat

def isJsonSpace (c : Char) : Bool := c = ' ' || c = '\t' || c = '\n' || c = '\r'

/-- The place after the white space. -/
def skipSpace (p : Place) : Place := p.advance (p.rest.takeWhile isJsonSpace).length

/-- The place after a word, if the word stands here. -/
def word? (p : Place) (w : String) : Option Place :=
  if w.toList.isPrefixOf p.rest then some (p.advance w.length) else none

end Place

/-- The value of four hexadecimal digits. -/
def hexUnit? : List Char → Option Nat
  | [a, b, c, d] => match Bytes.Hex.digit? a, Bytes.Hex.digit? b, Bytes.Hex.digit? c,
      Bytes.Hex.digit? d with
    | some a, some b, some c, some d => some (((a * 16 + b) * 16 + c) * 16 + d)
    | _, _, _, _ => none
  | _ => none

def simpleEscape? (c : Char) : Option Char :=
  if c = '"' || c = '\\' || c = '/' then some c
  else if c = 'b' then some (Char.ofNat 8)
  else if c = 'f' then some (Char.ofNat 12)
  else if c = 'n' then some '\n'
  else if c = 'r' then some '\r'
  else if c = 't' then some '\t'
  else none

/-- The low half of a pair of UTF-16 units, if its escape stands here. -/
def lowHalf? (cs : List Char) : Option Nat :=
  match cs with
  | '\\' :: 'u' :: rest =>
    if rest.length < 5 then none
    else (hexUnit? (rest.take 4)).filter Bytes.isLowHalf
  | _ => none

/-- The code points of a text up to its closing quote, collected in reverse. `start` is the offset of
the opening quote. -/
def readText (start : Nat) : Nat → List Nat → Place → Step Wording
  | 0, _, _ => .error (.malformed start)
  | fuel + 1, read, p =>
    match p.rest with
    | [] => .error (.malformed start)
    | c :: rest =>
      if c = '"' then .ok (.ofPoints read.reverse, p.advance 1)
      else if c = '\\' then
        match rest with
        | [] => .error (.malformed start)
        | e :: rest =>
          if e = 'u' then
            if rest.length < 5 then .error (.malformed (p.offset + 1))
            else match hexUnit? (rest.take 4) with
              | none => .error (.malformed (p.offset + 1))
              | some n =>
                let low := if Bytes.isHighHalf n then lowHalf? (rest.drop 4) else none
                match low with
                | some m => readText start fuel (Bytes.joined n m :: read) (p.advance 12)
                | none => readText start fuel (n :: read) (p.advance 6)
          else match simpleEscape? e with
            | some c => readText start fuel (c.toNat :: read) (p.advance 2)
            | none => .error (.malformed p.offset)
      else if c.toNat < 0x20 then .error (.malformed p.offset)
      else readText start fuel (p.pointOf c :: read) (p.advance 1)

/-- The text that stands at a place, after its opening quote. -/
def readString (p : Place) : Step Wording :=
  readText p.offset (p.rest.length + 1) [] (p.advance 1)

/-- How many characters a fraction part takes: a point and at least one digit, or nothing. -/
def fractionLength : List Char → Nat
  | '.' :: cs =>
    let n := (cs.takeWhile Char.isDigit).length
    if n = 0 then 0 else n + 1
  | _ => 0

/-- How many characters an exponent takes: the mark, a sign and at least one digit, or nothing. -/
def exponentLength : List Char → Nat
  | c :: cs =>
    if c = 'e' || c = 'E' then
      let sign := match cs with
        | '-' :: _ => 1
        | '+' :: _ => 1
        | _ => 0
      let n := ((cs.drop sign).takeWhile Char.isDigit).length
      if n = 0 then 0 else 1 + sign + n
    else 0
  | [] => 0

/-- How many digits the whole part of a number takes; a leading zero stands alone. -/
def wholeLength (cs : List Char) : Nat :=
  match cs with
  | '0' :: _ => 1
  | _ => (cs.takeWhile Char.isDigit).length

/-- The number that stands at a place. -/
def readNumber (p : Place) : Step Datum :=
  let (negative, body) := Number.takeMinus p.rest
  let whole := wholeLength body
  if whole = 0 then .error (.malformed p.offset)
  else
    let fraction := fractionLength (body.drop whole)
    let exponent := exponentLength (body.drop (whole + fraction))
    let size := whole + fraction + exponent
    let after := p.advance (size + if negative then 1 else 0)
    if fraction + exponent = 0 then
      if Number.maxDigits < whole then .error (.integerTooLong whole)
      else
        let n := Number.digitsValue (body.take whole)
        .ok (.int (if negative then -(n : Int) else n), after)
    else match Number.scanDecimal? (body.take size) with
      | some d => .ok (.real { d with negative := negative }.toBinary64, after)
      | none => .error (.malformed p.offset)

mutual

/-- The value that stands at a place; `depth` says how many lists and records may still begin one
within the other. -/
def readValue (depth : Nat) : Nat → Place → Step Datum
  | 0, p => .error (.malformed p.offset)
  | fuel + 1, p =>
    match p.rest with
    | [] => .error (.malformed p.offset)
    | c :: _ =>
      if c = '"' then (readString p).map fun (s, q) => (.ofWording s, q)
      else if c = '\x7b' then
        if depth = 0 then .error .tooDeep
        else
          let q := (p.advance 1).skipSpace
          if q.rest.head? = some '\x7d' then .ok (.dict [], q.advance 1)
          else (readEntries (depth - 1) fuel q).map fun (entries, q) =>
            (.dict (Record.ofPairs entries), q)
      else if c = '[' then
        if depth = 0 then .error .tooDeep
        else
          let q := (p.advance 1).skipSpace
          if q.rest.head? = some ']' then .ok (.list [], q.advance 1)
          else (readItems (depth - 1) fuel q).map fun (items, q) => (.list items, q)
      else match p.word? "null", p.word? "true", p.word? "false" with
        | some q, _, _ => .ok (.null, q)
        | _, some q, _ => .ok (.bool true, q)
        | _, _, some q => .ok (.bool false, q)
        | none, none, none => match p.word? "NaN", p.word? "Infinity", p.word? "-Infinity" with
          | some q, _, _ => .ok (.real .nan, q)
          | _, some q, _ => .ok (.real (.infinite false), q)
          | _, _, some q => .ok (.real (.infinite true), q)
          | none, none, none => readNumber p

/-- The items of a list, the last one before the closing bracket. -/
def readItems (depth : Nat) : Nat → Place → Except Fault (List Datum × Place)
  | 0, p => .error (.malformed p.offset)
  | fuel + 1, p => do
    let (d, q) ← readValue depth fuel p
    let q := q.skipSpace
    match q.rest.head? with
    | some ']' => pure ([d], q.advance 1)
    | some ',' =>
      let (ds, q) ← readItems depth fuel (q.advance 1).skipSpace
      pure (d :: ds, q)
    | _ => throw (.malformed q.offset)

/-- The entries of a record, the last one before the closing brace. A name has replacement characters
for halves of pairs. -/
def readEntries (depth : Nat) : Nat → Place → Except Fault (List (String × Datum) × Place)
  | 0, p => .error (.malformed p.offset)
  | fuel + 1, p => do
    if p.rest.head? != some '"' then throw (.malformed p.offset)
    let (name, q) ← readString p
    let q := q.skipSpace
    if q.rest.head? != some ':' then throw (.malformed q.offset)
    let (d, q) ← readValue depth fuel (q.advance 1).skipSpace
    let q := q.skipSpace
    match q.rest.head? with
    | some c =>
      if c = '\x7d' then pure ([(name.lossy, d)], q.advance 1)
      else if c = ',' then do
        let (ds, q) ← readEntries depth fuel (q.advance 1).skipSpace
        pure ((name.lossy, d) :: ds, q)
      else throw (.malformed q.offset)
    | none => throw (.malformed q.offset)

end

/-- How deep lists and records may stand within each other. -/
def maxDepth : Nat := 985

/-- The place at the beginning of a text. -/
def Place.start : Wording → Place
  | .proper s => ⟨0, s.toList, []⟩
  | .broken points => ⟨0, points.map fun n => (Wording.char? n).getD (Char.ofNat 0xFFFD),
      (points.zipIdx.filter fun (n, _) => Wording.isHalf n).map fun (n, i) => (i, n)⟩

/-- The value that a text, perhaps with halves of pairs in it, is the JSON form of. A text may not
begin with a byte order mark. -/
def parseWording (w : Wording) : Except Fault Datum :=
  let p := Place.start w
  if p.rest.head? = some (Char.ofNat 0xFEFF) then .error (.malformed 0)
  else do
    let (d, q) ← readValue maxDepth (p.rest.length + 1) p.skipSpace
    let q := q.skipSpace
    if q.rest.isEmpty then pure d else throw (.malformed q.offset)

/-- The value that a text is the JSON form of. -/
def parse (s : String) : Except Fault Datum := parseWording (.proper s)

end SchoolCatalog.Json
