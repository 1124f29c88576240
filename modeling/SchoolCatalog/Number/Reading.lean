import SchoolCatalog.Number.Decimal
import SchoolCatalog.Text.Blank
import SchoolCatalog.Text.Digit

/-!
# How numbers are read

`scanDecimal?` is the common grammar of decimal fractions: digits with at most one point and at
least one digit, then an optional exponent. Around it stand two readers for free text, `readInteger`
and `readNumber?`, which take white space at the ends, digits of every script and single underscores
between digits.
-/

namespace SchoolCatalog

/-- Why a text is not an integer. -/
inductive IntegerFault where
  | malformed
  | tooLong (digits : Nat)
  deriving DecidableEq

namespace Number

/-- The most digits that an integer may be written with. -/
def maxDigits : Nat := 4300

/-- An optional sign: whether it is a minus, and what follows it. -/
def takeSign : List Char → Bool × List Char
  | '-' :: cs => (true, cs)
  | '+' :: cs => (false, cs)
  | cs => (false, cs)

/-- A minus in front, and what follows it. -/
def takeMinus : List Char → Bool × List Char
  | '-' :: cs => (true, cs)
  | cs => (false, cs)

def digitsValue (cs : List Char) : Nat :=
  cs.foldl (fun n c => n * 10 + (c.toNat - 0x30)) 0

/-- An exponent mark with its digits, or nothing; `none` if the text is neither. -/
def scanExponent? : List Char → Option Int
  | [] => some 0
  | c :: cs =>
    if c = 'e' || c = 'E' then
      let (negative, digits) := takeSign cs
      if digits.isEmpty || !digits.all Char.isDigit then none
      else some (if negative then -(digitsValue digits : Int) else digitsValue digits)
    else none

/-- A decimal fraction without a sign that takes up the whole text. -/
def scanDecimal? (cs : List Char) : Option Decimal :=
  let whole := cs.takeWhile Char.isDigit
  let rest := cs.dropWhile Char.isDigit
  let (places, rest) := match rest with
    | '.' :: rest => (rest.takeWhile Char.isDigit, rest.dropWhile Char.isDigit)
    | _ => ([], rest)
  if whole.isEmpty && places.isEmpty then none
  else (scanExponent? rest).map fun e =>
    ⟨false, digitsValue (whole ++ places), e - places.length⟩

/-- A signed number: a decimal fraction, or a word for an infinity or for no number. -/
def scanNumber? (cs : List Char) : Option Binary64 :=
  let (negative, body) := takeSign cs
  let word := String.ofList (body.map Char.toLower)
  if word = "inf" || word = "infinity" then some (.infinite negative)
  else if word = "nan" then some .nan
  else (scanDecimal? body).map fun d => { d with negative := negative }.toBinary64

/-- Drops the underscores of a text in which each stands between two digits. -/
def dropUnderscores? (previous : Option Char) : List Char → Option (List Char)
  | [] => if previous = some '_' then none else some []
  | c :: cs =>
    if c = '_' then
      if previous.any Char.isDigit then dropUnderscores? (some c) cs else none
    else if previous = some '_' && !c.isDigit then none
    else (dropUnderscores? (some c) cs).map (c :: ·)

/-- Free text as a list of characters without white space at its ends and with ASCII digits. -/
def plainChars (s : String) : List Char :=
  Text.asciiDigits (Text.trimList Text.isSpace s.toList)

/-- An integer written with an optional sign and digits, single underscores between them. -/
def readInteger (s : String) : Except IntegerFault Int :=
  let (negative, body) := takeSign (plainChars s)
  let run := body.takeWhile fun c => c.isDigit || c = '_'
  match dropUnderscores? none run with
  | none => .error .malformed
  | some digits =>
    if maxDigits < digits.length then .error (.tooLong digits.length)
    else if run.length < body.length || digits.isEmpty then .error .malformed
    else .ok (if negative then -(digitsValue digits : Int) else digitsValue digits)

/-- A number written as a decimal fraction or as a word. -/
def readNumber? (s : String) : Option Binary64 :=
  (dropUnderscores? none (plainChars s)).bind scanNumber?

end Number
end SchoolCatalog
