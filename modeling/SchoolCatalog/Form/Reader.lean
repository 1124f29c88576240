import SchoolCatalog.Form.Issue
import SchoolCatalog.Datum.Basic
import SchoolCatalog.Number.Reading
import SchoolCatalog.Number.Word
import SchoolCatalog.Number.Notation
import SchoolCatalog.Text.Case

/-!
# Reading fields

A reader turns a value into what a form asks for, or says what is wrong with it. Reading is
generous: a number may be given as text, a flag as a word, a whole number with a zero fraction.
Readers of several fields run side by side, so that the issues of all fields are reported, in order.
-/

namespace SchoolCatalog.Form

/-- A result, or the issues that prevent it. -/
inductive Checked (α : Type) where
  | ok (value : α)
  | bad (issues : List Issue)

namespace Checked

def map {α β : Type} (f : α → β) : Checked α → Checked β
  | ok a => ok (f a)
  | bad issues => bad issues

/-- Issues of both sides add up. -/
def seq {α β : Type} (f : Checked (α → β)) (x : Unit → Checked α) : Checked β :=
  match f, x () with
  | ok f, ok a => ok (f a)
  | ok _, bad issues => bad issues
  | bad issues, ok _ => bad issues
  | bad issues, bad more => bad (issues ++ more)

instance : Applicative Checked where
  pure := ok
  map := map
  seq := seq

/-- The issues located below a field. -/
def under {α : Type} (name : String) : Checked α → Checked α
  | ok a => ok a
  | bad issues => bad (issues.map fun i => { i with location := name :: i.location })

def fault {α : Type} (f : Fault) : Checked α := bad [⟨[], f⟩]

def toExcept {α : Type} : Checked α → Except (List Issue) α
  | ok a => .ok a
  | bad issues => .error issues

end Checked

open Checked

abbrev Reader (α : Type) := Datum → Checked α

/-! ## Texts -/

/-- The text that a value is, as far as it is one: a text, or bytes that are one. -/
def textOf? : Datum → Option (Except Fault String)
  | .text s => some (.ok s)
  | .broken _ => some (.error .brokenText)
  | .bytes b => match Bytes.toText? b with
    | some s => some (.ok s)
    | none => some (.error .brokenText)
  | _ => none

/-- Reads a value by the text that it is; `other` is the fault of a value that is none. -/
def byText {α : Type} (read : String → Checked α) (other : Fault) : Reader α := fun d =>
  match textOf? d with
  | some (.ok s) => read s
  | some (.error f) => fault f
  | none => fault other

def text : Reader String := byText ok .notText

/-- A text that may be broken. -/
def wording : Reader Wording
  | .broken points => ok (.broken points)
  | d => .proper <$> text d

/-- A reader followed by a test of its result. -/
def checking {α : Type} (reader : Reader α) (test : α → Bool) (f : Fault) : Reader α := fun d =>
  match reader d with
  | ok a => if test a then ok a else fault f
  | bad issues => bad issues

def textFrom (least : Nat) : Reader String :=
  checking text (fun s => least ≤ s.length) (.tooShort least)

def textUpTo (most : Nat) : Reader String :=
  checking text (fun s => s.length ≤ most) (.tooLong most)

/-- A text without the blanks at its ends, of which something is left. -/
def filled (reader : Reader String) : Reader String := fun d =>
  match reader d with
  | ok s => if (Text.trim s).isEmpty then fault .blank else ok (Text.trim s)
  | bad issues => bad issues

/-- A text that may be broken, without the blanks at its ends, of which something is left. -/
def filledWording : Reader Wording := fun d =>
  match wording d with
  | ok w => if w.trim.isEmpty then fault .blank else ok w.trim
  | bad issues => bad issues

/-- A web address: a scheme, a first character that begins a host, any character, no space. -/
def isWebAddress (s : String) : Bool :=
  let body (cs : List Char) : Bool := match cs with
    | c :: d :: rest =>
      !(Text.isSpace c || c = '/' || c = '$' || c = '.' || c = '?' || c = '#') &&
        d != '\n' && !rest.any Text.isSpace
    | _ => false
  let cs := s.toList
  ("http://".toList.isPrefixOf cs && body (cs.drop 7)) ||
    ("https://".toList.isPrefixOf cs && body (cs.drop 8))

/-- A mail address: one at sign, a dot somewhere inside what follows it, no space. -/
def isMailAddress (s : String) : Bool :=
  let cs := s.toList
  let mailbox := cs.takeWhile (· != '@')
  let domain := (cs.dropWhile (· != '@')).drop 1
  !cs.any Text.isSpace && cs.count '@' = 1 && !mailbox.isEmpty &&
    ((domain.drop 1).dropLast).contains '.'

def webPattern : String := "^https?://[^\\s/$.?#].[^\\s]*$"

def mailPattern : String := "^[^@\\s]+@[^@\\s]+\\.[^@\\s]+$"

def webAddress : Reader String := checking text isWebAddress (.mismatch webPattern)

def mailAddress : Reader String := checking text isMailAddress (.mismatch mailPattern)

def choice (choices : List String) : Reader String := fun d =>
  match d with
  | .text s => if choices.contains s then ok s else fault (.notAChoice choices)
  | .broken _ => fault .brokenText
  | _ => fault (.notAChoice choices)

/-! ## Numbers -/

def isNonzeroDigit (c : Char) : Bool := '1' ≤ c && c ≤ '9'

/-- The whole number that a text is in its one canonical form: an optional minus, and digits of which
the first is not zero unless it stands alone. Too many digits are a fault whatever follows them. -/
def canonicalWhole (cs : List Char) : Option (Except Fault Int) :=
  let (negative, body) := Number.takeMinus cs
  let digits := body.takeWhile Char.isDigit
  if body = ['0'] then some (.ok 0)
  else if !body.head?.any isNonzeroDigit then none
  else if Number.maxDigits < digits.length then some (.error .wholeTooLong)
  else if digits.length < body.length then none
  else
    let n : Int := Number.digitsValue digits
    some (.ok (if negative then -n else n))

/-- Drops leading zeros, and underscores among them, but keeps the last of them before a point or the
end. A minus may follow the zeros. -/
def dropZeros? (cs : List Char) : Option (List Char) :=
  match cs with
  | [] => none
  | c :: _ =>
    if isNonzeroDigit c then some cs
    else if c != '0' then none
    else
      let run := cs.takeWhile fun c => c = '0' || c = '_'
      match cs.drop run.length with
      | [] => some (run.drop (run.length - 1))
      | d :: rest =>
        if isNonzeroDigit d || d = '-' then some (d :: rest)
        else if d = '.' then some (run.drop (run.length - 1) ++ d :: rest)
        else none

/-- Drops a fraction of zeros. -/
def dropZeroFraction? (cs : List Char) : Option (List Char) :=
  let whole := cs.takeWhile (· != '.')
  match cs.drop whole.length with
  | [] => some cs
  | _ :: zeros => if !zeros.isEmpty && zeros.all (· == '0') then some whole else none

/-- Drops single underscores that are not at an end. -/
def dropUnderscores? (cs : List Char) : Option (List Char) :=
  let doubled := (cs.zip (cs.drop 1)).any fun (c, d) => c = '_' && d = '_'
  if cs.head? = some '_' || cs.getLast? = some '_' || doubled then none
  else some (cs.filter (· != '_'))

/-- The canonical form of a whole number that is written with a plus, leading zeros, underscores or a
fraction of zeros. -/
def canonicalForm? (cs : List Char) : Option (List Char) := do
  let (negative, body) := Number.takeSign cs
  let body ← dropZeros? body
  let body ← dropZeroFraction? body
  let body ← dropUnderscores? body
  return if negative then '-' :: body else body

/-- A whole number written as text. Too many digits are told only of a text that begins with them. -/
def wholeOfText (s : String) : Checked Int :=
  match canonicalWhole s.toList with
  | some (.ok i) => ok i
  | some (.error f) => fault f
  | none =>
    match (canonicalForm? (Text.trimList Text.isSpace s.toList)).bind canonicalWhole with
    | some (.ok i) => ok i
    | _ => fault .unreadableWhole

/-- A whole number given as a fraction; it has to be within 64 bits and not the least of them. -/
def wholeOfReal (x : Binary64) : Checked Int :=
  if !x.isFinite then fault .notFinite
  else match x.toInt? with
    | none => fault .fractional
    | some i => if Number.leastWord < i && Number.fitsWord i then ok i else fault .wholeTooLong

def whole : Reader Int
  | .bool b => ok (if b then 1 else 0)
  | .int i => ok i
  | .real x => wholeOfReal x
  | d => byText wholeOfText .notWhole d

def wholeFrom (least : Int) (reader : Reader Int) : Reader Int :=
  checking reader (fun i => least ≤ i) (.below least)

def wholeUpTo (most : Int) (reader : Reader Int) : Reader Int :=
  checking reader (fun i => i ≤ most) (.above most)

/-- A number written as text, in ASCII. White space may stand at its ends, or single underscores
inside, but not both. -/
def numberOfText (s : String) : Checked Binary64 :=
  let cs := s.toList
  let plain := Number.scanNumber? (Text.trimList Text.isSpace cs)
  let joined := (dropUnderscores? cs).bind Number.scanNumber?
  match plain <|> joined with
  | some x => ok x
  | none => fault .unreadableNumber

def number : Reader Binary64
  | .bool b => ok (.ofInt (if b then 1 else 0))
  | .int i => match Binary64.ofInt? i with
    | some x => ok x
    | none => fault .notNumber
  | .real x => ok x
  | d => byText numberOfText .notNumber d

/-- A number that is at least the given one; no NaN is. -/
def numberFrom (least : Int) : Reader Binary64 :=
  checking number (fun x => match x.compareInt? least with
    | some .lt => false
    | some _ => true
    | none => false) (.below least)

/-! ## Flags -/

def flagOfText (s : String) : Checked Bool :=
  let word := String.ofList (s.toList.map Char.toLower)
  if ["0", "off", "f", "false", "n", "no"].contains word then ok false
  else if ["1", "on", "t", "true", "y", "yes"].contains word then ok true
  else fault .unreadableFlag

def flagOfWhole (i : Int) : Checked Bool :=
  if i = 0 then ok false else if i = 1 then ok true else fault .unreadableFlag

def flag : Reader Bool
  | .bool b => ok b
  | .int i => if Number.fitsWord i then flagOfWhole i else fault .notFlag
  | .real x => match x.toInt? with
    | some i =>
      if Number.leastWord < i && Number.fitsWord i then flagOfWhole i else fault .notFlag
    | none => fault .notFlag
  | d => byText flagOfText .notFlag d

/-! ## Fields -/

/-- A value or nothing; null is nothing. -/
def optional {α : Type} (reader : Reader α) : Reader (Option α) := fun d =>
  match d with
  | .null => ok none
  | d => (reader d).map some

/-- A field that has to be there. -/
def required {α : Type} (entries : Record) (name : String) (reader : Reader α) : Checked α :=
  match entries.get? name with
  | some d => (reader d).under name
  | none => (fault .missing).under name

/-- A field with a value that stands in for it. -/
def withDefault {α : Type} (entries : Record) (name : String) (default : α) (reader : Reader α) :
    Checked α :=
  match entries.get? name with
  | some d => (reader d).under name
  | none => ok default

/-- A field that may be null or left out. -/
def maybe {α : Type} (entries : Record) (name : String) (reader : Reader α) :
    Checked (Option α) :=
  withDefault entries name none (optional reader)

/-- Reads the entries of a form; the fault says how a value that has none is reported. -/
def entriesOr {α : Type} (f : Fault) (reader : Record → Checked α) : Reader α
  | .dict entries => reader entries
  | _ => fault f

end SchoolCatalog.Form
