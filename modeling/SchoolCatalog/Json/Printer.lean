import SchoolCatalog.Datum.Display
import SchoolCatalog.Number.Reading

/-!
# Compact JSON

Writes a value as JSON without spaces and in ASCII: other characters are escaped by UTF-16 units, and
so is a half of a pair. Bytes have no JSON form, nor have integers with too many digits.
-/

namespace SchoolCatalog.Json

/-- The escape of one UTF-16 unit. -/
def escapeUnit (n : Nat) : List Char := '\\' :: 'u' :: Text.hexPadded 4 n

/-- A character as it stands in a JSON text. -/
def escapeChar (c : Char) : List Char :=
  if c = '"' then ['\\', '"']
  else if c = '\\' then ['\\', '\\']
  else if c = '\n' then ['\\', 'n']
  else if c = '\r' then ['\\', 'r']
  else if c = '\t' then ['\\', 't']
  else if c.toNat = 8 then ['\\', 'b']
  else if c.toNat = 12 then ['\\', 'f']
  else if 0x20 ≤ c.toNat && c.toNat < 0x7F then [c]
  else if c.toNat < 0x10000 then escapeUnit c.toNat
  else
    let n := c.toNat - 0x10000
    escapeUnit (0xD800 + n / 0x400) ++ escapeUnit (0xDC00 + n % 0x400)

/-- A text between double quotes. -/
def quote (s : String) : String := String.ofList ('"' :: s.toList.flatMap escapeChar ++ ['"'])

/-- A code point as it stands in a JSON text. -/
def escapePoint (n : Nat) : List Char :=
  match Wording.char? n with
  | some c => escapeChar c
  | none => escapeUnit n

/-- A broken text between double quotes. -/
def quotePoints (points : List Nat) : String :=
  String.ofList ('"' :: points.flatMap escapePoint ++ ['"'])

def numberText : Binary64 → String
  | .nan => "NaN"
  | .infinite s => if s then "-Infinity" else "Infinity"
  | x => x.text

/-- Why a value has no JSON text. -/
inductive Unprintable where
  | bytes
  | longInteger
  deriving DecidableEq

/-- Whether an integer has more digits than are written. -/
def isLongInteger (i : Int) : Bool := Nat.pow 10 Number.maxDigits ≤ i.natAbs

mutual

/-- The JSON text of a value; the first part that has none is told. -/
def render : Datum → Except Unprintable String
  | .null => .ok "null"
  | .bool b => .ok (if b then "true" else "false")
  | .int i => if isLongInteger i then .error .longInteger else .ok (toString i)
  | .real x => .ok (numberText x)
  | .text s => .ok (quote s)
  | .broken points => .ok (quotePoints points)
  | .bytes _ => .error .bytes
  | .list items => (renderItems items).map fun ts => "[" ++ ",".intercalate ts ++ "]"
  | .dict entries => (renderEntries entries).map fun ts => "\x7b" ++ ",".intercalate ts ++ "\x7d"

def renderItems : List Datum → Except Unprintable (List String)
  | [] => .ok []
  | d :: ds => do return (← render d) :: (← renderItems ds)

def renderEntries : List (String × Datum) → Except Unprintable (List String)
  | [] => .ok []
  | (n, d) :: ds => do return (quote n ++ ":" ++ (← render d)) :: (← renderEntries ds)

end

mutual

/-- How deep lists and records stand within each other in a value. -/
def nesting : Datum → Nat
  | .list items => nestingOfItems items + 1
  | .dict entries => nestingOfEntries entries + 1
  | _ => 0

def nestingOfItems : List Datum → Nat
  | [] => 0
  | d :: ds => max (nesting d) (nestingOfItems ds)

def nestingOfEntries : List (String × Datum) → Nat
  | [] => 0
  | (_, d) :: ds => max (nesting d) (nestingOfEntries ds)

end

/-- The JSON text of a value, if it has one. -/
def render? (d : Datum) : Option String := (render d).toOption

end SchoolCatalog.Json
