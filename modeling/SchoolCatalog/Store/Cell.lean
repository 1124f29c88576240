import SchoolCatalog.Failure
import SchoolCatalog.Number.Stored
import SchoolCatalog.Number.Word

/-!
# Stored values

A cell holds null, a number, a text or bytes. A column has an affinity, which says what a value
turns into when it is stored there, and what it turns into before it is compared with the column.
Values of different kinds are ordered null, numbers, text, bytes.
-/

namespace SchoolCatalog.Store

inductive Cell where
  | null
  | int (value : Int)
  | real (value : Binary64)
  | text (value : String)
  | blob (value : Bytes)
  deriving DecidableEq, Inhabited

/-- The preferred kind of a column; one may take anything as it is. -/
inductive Affinity where
  | integer
  | real
  | numeric
  | text
  | anything
  deriving DecidableEq

namespace Cell

/-- The cell of a parameter: a flag is an integer, a NaN is null, broken texts, lists and records have
none. -/
def bind : Datum → Except Failure Cell
  | .null => .ok null
  | .bool b => .ok (int (if b then 1 else 0))
  | .int i => if Number.fitsWord i then .ok (int i) else .error .outOfRange
  | .real x => .ok (if x.isNaN then null else real x)
  | .text s => .ok (text s)
  | .broken points => .error (.unencodable (Wording.unpairedHalf points))
  | .bytes b => .ok (blob b)
  | .list _ => .error .unbindable
  | .dict _ => .error .unbindable

def toDatum : Cell → Datum
  | null => .null
  | int i => .int i
  | real x => .real x
  | text s => .text s
  | blob b => .bytes b

def isNull : Cell → Bool
  | null => true
  | _ => false

/-- Whether a stored value counts as true: a number other than zero, a text that is not empty. -/
def isTruthy (c : Cell) : Bool := c.toDatum.isTruthy

/-- The place of a kind in the order of kinds. -/
def rank : Cell → Nat
  | null => 0
  | int _ => 1
  | real _ => 1
  | text _ => 2
  | blob _ => 3

/-- The order of two lists of bytes. -/
def compareBytes : Bytes → Bytes → Ordering
  | [], [] => .eq
  | [], _ => .lt
  | _, [] => .gt
  | a :: as, b :: bs => (Ord.compare a b).then (compareBytes as bs)

/-- The order of two numbers, exact; no cell holds a NaN. -/
def compareNumbers : Cell → Cell → Ordering
  | int i, int j => Ord.compare i j
  | int i, real y => ((y.compareInt? i).map Ordering.swap).getD .eq
  | real x, int j => (x.compareInt? j).getD .eq
  | real x, real y => (x.compare? y).getD .eq
  | _, _ => .eq

/-- The order of all cells. -/
def compare (x y : Cell) : Ordering :=
  (Ord.compare x.rank y.rank).then <|
    match x, y with
    | text s, text t => Ord.compare s t
    | blob s, blob t => compareBytes s t
    | x, y => compareNumbers x y

end Cell

namespace Affinity

/-- A fraction that is whole turns into an integer if that lies above the least integer of 64 bits and
not above the greatest, which no fraction is. -/
def wholeIfPossible (x : Binary64) : Cell :=
  match x.toInt? with
  | some i =>
    if Number.leastWord < i && i ≤ Number.greatestWord then .int i else .real x
  | none => .real x

/-- Numeric-looking text turns into a number, a whole fraction into an integer. -/
def toNumeric : Cell → Cell
  | .text s => match Number.readStored? s with
    | some (.whole i) => .int i
    | some (.fraction x) => wholeIfPossible x
    | none => .text s
  | .real x => wholeIfPossible x
  | c => c

/-- A number turns into text. -/
def toText : Cell → Cell
  | .int i => .text (toString i)
  | .real x => .text x.storedText
  | c => c

/-- What a value turns into when it is stored in a column. -/
def store (a : Affinity) (c : Cell) : Cell :=
  match a with
  | integer => toNumeric c
  | numeric => toNumeric c
  | real => match toNumeric c with
    | .int i => .real (.ofInt i)
    | c => c
  | text => toText c
  | anything => c

/-- What a value turns into before it is compared with a column. -/
def adapt (a : Affinity) (c : Cell) : Cell :=
  match a with
  | text => toText c
  | anything => c
  | _ => toNumeric c

end Affinity
end SchoolCatalog.Store
