import SchoolCatalog.Number.Binary64
import SchoolCatalog.Text.Wording

/-!
# Data

What the catalog exchanges with the outside: a JSON value, or a string of bytes. A text that holds a
half of a UTF-16 pair is a value of its own kind, since it has no bytes. A record is a list of named
values in which each name stands once; writing a name again keeps its place.
-/

namespace SchoolCatalog

/-- A value of a record, a request or an answer. -/
inductive Datum where
  | null
  | bool (value : Bool)
  | int (value : Int)
  | real (value : Binary64)
  | text (value : String)
  | broken (points : List Nat)
  | bytes (value : Bytes)
  | list (items : List Datum)
  | dict (entries : List (String × Datum))
  deriving Inhabited

/-- Named values in order. -/
abbrev Record := List (String × Datum)

namespace Record

/-- The value under a name. -/
def get? (record : Record) (name : String) : Option Datum := record.lookup name

/-- The value under a name, null if there is none. -/
def field (record : Record) (name : String) : Datum := (get? record name).getD .null

def names (record : Record) : List String := record.map (·.1)

def has (record : Record) (name : String) : Bool := (get? record name).isSome

/-- Writes a value: in place if the name stands already, else at the end. -/
def put (record : Record) (name : String) (value : Datum) : Record :=
  match record with
  | [] => [(name, value)]
  | (n, v) :: rest => if n = name then (n, value) :: rest else (n, v) :: put rest name value

/-- Writes all values of a second record. -/
def putAll (record other : Record) : Record :=
  other.foldl (fun r (n, v) => put r n v) record

/-- A record of pairs, of which the last of each name counts. -/
def ofPairs (pairs : List (String × Datum)) : Record := putAll [] pairs

def remove (record : Record) (name : String) : Record := record.filter fun (n, _) => n != name

/-- The values under the given names, in their order, as far as they stand. -/
def only (record : Record) (names : List String) : Record :=
  names.filterMap fun n => (get? record n).map (n, ·)

end Record

namespace Datum

/-- Whether a value counts as present: null, false, zero and everything empty do not. -/
def isTruthy : Datum → Bool
  | null => false
  | bool b => b
  | int i => i != 0
  | real x => !x.isZero
  | text s => !s.isEmpty
  | broken points => !points.isEmpty
  | bytes b => !b.isEmpty
  | list items => !items.isEmpty
  | dict entries => !entries.isEmpty

def isNull : Datum → Bool
  | null => true
  | _ => false

/-- The text that a value is, which may be broken. -/
def wording? : Datum → Option Wording
  | text s => some (.proper s)
  | broken points => some (.broken points)
  | _ => none

def ofWording : Wording → Datum
  | .proper s => text s
  | .broken points => broken points

def ofOption : Option Datum → Datum
  | none => null
  | some d => d

/-- The integer that a whole value stands for; true is one and false is zero. -/
def wholeValue? : Datum → Option Int
  | bool b => some (if b then 1 else 0)
  | int i => some i
  | _ => none

/-- Equality of two numbers of either kind, exact. -/
def sameNumber (x y : Datum) : Option Bool :=
  match x.wholeValue?, y.wholeValue? with
  | some i, some j => some (i = j)
  | some i, none => match y with
    | real b => some (b.compareInt? i = some .eq)
    | _ => none
  | none, some j => match x with
    | real a => some (a.compareInt? j = some .eq)
    | _ => none
  | none, none => match x, y with
    | real a, real b => some (a.compare? b = some .eq)
    | _, _ => none

mutual

/-- Equality of values, in which numbers of different kinds are equal if their values are, and the
order of a record does not count. -/
def same (x y : Datum) : Bool :=
  match x with
  | null => y.isNull
  | bool b => (sameNumber (bool b) y).getD false
  | int i => (sameNumber (int i) y).getD false
  | real a => (sameNumber (real a) y).getD false
  | text s => match y with
    | text t => s = t
    | _ => false
  | broken s => match y with
    | broken t => s = t
    | _ => false
  | bytes s => match y with
    | bytes t => s = t
    | _ => false
  | list xs => match y with
    | list ys => sameList xs ys
    | _ => false
  | dict es => match y with
    | dict fs => es.length = fs.length && sameEntries es fs
    | _ => false

/-- Equality of lists, item by item. -/
def sameList (xs ys : List Datum) : Bool :=
  match xs, ys with
  | [], [] => true
  | x :: xs, y :: ys => same x y && sameList xs ys
  | _, _ => false

/-- Whether each entry of the first record has an equal one in the second. -/
def sameEntries (es : List (String × Datum)) (fs : List (String × Datum)) : Bool :=
  match es with
  | [] => true
  | (n, v) :: es => (match fs.lookup n with
    | some w => same v w
    | none => false) && sameEntries es fs

end

end Datum
end SchoolCatalog
