import SchoolCatalog.Datum.Display
import SchoolCatalog.Form.Issue
import SchoolCatalog.Number.Reading
import SchoolCatalog.Number.Summation

/-!
# Failures

Why an operation of the catalog fails, as causes; `Failure.message` is the one place where they are
worded.
-/

namespace SchoolCatalog

/-- A record that is not there, by what it was wanted for. -/
inductive Missing where
  | school (id : Datum)
  | parentSchool (id : Datum)
  | course (id : Datum)
  | review (id : Datum)
  | shownReview (id : Datum)
  | account (id : Datum)

/-- A write that another record stands against. -/
inductive Conflict where
  | schoolName (name : Datum)
  | review (user school : Datum)
  | email (address : Datum)

/-- Why an address has no location. -/
inductive Unlocated where
  | disabled
  | failed (address : Wording)
  | notFound (address : Wording)

/-- A request that is refused for what it holds. -/
inductive Refusal where
  | alreadyPublished (user : Datum)
  | emptyUpload
  | notAnImage
  | largeUpload (limit : Int)
  | embeddedNul
  | variableName
  | noIterations
  | emptyBatches
  | malformedInteger (text : Wording)
  | longInteger (digits : Nat)
  | unwrittenInteger
  | malformedNumber (text : Wording)
  | notANumber
  | opposedInfinities
  | outsideDomain

/-- A rule of a table that a row breaks. -/
inductive Violation where
  | notNull (table column : String)
  | check (rule : String)
  | unique (table : String) (columns : List String)
  | foreignKey
  /-- An identity that is no integer. -/
  | mismatch
  deriving DecidableEq

/-- Whose concern a failure is. -/
inductive Gravity where
  | absent
  | forbidden
  | mendable
  | internal
  deriving DecidableEq

/-- The status of an answer, and what is said in it: a cause that the caller can see or mend is named,
any other is a server error. -/
def Gravity.answer (message : String) : Gravity → Nat × String
  | absent => (404, message)
  | forbidden => (403, message)
  | mendable => (400, message)
  | internal => (500, "Server Error")

/-- Why an operation fails. -/
inductive Failure where
  | missing (what : Missing)
  | denied (user : Datum) (action : String)
  | conflict (what : Conflict)
  | unlocated (why : Unlocated)
  | refused (why : Refusal)
  | invalid (issues : List Form.Issue)
  | malformed
  | tooDeep
  | unencodable (fault : UnpairedHalf)
  | violated (rule : Violation)
  | unavailable
  | unbindable
  | outOfRange
  | mistyped
  | absentField
  | unwritable

namespace Missing

def message : Missing → String
  | school id => "School not found with id of " ++ id.display
  | parentSchool id => "No school with the id of " ++ id.display
  | course id => "No course with the id of " ++ id.display
  | review id => "No review with the id of " ++ id.display
  | shownReview id => "No review found with the id of " ++ id.display
  | account id => "No user with the id of " ++ id.display

end Missing

namespace Conflict

def message : Conflict → String
  | schoolName name => "A school named " ++ name.quoted ++ " already exists"
  | review user school =>
    "User " ++ user.display ++ " has already reviewed school " ++ school.display
  | email address => "Email " ++ address.display ++ " is already registered"

end Conflict

namespace Unlocated

def message : Unlocated → String
  | disabled => "Geocoding is disabled"
  | failed address => "Could not geocode address " ++ address.quoted
  | notFound address => "No location found for " ++ address.quoted

end Unlocated

namespace Refusal

/-- What is said of a refusal; of a text that is no integer at most 200 characters are shown. -/
def message : Refusal → String
  | alreadyPublished user => "The user with ID " ++ user.display ++ " has already published a school"
  | emptyUpload => "Please upload a file"
  | notAnImage => "Please upload an image file"
  | largeUpload limit => "Please upload an image less than " ++ toString limit ++ " bytes"
  | embeddedNul => "embedded null byte"
  | variableName => "illegal environment variable name"
  | noIterations => "iteration value must be greater than 0."
  | emptyBatches => "range() arg 3 must not be zero"
  | malformedInteger text =>
    "invalid literal for int() with base 10: " ++ String.ofList (text.quoted.toList.take 200)
  | longInteger digits =>
    "Exceeds the limit (4300 digits) for integer string conversion: value has " ++ toString digits ++
      " digits; use sys.set_int_max_str_digits() to increase the limit"
  | unwrittenInteger =>
    "Exceeds the limit (4300 digits) for integer string conversion; " ++
      "use sys.set_int_max_str_digits() to increase the limit"
  | malformedNumber text => "could not convert string to float: " ++ text.quoted
  | notANumber => "cannot convert float NaN to integer"
  | opposedInfinities => "-inf + inf in fsum"
  | outsideDomain => "math domain error"

end Refusal

namespace Violation

def message : Violation → String
  | notNull table column => "NOT NULL constraint failed: " ++ table ++ "." ++ column
  | check rule => "CHECK constraint failed: " ++ rule
  | unique table columns =>
    "UNIQUE constraint failed: " ++ ", ".intercalate (columns.map fun c => table ++ "." ++ c)
  | foreignKey => "FOREIGN KEY constraint failed"
  | mismatch => "datatype mismatch"

end Violation

namespace Failure

/-- What is said of a failure, where something is. -/
def message? : Failure → Option String
  | missing what => some what.message
  | denied user action => some ("User " ++ user.display ++ " is not authorized to " ++ action)
  | conflict what => some what.message
  | unlocated why => some why.message
  | refused why => some why.message
  | violated rule => some rule.message
  | unencodable fault => some fault.message
  | _ => none

def gravity : Failure → Gravity
  | missing _ => .absent
  | denied _ _ => .forbidden
  | conflict _ => .mendable
  | unlocated _ => .mendable
  | refused _ => .mendable
  | unencodable _ => .mendable
  | _ => .internal

/-- The status with which a failure of an operation is answered, and what is said. -/
def status (failure : Failure) : Nat × String :=
  failure.gravity.answer (failure.message?.getD "")

def ofIntegerFault (text : Wording) : IntegerFault → Failure
  | .malformed => refused (.malformedInteger text)
  | .tooLong digits => refused (.longInteger digits)

def ofMeanFault : MeanFault → Failure
  | .outOfRange => outOfRange
  | .opposedInfinities => refused .opposedInfinities

def ofRoundingFault : RoundingFault → Failure
  | .infinite => outOfRange
  | .notANumber => refused .notANumber

end Failure

/-- The integer that a text reads as; a half of a pair is no digit. -/
def Wording.toWhole (w : Wording) : Except Failure Int :=
  (Number.readInteger (w.withHalvesAs '?')).mapError (Failure.ofIntegerFault w)

/-- The number that a text reads as. -/
def Wording.toNumber (w : Wording) : Except Failure Binary64 :=
  match Number.readNumber? (w.withHalvesAs '?') with
  | some x => .ok x
  | none => .error (.refused (.malformedNumber w))

/-- The integer that a value reads as: a number without its fraction, a flag, or a text. -/
def Datum.toWhole : Datum → Except Failure Int
  | .bool b => .ok (if b then 1 else 0)
  | .int i => .ok i
  | .real x => match x with
    | .nan => .error (.refused .notANumber)
    | .infinite _ => .error .outOfRange
    | x => .ok (x.truncate?.getD 0)
  | .text s => (Wording.proper s).toWhole
  | .broken points => (Wording.broken points).toWhole
  | _ => .error .mistyped

/-- The number that a value reads as: a number, a flag, or a text. -/
def Datum.toNumber : Datum → Except Failure Binary64
  | .bool b => .ok (.ofInt (if b then 1 else 0))
  | .int i => (Binary64.ofInt? i).elim (.error .outOfRange) .ok
  | .real x => .ok x
  | .text s => (Wording.proper s).toNumber
  | .broken points => (Wording.broken points).toNumber
  | _ => .error .mistyped

/-- The number that a value is: texts are none, whatever they read as. -/
def Datum.toReal : Datum → Except Failure Binary64
  | .text _ => .error .mistyped
  | .broken _ => .error .mistyped
  | d => d.toNumber

end SchoolCatalog
