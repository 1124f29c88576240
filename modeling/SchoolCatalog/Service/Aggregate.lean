import SchoolCatalog.Service.Store
import SchoolCatalog.Catalog.Standard

/-!
# Averages of a school

A school keeps the mean tuition of its courses, rounded up to a multiple of ten, and the mean rating
of its reviews. Recomputing reads all courses or reviews of the school and writes the mean; a school
that has none keeps what it has. Recomputing never fails: a failure is logged and passed over.
-/

namespace SchoolCatalog

/-- The averages that a school keeps. -/
inductive Aggregate where
  | cost
  | rating
  deriving DecidableEq

namespace Aggregate

def dependents : Aggregate → Collection
  | cost => .courses
  | rating => .reviews

def valueField : Aggregate → String
  | cost => "tuition"
  | rating => "rating"

def targetField : Aggregate → String
  | cost => "average_cost"
  | rating => "average_rating"

/-- What is kept of a mean. -/
def finish : Aggregate → Binary64 → Except Failure Datum
  | cost, mean => (mean.ceilToTen.mapError Failure.ofRoundingFault).map .int
  | rating, mean => .ok (.real mean)

/-- The numbers before the first value that is none. -/
def leadingNumbers : List Datum → List Binary64
  | [] => []
  | d :: ds => match d.toReal with
    | .ok x => x :: leadingNumbers ds
    | .error _ => []

/-- The mean of values, which have to be numbers; a sum that leaves the range before a value that is
no number is the fault that counts. -/
def meanOf (values : List Datum) : Except Failure (Option Binary64) :=
  match values.mapM Datum.toReal with
  | .ok numbers => (Number.mean numbers).mapError Failure.ofMeanFault
  | .error failure =>
    if (Number.runningSum? (leadingNumbers values)).isNone then .error .outOfRange
    else .error failure

/-- What a school's average should be, none without courses or reviews. -/
def compute (a : Aggregate) (school : Datum) (store : Store) : Service (Option Datum) := do
  let records ← store.find a.dependents
    { conditions := [⟨"school_id", .eq, school⟩], projection := some [a.valueField] }
  let values := (records.map fun r => Record.field r a.valueField).filter fun d => !d.isNull
  match ← Service.ofExcept (meanOf values) with
  | none => return none
  | some mean => some <$> Service.ofExcept (a.finish mean)

/-- Computes a school's average and writes it, each in a given way. -/
def refreshBy (a : Aggregate) (school : Datum) (compute : Service (Option Datum))
    (write : Datum → Service (Option Record)) : Service Unit := do
  match ← compute with
  | none =>
    Service.log .debug ("School " ++ school.display ++ " has no " ++ a.dependents.name ++ "; " ++
      a.targetField ++ " left unchanged")
  | some value =>
    match ← write value with
    | none =>
      Service.log .warning ("Cannot store " ++ a.targetField ++ "=" ++ value.display ++
        ": school " ++ school.display ++ " not found")
    | some _ =>
      Service.info ("School " ++ school.display ++ " " ++ a.targetField ++ " set to " ++
        value.display)

/-- Writes a school's average as it is found. -/
def write (a : Aggregate) (school : Datum) (store : Store) (value : Datum) :
    Service (Option Record) :=
  store.update .schools school [(a.targetField, value)]

/-- Computes and writes a school's average. -/
def refresh (a : Aggregate) (school : Datum) (store : Store) : Service Unit :=
  a.refreshBy school (a.compute school store) (a.write school store)

/-- Carries out a refreshment of a school's average; a failure is logged and passed over. -/
def settle (a : Aggregate) (school : Datum) (refresh : Service Unit) : Service Unit := do
  match ← Service.attempt refresh with
  | .ok _ => return ()
  | .error _ =>
    Service.log .error ("Failed to recompute " ++ a.targetField ++ " for school " ++ school.display)

/-- Recomputes a school's average. -/
def recompute (a : Aggregate) (school : Datum) (store : Store) : Service Unit :=
  a.settle school (a.refresh school store)

/-- A way of recomputing averages. -/
abbrev Recomputing := Aggregate → Datum → Store → Service Unit

end Aggregate
end SchoolCatalog
