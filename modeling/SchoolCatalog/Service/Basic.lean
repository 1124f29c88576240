import SchoolCatalog.Store.Migration
import SchoolCatalog.Store.Write
import SchoolCatalog.Geo.Geocoder
import SchoolCatalog.Access.Password
import SchoolCatalog.Logging
import SchoolCatalog.Calendar

/-!
# Services

What the catalog keeps between operations, what surrounds an operation, and the form of an
operation: it reads its surroundings, may change the state, and either answers or fails. A failure
undoes nothing by itself; what was done before it stays done.
-/

namespace SchoolCatalog

/-- What surrounds an operation. -/
structure Surroundings where
  /-- The clock, in seconds. -/
  now : Int
  /-- The instant of the stamp that is given out after a number of others. -/
  instant : Nat → Int
  /-- The salt that is drawn as the `n`-th, counted from one. -/
  salt : Nat → Bytes
  iterations : Int := Password.standardIterations
  batchSize : Int := 500
  settings : Settings := {}
  geocode : Wording → Geo.Reply := fun _ => .unreachable
  /-- Whether every update of a record gets lost. -/
  losesUpdates : Bool := false

/-- What the catalog keeps. -/
structure State where
  database : Store.Database := {}
  /-- The files that were taken, by the bytes of their names. -/
  uploads : List (Bytes × Bytes) := []
  /-- How many stamps were given out. -/
  stamps : Nat := 0
  /-- How many salts were drawn. -/
  salts : Nat := 0
  /-- The requests made to the geocoder, the latest first. -/
  calls : List Geo.Call := []
  /-- The entries of the log, the latest first. -/
  log : List LogEntry := []

/-- A state whose database was set up and holds no record. -/
def State.fresh : State := { database := Store.Database.fresh }

/-- An operation of the catalog. -/
abbrev Service (α : Type) := ReaderT Surroundings (ExceptT Failure (StateM State)) α

namespace Service

/-- The answer or failure of an operation, and the state that it leaves. -/
def run {α : Type} (operation : Service α) (around : Surroundings) (state : State) :
    Except Failure α × State :=
  Id.run ((ReaderT.run operation around).run.run state)

def fail {α : Type} (failure : Failure) : Service α := throw failure

def ofExcept {α : Type} : Except Failure α → Service α
  | .ok a => pure a
  | .error failure => fail failure

def log (level : LogLevel) (text : String) : Service Unit :=
  modify fun s => { s with log := ⟨level, text⟩ :: s.log }

def info (text : String) : Service Unit := log .info text

/-- The answer of an operation, or its failure as a value. -/
def attempt {α : Type} (operation : Service α) : Service (Except Failure α) :=
  tryCatch (Except.ok <$> operation) fun failure => pure (.error failure)

/-- Runs an operation; a broken rule of the store is reported in other words. -/
def wording {α : Type} (operation : Service α) (report : Violation → Service α) : Service α :=
  tryCatch operation fun
    | .violated v => report v
    | failure => fail failure

/-- The next stamp; it counts as given out whether it is used or not, or is out of the calendar. -/
def nextStamp : Service String := do
  let around ← read
  let state ← get
  set { state with stamps := state.stamps + 1 }
  match stamp? (around.instant state.stamps) with
  | some stamp => return stamp
  | none => fail .outOfRange

/-- The next salt. -/
def nextSalt : Service Bytes := do
  let around ← read
  let state ← get
  set { state with salts := state.salts + 1 }
  return around.salt (state.salts + 1)

/-- Asks the geocoder for an address. -/
def locate (geocoder : Geo.Geocoder) (address : Wording) : Service Geo.Location := do
  modify fun s => { s with calls := geocoder.call address :: s.calls }
  let around ← read
  ofExcept (Geo.Location.ofReply address (around.geocode address))

end Service
end SchoolCatalog
