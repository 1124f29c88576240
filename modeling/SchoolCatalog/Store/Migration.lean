import SchoolCatalog.Store.Database

/-!
# Migrations

Numbered scripts that build the tables, and how a connection brings a database up to date with a
list of them: those newer than all that are recorded are run in turn and recorded, up to the first
that fails.

A version is inserted into the record after its script has run, and an inserted version is kept only
once the connection commits. It commits before each script and at the end, never on the way out of a
failure.
-/

namespace SchoolCatalog.Store
namespace Database

/-! ## Building the tables -/

/-- Adds the indices that are not there yet. -/
def addIndices (db : Database) (indices : List Index) : Database :=
  { db with indices := db.indices ++ indices.filter fun i => !db.indices.contains i }

/-- Creates the tables that are not there yet, with the index that no row may break. -/
def createTables (db : Database) : Database :=
  let missing := Layout.standard.filter fun l => (db.table? l.name).isNone
  addIndices { db with tables := db.tables ++ missing.map fun l => { layout := l } }
    [.reviewsBySchoolAndUser]

/-- Creates the indices for looking up dependents, which takes the tables to be there. -/
def createIndices (db : Database) : Database × Option Failure :=
  if Index.lookups.all fun i => (db.table? i.table).isSome then (db.addIndices Index.lookups, none)
  else (db, some .unavailable)

/-! ## The record of versions -/

/-- The recorded versions, none before there is a record. -/
def recorded (db : Database) : List Int := db.versions.getD []

/-- The greatest recorded version, zero if none is recorded. -/
def latest (db : Database) : Int := db.recorded.max?.getD 0

/-- Makes a record of versions if there is none. -/
def openRecord (db : Database) : Database := { db with versions := some db.recorded }

/-- Adds versions to the record. -/
def record (db : Database) (versions : List Int) : Database :=
  { db with versions := db.versions.map (· ++ versions) }

end Database

/-- A numbered script: what it makes of a database, and why it stopped if it did not reach its end.
It leaves the record of versions to the one who runs it. -/
structure Migration where
  version : Int
  script : Database → Database × Option Failure
  spares : ∀ db, (script db).1.versions = db.versions

namespace Migration

/-- The tables. -/
def initialSchema : Migration := ⟨1, fun db => (db.createTables, none), fun _ => rfl⟩

/-- The indices for looking up dependents. -/
def lookupIndices : Migration where
  version := 2
  script := Database.createIndices
  spares db := by unfold Database.createIndices; split <;> rfl

/-- A script that does nothing. -/
def idle (version : Int) : Migration := ⟨version, fun db => (db, none), fun _ => rfl⟩

/-- The migration of a version; versions that are not known do nothing. -/
def ofVersion (version : Int) : Migration :=
  if version = 1 then initialSchema else if version = 2 then lookupIndices else idle version

end Migration

/-- A connection at work on the record: what the database holds, and the versions that were inserted
and are not committed yet. -/
structure Connection where
  database : Database
  pending : List Int := []

namespace Connection

def commit (c : Connection) : Connection := { database := c.database.record c.pending }

/-- Runs the script of a migration on what is committed first. -/
def execute (c : Connection) (m : Migration) : Connection × Option Failure :=
  let (database, failure) := m.script c.commit.database
  ({ database }, failure)

/-- Inserts a version, which has to be a number that can be stored and is not there yet. -/
def insert (c : Connection) (version : Int) : Except Failure Connection :=
  if !Number.fitsWord version then .error .outOfRange
  else if version ∈ c.database.recorded ++ c.pending then
    .error (.violated (.unique "migrations" ["version"]))
  else .ok { c with pending := c.pending ++ [version] }

/-- Applies those of the listed migrations that are newer than all before them, up to the first that
fails. -/
def applyNewer (c : Connection) (current : Int) : List Migration → Connection × Option Failure
  | [] => (c, none)
  | m :: rest =>
    if current < m.version then
      match c.execute m with
      | (c, some failure) => (c, some failure)
      | (c, none) =>
        match c.insert m.version with
        | .error failure => (c, some failure)
        | .ok c => applyNewer c m.version rest
    else applyNewer c current rest

/-- What is left once a connection closes: it commits unless its work failed. -/
def close : Connection × Option Failure → Database × Option Failure
  | (c, none) => (c.commit.database, none)
  | (c, some failure) => (c.database, some failure)

end Connection

namespace Database

/-- Brings a database up to date with a list of migrations. -/
def initialise (db : Database) (list : List Migration) : Database × Option Failure :=
  Connection.close (Connection.applyNewer { database := db.openRecord } db.latest list)

/-- Brings a database up to date with the migrations of some versions. -/
def migrate (db : Database) (versions : List Int) : Database × Option Failure :=
  db.initialise (versions.map .ofVersion)

/-- The versions of the migrations of the catalog. -/
def migrations : List Int := [1, 2]

/-- A database that was set up and holds no record. -/
def fresh : Database := (empty.migrate migrations).1

end Database
end SchoolCatalog.Store
