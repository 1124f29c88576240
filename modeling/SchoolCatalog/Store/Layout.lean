import SchoolCatalog.Store.Cell
import SchoolCatalog.Store.Name

/-!
# Layouts

The columns of each table and the rules for its rows: columns that must not be null, columns with a
range of values, groups of columns in which no two rows agree, and columns that name a row of
another table. A row goes away with the row that it names. A name in a statement stands for the
identity, for a column, or, where it is neither, for its own text.
-/

namespace SchoolCatalog.Store

/-- A rule for one column; null satisfies every rule. -/
inductive Check where
  | among (choices : List String)
  | between (least most : Int)

namespace Check

/-- The text of a rule for a column. -/
def text (column : String) : Check → String
  | among choices =>
    column ++ " IN (" ++ ", ".intercalate (choices.map fun c => "'" ++ c ++ "'") ++ ")"
  | between least most =>
    column ++ " BETWEEN " ++ toString least ++ " AND " ++ toString most

def holds : Check → Cell → Bool
  | among choices, c => c.isNull || choices.any fun s => c.compare (.text s) = .eq
  | between least most, c =>
    c.isNull || (c.compare (.int least) ≠ .lt && c.compare (.int most) ≠ .gt)

end Check

structure Column where
  name : String
  affinity : Affinity
  required : Bool := false
  default : Cell := .null
  check : Option Check := none

/-- The rules of a table. -/
structure Layout where
  name : String
  /-- The name of the identity, which is no column of its own; it need not have one. -/
  key : Option String := some "id"
  columns : List Column
  unique : List (List String) := []
  parents : List (String × String) := []

/-- An index of a table. -/
structure Index where
  name : String
  table : String
  columns : List String
  unique : Bool := false
  deriving DecidableEq

/-- What a name in a statement stands for. -/
inductive Reference where
  | identity
  | column (name : String)
  | literal (text : String)
  deriving DecidableEq

namespace Layout

def column? (l : Layout) (name : String) : Option Column := l.columns.find? (·.name = name)

/-- The names that the identity has besides its own, unless a column has one of them. -/
def identityNames : List String := ["rowid", "_rowid_", "oid"]

/-- What a name stands for, which is given as it is written between quotes. -/
def resolve (l : Layout) (written : String) : Reference :=
  let name := columnName written
  if l.key.any (sameName name) then .identity
  else match l.columns.find? fun c => sameName c.name name with
    | some c => .column c.name
    | none => if identityNames.any (sameName name) then .identity else .literal name

/-- The affinity of what a name stands for; a literal has none. -/
def affinity (l : Layout) : Reference → Affinity
  | .identity => .integer
  | .column name => ((l.column? name).map (·.affinity)).getD .anything
  | .literal _ => .anything

/-- The title under which a column is returned that is named in a statement: the name that the table
gives it, or the text as it is written. -/
def title (l : Layout) (written : String) : String :=
  match l.resolve written with
  | .identity => l.key.getD "rowid"
  | .column name => name
  | .literal _ => "\"" ++ written ++ "\""

/-- A text that must be there. -/
def must (name : String) (affinity : Affinity) : Column := { name, affinity, required := true }

def may (name : String) (affinity : Affinity) : Column := { name, affinity }

def users : Layout where
  name := "users"
  columns := [must "name" .text, must "email" .text,
    { must "role" .text with
      default := .text "user", check := some (.among ["user", "publisher", "admin"]) },
    must "password" .text, may "created_at" .numeric]
  unique := [["email"]]

def schools : Layout where
  name := "schools"
  columns := [must "name" .text, must "description" .text, may "website" .text, may "phone" .text,
    may "email" .text, must "address" .text, may "latitude" .real, may "longitude" .real,
    may "formatted_address" .text, may "street" .text, may "city" .text, may "state" .text,
    may "zipcode" .text, may "country" .text, may "average_rating" .real,
    may "average_cost" .integer, { must "photo" .text with default := .text "no-photo.jpg" },
    must "user_id" .integer, may "created_at" .numeric]
  unique := [["name"]]
  parents := [("user_id", "users")]

def courses : Layout where
  name := "courses"
  columns := [must "title" .text, must "description" .text, must "weeks" .text,
    must "tuition" .real, { must "scholarship_available" .integer with default := .int 0 },
    must "school_id" .integer, must "user_id" .integer, may "created_at" .numeric]
  parents := [("school_id", "schools"), ("user_id", "users")]

def reviews : Layout where
  name := "reviews"
  columns := [must "title" .text, must "text" .text,
    { must "rating" .integer with check := some (.between 1 10) },
    must "school_id" .integer, must "user_id" .integer, may "created_at" .numeric]
  unique := [["school_id", "user_id"]]
  parents := [("school_id", "schools"), ("user_id", "users")]

/-- The tables of the catalog; a table stands after those that its rows name. -/
def standard : List Layout := [users, schools, courses, reviews]

/-- The record of migrations as a table. -/
def migrations : Layout where
  name := "migrations"
  key := some "version"
  columns := []

/-- The record of the identities handed out as a table. -/
def sequences : Layout where
  name := "sqlite_sequence"
  key := none
  columns := [may "name" .anything, may "seq" .anything]

/-- The list of tables and indices as a table, which goes by two names. -/
def listings : List Layout :=
  ["sqlite_master", "sqlite_schema"].map fun name =>
    { name, key := none
      columns := [may "type" .text, may "name" .text, may "tbl_name" .text,
        may "rootpage" .integer, may "sql" .text] }

end Layout

namespace Index

/-- The index by which no user reviews a school twice. -/
def reviewsBySchoolAndUser : Index where
  name := "idx_reviews_school_user"
  table := "reviews"
  columns := ["school_id", "user_id"]
  unique := true

/-- The indices for looking up dependents. -/
def lookups : List Index :=
  [⟨"idx_courses_school_id", "courses", ["school_id"], false⟩,
    ⟨"idx_courses_user_id", "courses", ["user_id"], false⟩,
    ⟨"idx_reviews_user_id", "reviews", ["user_id"], false⟩,
    ⟨"idx_schools_user_id", "schools", ["user_id"], false⟩]

end Index
end SchoolCatalog.Store
