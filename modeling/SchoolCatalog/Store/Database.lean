import SchoolCatalog.Store.Declaration

/-!
# The database

Tables of rows with identities that are never handed out twice, and the record of the migrations
that built them. Rows stand in the order of their identities.
-/

namespace SchoolCatalog.Store

/-- The values of a row by column, the identity apart. -/
structure Row where
  id : Int
  cells : List (String × Cell)
  deriving DecidableEq

namespace Row

/-- The cell of a column. -/
def cell (row : Row) (column : String) : Cell := (row.cells.lookup column).getD .null

/-- What a row holds for a reference. -/
def read (row : Row) : Reference → Cell
  | .identity => .int row.id
  | .column name => row.cell name
  | .literal text => .text text

end Row

/-- A table: its rules and its rows. -/
structure Table where
  layout : Layout
  rows : List Row := []

structure Database where
  /-- The recorded migrations, none before the record itself was made. -/
  versions : Option (List Int) := none
  tables : List Table := []
  indices : List Index := []
  /-- The greatest identity that a table handed out, for each table that handed out one, in the order
  in which they first did. -/
  handedOut : List (String × Int) := []

/-- The table of a name among others, none if there is none. -/
def tableNamed? (tables : List Table) (written : String) : Option Table :=
  tables.find? fun t => sameName t.layout.name (tableName written)

namespace Database

def empty : Database := {}

def table? (db : Database) (name : String) : Option Table :=
  db.tables.find? fun t => t.layout.name = name

/-- The tables and indices of a database in the order in which they were made: the record of
identities comes with the first table. -/
def listed (db : Database) : List Listed :=
  let tables := db.tables.map fun t => Listed.ofLayout t.layout
  (if db.versions.isSome then [Listed.migrations] else []) ++
    (tables.take 1).flatten ++ (if tables.isEmpty then [] else [Listed.sequences]) ++
    (tables.drop 1).flatten ++ db.indices.map Listed.ofIndex

/-- What the database keeps about itself, as tables. -/
def ownTables (db : Database) : List Table :=
  let migrations := match db.versions with
    | some versions => [{ layout := .migrations, rows := versions.map fun v => ⟨v, []⟩ }]
    | none => []
  let sequences := if db.tables.isEmpty then [] else
    [{ layout := .sequences
       rows := db.handedOut.zipIdx.map fun ((name, greatest), n) =>
         ⟨n + 1, [("name", .text name), ("seq", .int greatest)]⟩ }]
  let listings := Layout.listings.map fun layout =>
    { layout, rows := db.listed.zipIdx.map fun (entry, n) => ⟨n + 1, entry.cells n⟩ }
  migrations ++ sequences ++ listings

/-- The table of a name that records can be written to. -/
def table (db : Database) (name : String) : Except Failure Table :=
  match tableNamed? db.tables name with
  | some t => .ok t
  | none => .error .unavailable

/-- The table of a name that records can be read from. -/
def readableTable (db : Database) (name : String) : Except Failure Table :=
  match tableNamed? db.tables name <|> tableNamed? db.ownTables name with
  | some t => .ok t
  | none => .error .unavailable

/-- Puts a table in the place of the one with its name. -/
def setTable (db : Database) (t : Table) : Database :=
  { db with tables := db.tables.map fun u => if u.layout.name = t.layout.name then t else u }

/-! ## Identities -/

/-- The greatest identity that a table handed out. -/
def greatestHandedOut (db : Database) (table : String) : Int := (db.handedOut.lookup table).getD 0

/-- Remembers that a table handed out an identity. -/
def handOut (db : Database) (table : String) (id : Int) : Database :=
  let id := max id (db.greatestHandedOut table)
  { db with handedOut :=
      if (db.handedOut.lookup table).isSome then
        db.handedOut.map fun (name, greatest) => (name, if name = table then id else greatest)
      else db.handedOut ++ [(table, id)] }

/-- The next identity of a table, which was never handed out before and is greater than all in use;
there is none after the greatest number that can be stored. -/
def nextId (db : Database) (t : Table) : Except Failure Int :=
  let greatest := (t.rows.map (·.id)).foldl max (db.greatestHandedOut t.layout.name)
  if greatest < Number.greatestWord then .ok (greatest + 1) else .error .unavailable

/-- The names of all tables and indices, sorted. -/
def objects (db : Database) : List String :=
  let names := db.tables.map (·.layout.name) ++ db.indices.map (·.name) ++
    (if db.versions.isSome then ["migrations"] else [])
  names.mergeSort fun a b => a ≤ b

end Database
end SchoolCatalog.Store
