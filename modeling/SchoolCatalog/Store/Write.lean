import SchoolCatalog.Store.Select

/-!
# Writing records

Inserting, updating and deleting rows. A write that breaks a rule changes nothing; the rules are
looked at in a fixed order: columns that must not be null, ranges of values, identities and groups
in which rows must differ, names of other rows. Deleting a row deletes all rows that name it, and so
on.
-/

namespace SchoolCatalog.Store

/-! ## Rules -/

/-- The rules of a table that a row breaks beside other rows. -/
def Layout.violation? (l : Layout) (others : List Row) (row : Row) : Option Violation :=
  let null? := (l.columns.find? fun c => c.required && (row.cell c.name).isNull).map
    fun c => Violation.notNull l.name c.name
  let check? := l.columns.findSome? fun c => match c.check with
    | some check => if check.holds (row.cell c.name) then none
      else some (Violation.check (check.text c.name))
    | none => none
  let id? := if others.any (·.id = row.id) then some (Violation.unique l.name l.key.toList) else none
  let agrees (columns : List String) (other : Row) : Bool :=
    columns.all fun c => !(row.cell c).isNull && (row.cell c).compare (other.cell c) = .eq
  let unique? := (l.unique.find? fun columns => others.any (agrees columns)).map
    fun columns => Violation.unique l.name columns
  null? <|> check? <|> id? <|> unique?

/-- Whether every row that a row names is there. -/
def Database.namesExist (db : Database) (layout : Layout) (row : Row) : Bool :=
  layout.parents.all fun (column, parent) =>
    (row.cell column).isNull || match db.table? parent with
      | some t => t.rows.any fun p => (row.cell column).compare (.int p.id) = .eq
      | none => false

/-- Whether a row names one of the given rows of a table. -/
def namesAny (layout : Layout) (parent : String) (ids : List Int) (row : Row) : Bool :=
  layout.parents.any fun (column, table) =>
    table = parent && ids.any fun id => (row.cell column).compare (.int id) = .eq

/-- The tables with the rows in them that name given rows of a table. -/
def Database.dependents (db : Database) (name : String) (ids : List Int) :
    List (String × List Int) :=
  db.tables.map fun t =>
    (t.layout.name, (t.rows.filter (namesAny t.layout name ids)).map (·.id))

/-- Refuses a row that breaks a rule beside other rows of its table. -/
def Database.accept (db : Database) (l : Layout) (others : List Row) (row : Row) :
    Except Failure Unit :=
  match l.violation? others row with
  | some v => .error (.violated v)
  | none => if db.namesExist l row then .ok () else .error (.violated .foreignKey)

/-! ## Inserting and updating -/

/-- The values of a record that a collection lets be written. -/
def writable (c : Collection) (values : Record) : Record :=
  values.filter fun (name, _) => c.hasField name && name != "id"

/-- Values by the columns that they are for. -/
abbrev Assignments := List (Reference × Cell)

/-- Finds the columns of values and binds these, in order; a value that no column takes is refused. -/
def Layout.assign (l : Layout) (values : Record) : Except Failure Assignments :=
  let isColumn (name : String) : Bool :=
    match l.resolve name with
    | .literal _ => false
    | _ => true
  if values.all fun (name, _) => isColumn name then
    values.mapM fun (name, value) => (Cell.bind value).map (l.resolve name, ·)
  else .error .unavailable

namespace Assignments

/-- The identity that is assigned, the last one if there are several. -/
def identity? (a : Assignments) : Option Cell :=
  (a.reverse.lookup .identity).map Affinity.integer.store

/-- The values with defaults for the columns that none is given for; of several values for one column
the first counts. -/
def newCells (a : Assignments) (l : Layout) : List (String × Cell) :=
  l.columns.map fun c => (c.name, match a.lookup (.column c.name) with
    | some cell => c.affinity.store cell
    | none => c.default)

/-- Cells with the values written over them; of several values for one column the last counts. -/
def changedCells (a : Assignments) (l : Layout) (cells : List (String × Cell)) :
    List (String × Cell) :=
  cells.map fun (name, cell) => (name, match a.reverse.lookup (.column name), l.column? name with
    | some value, some c => c.affinity.store value
    | _, _ => cell)

end Assignments

/-- Puts a row at its place among rows in the order of identities. -/
def insertRow (row : Row) (rows : List Row) : List Row :=
  rows.takeWhile (fun r => r.id < row.id) ++ row :: rows.dropWhile fun r => r.id < row.id

namespace Database

/-- The identity of a new row: the one assigned, else the next. -/
def newId (db : Database) (t : Table) (a : Assignments) : Except Failure Int :=
  match a.identity? with
  | some (.int id) => .ok id
  | some .null => db.nextId t
  | some _ => .error (.violated .mismatch)
  | none => db.nextId t

/-- Inserts a row of values and hands out its identity. -/
def insert (db : Database) (c : Collection) (values : Record) : Except Failure (Database × Int) := do
  Statement.check { table := c.name, columns := Record.names values }
  let t ← db.table c.name
  let assigned ← t.layout.assign values
  let id ← db.newId t assigned
  let row : Row := ⟨id, assigned.newCells t.layout⟩
  db.accept t.layout t.rows row
  let db := db.setTable { t with rows := insertRow row t.rows }
  return (db.handOut t.layout.name id, id)

/-- Whether a row has the identity that a parameter stands for. -/
def hasId (id : Cell) (row : Row) : Bool :=
  !id.isNull && (Cell.int row.id).compare (Affinity.integer.adapt id) = .eq

/-- The identity of a row after an assignment. -/
def changedId (row : Row) (a : Assignments) : Except Failure Int :=
  match a.identity? with
  | some (.int id) => .ok id
  | some _ => .error (.violated .mismatch)
  | none => .ok row.id

/-- Whether no row is left without the row that it names when an identity changes. -/
def keepsNames (db : Database) (l : Layout) (before after : Int) : Bool :=
  before = after || (db.dependents l.name [before]).all fun (_, ids) => ids.isEmpty

/-- Writes values over those of the row with an identity; tells whether there is one. -/
def update (db : Database) (c : Collection) (id : Datum) (values : Record) :
    Except Failure (Database × Bool) := do
  Statement.check { table := c.name, columns := Record.names values }
  let t ← db.table c.name
  let assigned ← t.layout.assign values
  let key ← Cell.bind id
  match t.rows.find? (hasId key) with
  | none => return (db, false)
  | some row =>
    let others := t.rows.filter (·.id != row.id)
    let changed : Row := ⟨← changedId row assigned, assigned.changedCells t.layout row.cells⟩
    db.accept t.layout others changed
    if !db.keepsNames t.layout row.id changed.id then throw (.violated .foreignKey)
    return (db.setTable { t with rows := insertRow changed others }, true)

/-! ## Deleting -/

/-- Takes rows out of a table. -/
def removeRows (db : Database) (name : String) (ids : List Int) : Database :=
  { db with tables := db.tables.map fun t =>
      if t.layout.name = name then { t with rows := t.rows.filter fun r => !ids.contains r.id }
      else t }

/-- Takes rows out of a table together with all rows that name them; `depth` bounds how far names
reach. -/
def cascade : Nat → Database → String → List Int → Database
  | 0, db, name, ids => db.removeRows name ids
  | depth + 1, db, name, ids =>
    (db.dependents name ids).foldl (fun db (table, ids) =>
      if ids.isEmpty then db else cascade depth db table ids) (db.removeRows name ids)

/-- Deletes the row with an identity; tells whether there was one. -/
def delete (db : Database) (c : Collection) (id : Datum) : Except Failure (Database × Bool) := do
  Statement.check { table := c.name }
  let t ← db.table c.name
  let key ← Cell.bind id
  match t.rows.find? (hasId key) with
  | none => return (db, false)
  | some row => return (cascade db.tables.length db t.layout.name [row.id], true)

end Database
end SchoolCatalog.Store
