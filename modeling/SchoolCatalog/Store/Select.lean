import SchoolCatalog.Store.Database
import SchoolCatalog.Store.Statement
import SchoolCatalog.Query.Request

/-!
# Finding records

A selection says which records of a collection are wanted, in which order, which window of them, and
which of their fields. A condition that cannot be decided, because a value is null, does not match.
-/

namespace SchoolCatalog.Store

/-- The records that are wanted of a collection. -/
structure Selection where
  conditions : List Condition := []
  projection : Option (List String) := none
  sort : List SortKey := []
  skip : Int := 0
  limit : Option Int := none
  includeHidden : Bool := false

/-! ## Conditions -/

/-- A clause whose column is found and whose values are ready to be compared. -/
inductive Test where
  | never
  | among (column : Option Reference) (candidates : List Cell)
  | differs (column : Option Reference) (value : Cell)
  | compares (column : Option Reference) (relation : Relation) (value : Cell)

/-- Finds the column of a clause in a table and binds its values. -/
def Test.ofClause (layout : Layout) : Clause → Except Failure Test
  | .never => .ok .never
  | .among column candidates =>
    (candidates.mapM Cell.bind).map (.among (column.map layout.resolve))
  | .differs column value => (Cell.bind value).map (.differs (column.map layout.resolve))
  | .compares column relation value =>
    (Cell.bind value).map (.compares (column.map layout.resolve) relation)

/-- How the cell of a row compares with a value; undecided if one of them is null. -/
def order? (layout : Layout) (row : Row) (column : Option Reference) (value : Cell) :
    Option Ordering :=
  match column with
  | none => none
  | some column =>
    let cell := row.read column
    if cell.isNull || value.isNull then none
    else some (cell.compare ((layout.affinity column).adapt value))

/-- Whether a row passes a test. -/
def Test.holds (layout : Layout) (row : Row) : Test → Bool
  | never => false
  | among column candidates =>
    candidates.any fun value => order? layout row column value = some .eq
  | differs column value =>
    (match column with
      | none => true
      | some column => (row.read column).isNull) ||
    (match order? layout row column value with
      | some o => o != .eq
      | none => false)
  | compares column relation value =>
    match order? layout row column value with
    | some o => relation.holds o
    | none => false

/-! ## Order -/

/-- A key of an order whose column is found. -/
structure RowKey where
  column : Reference
  descending : Bool

/-- Finds the column of a key in a table. -/
def RowKey.ofSortKey (layout : Layout) (key : SortKey) : RowKey :=
  ⟨layout.resolve key.field, key.descending⟩

/-- The order of two rows by one key. -/
def compareBy (key : RowKey) (x y : Row) : Ordering :=
  let o := (x.read key.column).compare (y.read key.column)
  if key.descending then o.swap else o

/-- The order of two rows by several keys, the first that tells them apart. -/
def compareByAll (keys : List RowKey) (x y : Row) : Ordering :=
  match keys with
  | [] => .eq
  | key :: rest => (compareBy key x y).then (compareByAll rest x y)

def sortRows (keys : List RowKey) (rows : List Row) : List Row :=
  rows.mergeSort fun x y => compareByAll keys x y ≠ .gt

/-! ## Windows and columns -/

/-- The rows after a number of them, up to a limit; a negative limit is none. -/
def window (skip : Int) (limit : Option Int) (rows : List Row) : List Row :=
  let rest := rows.drop skip.toNat
  match limit with
  | some n => if n < 0 then rest else rest.take n.toNat
  | none => rest

/-- The numbers of a window as they are bound. -/
def bindWindow (skip : Int) (limit : Option Int) : Except Failure (Int × Option Int) :=
  let skip := min skip Number.greatestWord
  match limit with
  | some n =>
    let n := min n Number.greatestWord
    if Number.fitsWord n && Number.fitsWord skip then .ok (skip, some n) else .error .outOfRange
  | none => if Number.fitsWord skip then .ok (skip, none) else .error .outOfRange

/-- The fields that a selection shows: the identity and the fields wanted, or all fields. -/
def columns (c : Collection) (projection : Option (List String)) (includeHidden : Bool) :
    List String :=
  let available := if includeHidden then c.fieldNames else c.visibleFields
  match projection with
  | none => available
  | some fields => fields.foldl (fun shown f =>
      if available.contains f && !shown.contains f then shown ++ [f] else shown) ["id"]

/-- A column that is shown: its title, and what stands under it. -/
structure Shown where
  title : String
  reference : Reference

/-- The columns that are shown for fields: of those with the same title one, and of those whose titles
are the same name all show what the first of them stands for. -/
def Layout.shown (l : Layout) (fields : List String) : List Shown :=
  let all := fields.map fun f => Shown.mk (l.title f) (l.resolve f)
  let different := all.foldl (fun kept s =>
    if kept.any (·.title = s.title) then kept else kept ++ [s]) []
  different.map fun s =>
    { s with reference := match different.find? fun t => sameName t.title s.title with
        | some t => t.reference
        | none => s.reference }

/-- The value of a field as it is returned; flags are told by whether the cell counts as true. -/
def shown (c : Collection) (field : String) (cell : Cell) : Datum :=
  if c.kind? field = some .flag && !cell.isNull then .bool cell.isTruthy else cell.toDatum

/-- The record of a row. -/
def recordOf (c : Collection) (columns : List Shown) (row : Row) : Record :=
  columns.map fun s => (s.title, shown c s.title (row.read s.reference))

/-- The rows of a table that pass all tests. -/
def Table.matching (t : Table) (tests : List Test) : List Row :=
  t.rows.filter fun row => tests.all (Test.holds t.layout row)

namespace Selection

/-- How many parameters the window of a selection takes. -/
def windowParameters (s : Selection) : Nat :=
  if s.limit.isSome then 2 else if s.skip = 0 then 0 else 1

/-- What the statement of a selection with compiled conditions holds. -/
def statement (s : Selection) (c : Collection) (clauses : List Clause) : Statement where
  table := c.name
  columns := columns c s.projection s.includeHidden
  clauses
  order := c.orderKeys s.sort
  window := s.windowParameters

end Selection

namespace Database

/-- The records of a selection whose conditions are compiled; it has to show something, in some
order. -/
def select (db : Database) (c : Collection) (clauses : List Clause) (s : Selection) :
    Except Failure (List Record) := do
  let statement := s.statement c clauses
  statement.check
  if statement.columns.isEmpty || statement.order.isEmpty then throw .unavailable
  let t ← db.readableTable c.name
  let tests ← clauses.mapM (Test.ofClause t.layout)
  let (skip, limit) ← bindWindow s.skip s.limit
  let keys := statement.order.map (RowKey.ofSortKey t.layout)
  let rows := sortRows keys (t.matching tests)
  return (window skip limit rows).map (recordOf c (t.layout.shown statement.columns))

/-- Whether a name means the number of records that is counted, since no column has it. -/
def meansCount (layout : Layout) (written : String) : Bool :=
  match layout.resolve written with
  | .literal name => sameName name "count"
  | _ => false

/-- How many records satisfy compiled conditions, which cannot depend on that number itself. -/
def count (db : Database) (c : Collection) (clauses : List Clause) : Except Failure Nat := do
  let statement : Statement := { table := c.name, clauses }
  statement.check
  let t ← db.readableTable c.name
  if statement.names.any (meansCount t.layout) then throw .unavailable
  let tests ← clauses.mapM (Test.ofClause t.layout)
  return (t.matching tests).length

end Database
end SchoolCatalog.Store
