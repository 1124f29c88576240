import SchoolCatalog.Store.Layout

/-!
# Declarations

The text by which a table or an index is declared: the identity, the columns with their kinds and
rules, and the tables whose rows are named. Groups of several columns in which rows differ are
declared by an index.
-/

namespace SchoolCatalog.Store

/-- The word for a kind of column; a column of instants has the only numeric one. -/
def Affinity.word : Affinity → String
  | integer => "INTEGER"
  | real => "REAL"
  | numeric => "TIMESTAMP"
  | text => "TEXT"
  | anything => ""

namespace Column

/-- What a column holds if nothing is given for it. -/
def defaultText (c : Column) : Option String :=
  match c.default, c.affinity with
  | .text s, _ => some ("'" ++ s ++ "'")
  | .int i, _ => some (toString i)
  | _, .numeric => some "CURRENT_TIMESTAMP"
  | _, _ => none

/-- The declaration of a column; a range of values stands on a line of its own after a default. -/
def declaration (unique : Bool) (c : Column) : String :=
  c.name ++ " " ++ c.affinity.word ++ (if c.required then " NOT NULL" else "") ++
    (if unique then " UNIQUE" else "") ++
    (match c.defaultText with
      | some text => " DEFAULT " ++ text
      | none => "") ++
    (match c.check with
      | some check => (if c.defaultText.isSome then "\n                " else " ") ++
        "CHECK (" ++ check.text c.name ++ ")"
      | none => "")

end Column

namespace Layout

/-- The declaration of a table of the catalog. -/
def declaration (l : Layout) : String :=
  let identity := l.key.toList.map fun key => key ++ " INTEGER PRIMARY KEY AUTOINCREMENT"
  let columns := l.columns.map fun c => c.declaration (l.unique.contains [c.name])
  let parents := l.parents.map fun (column, parent) =>
    "FOREIGN KEY(" ++ column ++ ") REFERENCES " ++ parent ++ "(id) ON DELETE CASCADE"
  "CREATE TABLE " ++ l.name ++ " (\n            " ++
    ",\n            ".intercalate (identity ++ columns ++ parents) ++ "\n        )"

/-- The names of the indices that come with a table, one for each column in which rows differ. -/
def ownIndices (l : Layout) : List String :=
  (l.unique.filter fun columns => columns.length = 1).zipIdx.map fun (_, i) =>
    "sqlite_autoindex_" ++ l.name ++ "_" ++ toString (i + 1)

end Layout

/-- The declaration of an index. -/
def Index.declaration (i : Index) : String :=
  "CREATE " ++ (if i.unique then "UNIQUE " else "") ++ "INDEX " ++ i.name ++ " ON " ++ i.table ++
    "(" ++ ", ".intercalate i.columns ++ ")"

/-- A table or an index of a database as it is listed there. -/
structure Listed where
  kind : String
  name : String
  table : String
  declaration : Option String

namespace Listed

def ofIndex (i : Index) : Listed := ⟨"index", i.name, i.table, some i.declaration⟩

/-- A table of the catalog with the indices that come with it. -/
def ofLayout (l : Layout) : List Listed :=
  ⟨"table", l.name, l.name, some l.declaration⟩ ::
    l.ownIndices.map fun name => ⟨"index", name, l.name, none⟩

def migrations : Listed :=
  ⟨"table", "migrations", "migrations", some "CREATE TABLE migrations (version INTEGER PRIMARY KEY)"⟩

def sequences : Listed :=
  ⟨"table", "sqlite_sequence", "sqlite_sequence", some "CREATE TABLE sqlite_sequence(name,seq)"⟩

/-- What is listed as the `n`-th, counted from zero: its place follows the one of the list itself. -/
def cells (entry : Listed) (n : Nat) : List (String × Cell) :=
  [("type", .text entry.kind), ("name", .text entry.name), ("tbl_name", .text entry.table),
    ("rootpage", .int (n + 2)),
    ("sql", match entry.declaration with
      | some text => .text text
      | none => .null)]

end Listed
end SchoolCatalog.Store
