import SchoolCatalog.Catalog.Collection

/-!
# Conditions and their compiled form

A condition compares a field with a value. Compiling a list of conditions gives a list of clauses,
from which the text of a statement and the list of its parameters are read off: only names of
declared visible fields reach the text, every value is a parameter. A field that is hidden or not
declared is compiled as NULL, which only "different from" matches.
-/

namespace SchoolCatalog

/-- How a condition compares. -/
inductive Operator where
  | eq
  | ne
  | gt
  | gte
  | lt
  | lte
  | oneOf
  deriving DecidableEq, Inhabited

namespace Operator

/-- The name of an operator in requests. -/
def name : Operator → String
  | eq => "eq"
  | ne => "ne"
  | gt => "gt"
  | gte => "gte"
  | lt => "lt"
  | lte => "lte"
  | oneOf => "in"

def all : List Operator := [eq, ne, gt, gte, lt, lte, oneOf]

/-- The operator of a name, in any case and with blanks around it. -/
def parse? (token : String) : Option Operator :=
  let word := Text.lower (Text.trim token)
  all.find? fun op => op.name = word

end Operator

/-- A field compared with a value; for `in`, with a list of candidates. -/
structure Condition where
  field : String
  operator : Operator
  value : Datum

/-- The order relations of a clause. -/
inductive Relation where
  | equal
  | greater
  | greaterEqual
  | less
  | lessEqual
  deriving DecidableEq

namespace Relation

def sign : Relation → String
  | equal => "="
  | greater => ">"
  | greaterEqual => ">="
  | less => "<"
  | lessEqual => "<="

/-- Whether an order satisfies the relation. -/
def holds : Relation → Ordering → Bool
  | equal, o => o = .eq
  | greater, o => o = .gt
  | greaterEqual, o => o ≠ .lt
  | less, o => o = .lt
  | lessEqual, o => o ≠ .gt

end Relation

/-- A compiled condition; the column is absent where the field may not be looked at. -/
inductive Clause where
  | never
  | among (column : Option String) (candidates : List Datum)
  | differs (column : Option String) (value : Datum)
  | compares (column : Option String) (relation : Relation) (value : Datum)

namespace Clause

def columnText : Option String → String
  | some column => "\"" ++ column ++ "\""
  | none => "NULL"

/-- The text of a clause, with a question mark for each parameter. -/
def text : Clause → String
  | never => "0"
  | among column candidates =>
    columnText column ++ " IN (" ++ ", ".intercalate (candidates.map fun _ => "?") ++ ")"
  | differs column _ =>
    "(" ++ columnText column ++ " IS NULL OR " ++ columnText column ++ " != ?)"
  | compares column relation _ => columnText column ++ " " ++ relation.sign ++ " ?"

/-- The parameters of a clause. -/
def parameters : Clause → List Datum
  | never => []
  | among _ candidates => candidates
  | differs _ value => [value]
  | compares _ _ value => [value]

end Clause

/-- The candidates that a value of `in` lists; a text lists its characters, and other single values
list nothing at all. -/
def candidates? : Datum → Option (List Datum)
  | .list items => some items
  | .text s => some (s.toList.map fun c => .text c.toString)
  | .broken points => some (points.map fun n => .ofWording (.ofPoints [n]))
  | .bytes b => some (b.map fun x => .int x.toNat)
  | .dict entries => some (entries.map fun (n, _) => .text n)
  | _ => none

/-- The clause of a condition, none if `in` is given a value that lists nothing. -/
def Condition.clause? (c : Collection) (cond : Condition) : Option Clause :=
  let column := if c.isQueryable cond.field then some cond.field else none
  match cond.operator with
  | .oneOf => (candidates? cond.value).map fun candidates =>
    if candidates.isEmpty then .never else .among column candidates
  | .ne => some (.differs column cond.value)
  | .eq => some (.compares column .equal cond.value)
  | .gt => some (.compares column .greater cond.value)
  | .gte => some (.compares column .greaterEqual cond.value)
  | .lt => some (.compares column .less cond.value)
  | .lte => some (.compares column .lessEqual cond.value)

/-- The clauses of a list of conditions, all of which have to hold. -/
def Condition.clauses? (c : Collection) (conditions : List Condition) : Option (List Clause) :=
  conditions.mapM (Condition.clause? c)

/-- The text that a list of clauses adds to a statement. -/
def Clause.whereText (clauses : List Clause) : String :=
  if clauses.isEmpty then "" else " WHERE " ++ " AND ".intercalate (clauses.map Clause.text)

/-- The keys of an order that the collection declares; ties are broken by identity. -/
def Collection.orderKeys (c : Collection) (sort : List SortKey) : List SortKey :=
  (sort.filter fun key => c.hasField key.field) ++
    (if sort.any fun key => key.field = "id" then [] else [⟨"id", false⟩])

/-- The text that an order adds to a statement. -/
def Collection.orderText (c : Collection) (sort : List SortKey) : String :=
  " ORDER BY " ++ ", ".intercalate ((c.orderKeys sort).map fun key =>
    "\"" ++ key.field ++ "\" " ++ (if key.descending then "DESC" else "ASC"))

end SchoolCatalog
