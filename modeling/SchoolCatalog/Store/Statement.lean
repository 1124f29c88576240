import SchoolCatalog.Failure
import SchoolCatalog.Query.Condition
import SchoolCatalog.Store.Name

/-!
# What a statement may hold

A statement can be run if its names can be written down in it and it keeps within
bounds: on the number of its columns, of the keys of its order and of its parameters, and on how
deeply its conditions are nested. Each condition is joined to those before it, which nests them one
deeper.
-/

namespace SchoolCatalog.Store

/-- How deeply an expression is nested, and whether it is one that never holds. -/
structure Nesting where
  depth : Nat
  never : Bool

namespace Nesting

def ofClause : Clause → Nesting
  | .never => ⟨1, true⟩
  | .among _ candidates => ⟨if candidates.length = 1 then 3 else 2, false⟩
  | .differs _ _ => ⟨3, false⟩
  | .compares _ _ _ => ⟨2, false⟩

/-- The nesting of two joined expressions; what never holds stands for the whole. -/
def join (x y : Nesting) : Nesting :=
  if x.never || y.never then ⟨1, true⟩ else ⟨max x.depth y.depth + 1, false⟩

def greatestDepth : Nat := 1000

/-- Whether an expression stays within bounds while clauses are joined to it. -/
def staysShallow (x : Nesting) : List Clause → Bool
  | [] => x.depth ≤ greatestDepth
  | clause :: rest => x.depth ≤ greatestDepth && (x.join (ofClause clause)).staysShallow rest

end Nesting

/-- Whether clauses can be joined. -/
def canJoin : List Clause → Bool
  | [] => true
  | clause :: rest => (Nesting.ofClause clause).staysShallow rest

/-- The column that a clause names. -/
def columnOf? : Clause → Option String
  | .never => none
  | .among column _ => column
  | .differs column _ => column
  | .compares column _ _ => column

/-- The parts of a statement that decide whether it can be run. -/
structure Statement where
  table : String
  /-- The columns that are shown or written. -/
  columns : List String := []
  clauses : List Clause := []
  order : List SortKey := []
  /-- How many parameters the window takes. -/
  window : Nat := 0

namespace Statement

/-- All columns that a statement names. -/
def names (s : Statement) : List String :=
  s.columns ++ s.clauses.filterMap columnOf? ++ s.order.map (·.field)

def greatestWidth : Nat := 2000

def greatestParameters : Nat := 250000

/-- Whether a statement keeps within all bounds. -/
def keepsBounds (s : Statement) : Bool :=
  s.columns.length ≤ greatestWidth && s.order.length ≤ greatestWidth && canJoin s.clauses &&
    (s.clauses.map fun clause => clause.parameters.length).foldl (· + ·) s.window ≤
      greatestParameters

/-- Refuses a statement that cannot be written down; one with a NUL in it is not even looked at. -/
def check (s : Statement) : Except Failure Unit :=
  if !(s.table :: s.names).all isStatable then .error .unbindable
  else if s.names.all isQuotable && s.keepsBounds then .ok ()
  else .error .unavailable

end Statement
end SchoolCatalog.Store
