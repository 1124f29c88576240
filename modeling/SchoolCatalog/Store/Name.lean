import SchoolCatalog.Text.Blank

/-!
# Names in statements

A statement names a column between quotes, within which a quote is written twice, and a table as it
stands, which may be quoted itself and may name the database first. Names are the same if they
differ in the case of ASCII letters alone.
-/

namespace SchoolCatalog.Store

/-- A name without the case of its ASCII letters. -/
def plainName (name : String) : List Char := name.toList.map Char.toLower

/-- Whether two names are the same name. -/
def sameName (x y : String) : Bool := plainName x = plainName y

/-- The marks between which the name of a table may stand. -/
def nameMarks : List (Char × Char) := [('"', '"'), ('\'', '\''), ('[', ']'), ('\x60', '\x60')]

/-- A name without the marks around it, if it stands between some that do not occur within it. -/
def withoutMarks (written : List Char) : List Char :=
  let inner := (written.drop 1).dropLast
  let isMarked : Char × Char → Bool := fun (first, last) =>
    2 ≤ written.length && written.head? = some first && written.getLast? = some last &&
      !inner.contains first && !inner.contains last
  if nameMarks.any isMarked then inner else written

/-- A table's name as it is understood, without the blanks and marks around it and without the name of
the database in front. -/
def tableName (written : String) : String :=
  let trimmed := Text.trimList Text.isAsciiSpace written.toList
  let namesDatabase := (trimmed.take 5).map Char.toLower = ['m', 'a', 'i', 'n', '.']
  String.ofList (withoutMarks (if namesDatabase then trimmed.drop 5 else trimmed))

/-- Whether every quote is written twice. -/
def quotesDoubled : List Char → Bool
  | [] => true
  | '"' :: '"' :: rest => quotesDoubled rest
  | c :: rest => c ≠ '"' && quotesDoubled rest

/-- A text in which each pair of quotes is one quote. -/
def withSingleQuotes : List Char → List Char
  | [] => []
  | '"' :: '"' :: rest => '"' :: withSingleQuotes rest
  | c :: rest => c :: withSingleQuotes rest

/-- The name that is meant by what stands between the quotes. -/
def columnName (written : String) : String := String.ofList (withSingleQuotes written.toList)

/-- Whether a text can stand in a statement at all. -/
def isStatable (written : String) : Bool := !written.toList.contains '\x00'

/-- Whether a text can stand between quotes as one name. -/
def isQuotable (written : String) : Bool := quotesDoubled written.toList

end SchoolCatalog.Store
