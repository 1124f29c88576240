import SchoolCatalog.Query.Condition
import SchoolCatalog.Number.Word
import SchoolCatalog.Settings

/-!
# List requests

The parameters of a list request: `select`, `sort`, `page` and `limit` are reserved, every other
key filters on a field, either as `field[operator]` or as `field` with an optional `operator:` in
front of the value. Reading is lenient: an unknown operator is part of the text, and a page or limit
out of range falls back to the default.
-/

namespace SchoolCatalog

/-- The value of a parameter: one text, or several. -/
inductive Parameter where
  | one (value : String)
  | many (values : List String)
  deriving DecidableEq, Inhabited

namespace Parameter

def values : Parameter → List String
  | one s => [s]
  | many ss => ss

/-- The value that counts where only one can. -/
def last (p : Parameter) : String := p.values.getLast?.getD ""

end Parameter

abbrev Parameters := List (String × Parameter)

namespace Parameters

/-- Adds a value under a key; a key that stands already keeps its place. -/
def add (params : Parameters) (key value : String) : Parameters :=
  match params with
  | [] => [(key, .one value)]
  | (k, p) :: rest =>
    if k = key then (k, .many (p.values ++ [value])) :: rest else (k, p) :: add rest key value

/-- Writes the value of a key; a key that stands already keeps its place. -/
def put (params : Parameters) (key : String) (value : Parameter) : Parameters :=
  match params with
  | [] => [(key, value)]
  | (k, p) :: rest => if k = key then (k, value) :: rest else (k, p) :: put rest key value

/-- The parameters of a list of entries, of which the last of each key counts. -/
def ofEntries (entries : List (String × Parameter)) : Parameters :=
  entries.foldl (fun params (key, value) => put params key value) []

/-- The parameters of a list of pairs; values of repeated keys are gathered. -/
def ofPairs (pairs : List (String × String)) : Parameters :=
  pairs.foldl (fun params (key, value) => add params key value) []

end Parameters

/-- A parsed list request. -/
structure ListRequest where
  conditions : List Condition := []
  projection : Option (List String) := none
  sort : List SortKey := []
  page : Int := 1
  limit : Int := 25

namespace ListRequest

/-- How many records precede the page. -/
def skip (r : ListRequest) : Int := min ((r.page - 1) * r.limit) Number.greatestWord

/-- The non-empty pieces of a comma-separated text, without blanks at their ends. -/
def splitList (s : String) : List String :=
  ((Text.split ',' s).map Text.trim).filter fun piece => !piece.isEmpty

/-- A positive integer within the store's range, else the default. -/
def positiveOr (default : Int) : Option Parameter → Int
  | none => default
  | some p => match Number.readInteger (Text.trim p.last) with
    | .ok n => if 0 < n && n ≤ Number.greatestWord then n else default
    | .error _ => default

/-- A key of the form `field[operator]`, which may be followed by one line end. -/
def bracketKey? (key : String) : Option (String × String) :=
  let isBracket (c : Char) : Bool := c == '[' || c == ']'
  let cs := key.toList
  let field := cs.takeWhile fun c => !isBracket c
  match cs.dropWhile fun c => !isBracket c with
  | '[' :: rest =>
    let operator := rest.takeWhile fun c => !isBracket c
    let tail := rest.dropWhile fun c => !isBracket c
    if !field.isEmpty && (tail = [']'] || tail = [']', '\n']) then
      some (String.ofList field, String.ofList operator)
    else none
  | _ => none

/-- The value that an operator compares with: for `in`, the pieces of a list. -/
def operand (c : Collection) (field : String) (operator : Operator) (raw : String) : Datum :=
  match operator with
  | .oneOf => .list ((splitList raw).map fun piece => c.coerce field (.text piece))
  | _ => c.coerce field (.text raw)

/-- One value of a plain key: a condition if an operator stands in front, else a literal. -/
def readPlain (c : Collection) (field raw : String) : Condition ⊕ Datum :=
  match Text.cut ':' raw with
  | (before, some after) => match Operator.parse? before with
    | some operator => .inl ⟨field, operator, operand c field operator after⟩
    | none => .inr (c.coerce field (.text raw))
  | (_, none) => .inr (c.coerce field (.text raw))

/-- The condition that literals of one key make together: they are alternatives. -/
def literalConditions (field : String) : List Datum → List Condition
  | [] => []
  | [d] => [⟨field, .eq, d⟩]
  | ds => [⟨field, .oneOf, .list ds⟩]

/-- The conditions of one filter parameter. -/
def filter (c : Collection) (key : String) (value : Parameter) : List Condition :=
  match bracketKey? key with
  | some (field, token) => match Operator.parse? token with
    | some operator => value.values.map fun raw => ⟨field, operator, operand c field operator raw⟩
    | none => value.values.map fun raw => ⟨field, .eq, .text raw⟩
  | none =>
    let read := value.values.map (readPlain c key)
    literalConditions key (read.filterMap fun
      | .inr d => some d
      | .inl _ => none) ++
    read.filterMap fun
      | .inl cond => some cond
      | .inr _ => none

/-- The page size of a request that names none: the one asked for unless it is zero, else that of the
settings. -/
def defaultLimit (settings : Settings) (asked : Option Int) : Int :=
  match asked with
  | some n => if n = 0 then settings.defaultPageLimit else n
  | none => settings.defaultPageLimit

def reserved : List String := ["select", "sort", "page", "limit"]

/-- Reads the parameters of a list request. -/
def parse (c : Collection) (params : Parameters) (defaultLimit : Int) : ListRequest :=
  let selected (p : Parameter) : List String :=
    (splitList p.last).filter fun f => c.hasField f && !c.isHidden f
  let sortKeys := match params.lookup "sort" with
    | some p => ((splitList p.last).map SortKey.parse).filter fun key => c.hasField key.field
    | none => []
  { conditions := params.flatMap fun (key, value) =>
      if reserved.contains key then [] else filter c key value
    projection := (params.lookup "select").map selected
    sort := if sortKeys.isEmpty then c.defaultSort else sortKeys
    page := positiveOr 1 (params.lookup "page")
    limit := positiveOr defaultLimit (params.lookup "limit") }

end ListRequest

/-- A page and its size, as a link names them. -/
structure PageLink where
  page : Int
  limit : Int
  deriving DecidableEq

/-- The links around a page: the next one if more records follow, the one before unless it is the
first. -/
structure Pagination where
  next : Option PageLink
  prev : Option PageLink
  deriving DecidableEq

def Pagination.around (page limit total : Int) : Pagination where
  next := if page * limit < total then some ⟨page + 1, limit⟩ else none
  prev := if 1 < page then some ⟨page - 1, limit⟩ else none

end SchoolCatalog
