import SchoolCatalog.Datum.Basic
import SchoolCatalog.Number.Reading
import SchoolCatalog.Text.Case

/-!
# Collections

A collection names a table and the fields that requests may speak of, with the kind of each. Hidden
fields are stored but never returned. A request's text is turned into a value of the field's kind;
text that does not read as one is compared as it stands.
-/

namespace SchoolCatalog

/-- The kind of a field. -/
inductive Kind where
  | integer
  | number
  | flag
  | text
  deriving DecidableEq, Inhabited

/-- One key of an order. -/
structure SortKey where
  field : String
  descending : Bool
  deriving DecidableEq, Inhabited

/-- A table as requests see it. -/
structure Collection where
  name : String
  fields : List (String × Kind)
  hidden : List String := []
  defaultSort : List SortKey := [⟨"created_at", true⟩]
  deriving DecidableEq, Inhabited

namespace SortKey

/-- Reads a key: a minus in front sorts descending, plus signs in front are dropped. -/
def parse (token : String) : SortKey :=
  match (Text.trim token).toList with
  | '-' :: rest => ⟨String.ofList rest, true⟩
  | cs => ⟨String.ofList (cs.dropWhile (· == '+')), false⟩

end SortKey

namespace Collection

def kind? (c : Collection) (field : String) : Option Kind := c.fields.lookup field

def hasField (c : Collection) (field : String) : Bool := (c.kind? field).isSome

def isHidden (c : Collection) (field : String) : Bool := c.hidden.contains field

def fieldNames (c : Collection) : List String := c.fields.map (·.1)

def visibleFields (c : Collection) : List String := c.fieldNames.filter fun f => !c.isHidden f

/-- Whether a filter on the field looks at stored values. -/
def isQueryable (c : Collection) (field : String) : Bool := c.hasField field && !c.isHidden field

end Collection

namespace Kind

/-- The value of this kind that a text reads as, blanks at its ends apart; the text itself if it reads
as none. -/
def coerceText (kind : Kind) (raw : String) : Datum :=
  match kind with
  | text => .text raw
  | flag =>
    let word := Text.lower (Text.trim raw)
    if word = "true" || word = "1" || word = "yes" then .bool true
    else if word = "false" || word = "0" || word = "no" then .bool false
    else .text raw
  | integer =>
    match Number.readInteger (Text.trim raw) with
    | .ok i => .int i
    | .error _ => match Number.readNumber? (Text.trim raw) with
      | some x => .real x
      | none => .text raw
  | number =>
    match Number.readNumber? (Text.trim raw) with
    | some x => .real x
    | none => .text raw

end Kind

/-- Turns a request's value into one of the field's kind; values that are no text, and values of
undeclared fields, stay as they are. -/
def Collection.coerce (c : Collection) (field : String) (raw : Datum) : Datum :=
  match c.kind? field, raw with
  | some kind, .text s => kind.coerceText s
  | _, other => other

end SchoolCatalog
