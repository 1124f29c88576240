import SchoolCatalog.Form.View
import SchoolCatalog.Json.Parser
import SchoolCatalog.Failure

/-!
# Payloads

Forms that arrive as JSON text.
-/

namespace SchoolCatalog.Form

/-- The value of a JSON text. -/
def parseText (s : String) : Except Failure Datum :=
  (Json.parse s).mapError fun
    | .malformed _ => .malformed
    | .tooDeep => .tooDeep
    | .integerTooLong digits => .refused (.longInteger digits)

/-- Reads a form from a JSON text. -/
def ofText {α : Type} (kind : FormKind) (reader : Record → Checked α) (s : String) :
    Except Failure α := do
  let d ← parseText s
  match entriesOr kind.fault reader d with
  | .ok a => .ok a
  | .bad issues => .error (.invalid issues)

/-- All fields of a form that a JSON text gives, and those that it gives itself and not as null. -/
def FormKind.checkText (kind : FormKind) (s : String) : Except Failure (Record × Record) := do
  let d ← parseText s
  (kind.check d).mapError .invalid

end SchoolCatalog.Form
