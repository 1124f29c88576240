import SchoolCatalog.Failure
import SchoolCatalog.Form.View
import SchoolCatalog.Http.FormBody
import SchoolCatalog.Json.Encoding
import SchoolCatalog.Json.Parser

/-!
# Requests and replies

What a request carries and what is answered. Headers and body of a request are bytes; a header reads
as a text byte by byte. The body is read only by endpoints that want one.
-/

namespace SchoolCatalog.Http

structure Request where
  method : String
  path : String
  query : String := ""
  authorization : Option Bytes := none
  contentType : Option Bytes := none
  body : Bytes := []

/-- What stands in the body of a reply. -/
inductive Body where
  | empty
  | json (value : Datum)
  | text (value : String)

/-- Why a request was broken off without an answer of its own. -/
inductive Escape where
  | failure (failure : Failure)
  | misfit
  | unprintable

structure Reply where
  status : Nat
  body : Body
  location : Option String := none
  allow : Option String := none
  authenticate : Option String := none
  escaped : Option Escape := none

namespace Reply

/-- An error that is told to the caller. -/
def error (status : Nat) (text : String) : Reply where
  status := status
  body := .json (.dict [("success", .bool false), ("error", .text text)])

/-- A refusal of a caller who is not known. -/
def unauthenticated (text : String) : Reply :=
  { error 401 text with authenticate := some "Bearer" }

/-- The end of a request that was broken off. -/
def broken (escape : Escape) : Reply where
  status := 500
  body := .text "Internal Server Error"
  escaped := some escape

def ofFailure (failure : Failure) : Reply := error failure.status.1 failure.status.2

/-- One line for each issue of a request. -/
def issueText (i : Form.Issue) : String :=
  if i.location.isEmpty then i.fault.message
  else ".".intercalate i.location ++ ": " ++ i.fault.message

def ofIssues (issues : List Form.Issue) : Reply :=
  error 400 (", ".intercalate (issues.map issueText))

end Reply

/-! ## Bodies -/

/-- What an endpoint finds in a body. -/
inductive Payload where
  | absent
  | value (value : Datum)
  | unread
  | fields (fields : FormFields)

/-- Whether a content type says that a body is JSON. -/
def isJsonType (contentType : String) : Bool :=
  let essence := Text.lower (Text.trim (Text.cut ';' contentType).1)
  match Text.split '/' essence with
  | ["application", sub] => sub = "json" || sub.endsWith "+json"
  | _ => false

/-- The reply to a body that cannot be read at all. -/
def unreadableBody : Reply := .error 400 FormFault.unreadable.message

/-- Reads the value that a body is the JSON form of; a body that is no JSON text is answered at
once. -/
def Payload.ofJson (body : Bytes) : Except Reply Payload :=
  match ((Json.Encoding.lenient body).decode? body).map Json.parseWording with
  | some (.ok d) => .ok (.value d)
  | some (.error (.malformed offset)) =>
    .error (.error 400 (toString offset ++ ": JSON decode error"))
  | _ => .error unreadableBody

/-- Reads the body of a request that should hold a value. -/
def Payload.ofRequest (request : Request) : Except Reply Payload :=
  if request.body.isEmpty then .ok .absent
  else if isJsonType (Bytes.toLatin1 (request.contentType.getD [])) then ofJson request.body
  else .ok .unread

/-- Reads the body of a request that should hold the fields of a form. -/
def Payload.ofForm (request : Request) : Except Reply Payload :=
  match formFields (request.contentType.map Bytes.toLatin1) request.body with
  | .ok found => .ok (.fields found)
  | .error fault => .error (.error 400 fault.message)

/-- Reads a form from a payload. -/
def Payload.read {α : Type} (p : Payload) (reader : Record → Form.Checked α) : Form.Checked α :=
  match p with
  | absent => .fault .missing
  | value d => Form.entriesOr .notFields reader d
  | _ => .fault .notFields

end SchoolCatalog.Http
