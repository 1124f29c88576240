import SchoolCatalog.Http.Guard
import SchoolCatalog.Service.Schools
import SchoolCatalog.Service.Courses
import SchoolCatalog.Service.Reviews
import SchoolCatalog.Service.Accounts

/-!
# Answering requests

A request is routed, its body is read if the endpoint wants one, the caller is let in or refused,
path and body are checked together, and then the endpoint's operation is carried out. Failures of
the operation are answered; what fails outside it breaks the request off.
-/

namespace SchoolCatalog.Http

open Form

/-! ## Answers -/

/-- What an endpoint answers with. -/
inductive Answer where
  | page (envelope : Record)
  | one (status : Nat) (view : List ViewField) (record : Record)
  | counted (view : List ViewField) (records : List Record)
  | removed
  | named (name : Wording)
  | token (status : Nat) (text : String)
  | refused (reply : Reply)

mutual

/-- A value as it stands in a reply: bytes as the text that they are, numbers that JSON cannot hold
as null. -/
def printable? : Datum → Option Datum
  | .bytes b => (Bytes.toText? b).map .text
  | .broken _ => none
  | .real x => some (if x.isFinite then .real x else .null)
  | .list items => (printableItems? items).map .list
  | .dict entries => (printableEntries? entries).map .dict
  | d => some d

def printableItems? : List Datum → Option (List Datum)
  | [] => some []
  | d :: ds => match printable? d, printableItems? ds with
    | some d, some ds => some (d :: ds)
    | _, _ => none

def printableEntries? : List (String × Datum) → Option (List (String × Datum))
  | [] => some []
  | (n, d) :: es => match printable? d, printableEntries? es with
    | some d, some es => some ((n, d) :: es)
    | _, _ => none

end

/-- A reply with a body. -/
def replyWith (status : Nat) (body : Record) : Reply :=
  match printable? (.dict body) with
  | some d => { status, body := .json d }
  | none => .broken .unprintable

/-- The records as a view shows them, if all of them fit. -/
def viewed (view : List ViewField) (records : List Record) : Option (List Datum) :=
  records.mapM fun r => match readView view r with
    | .ok shown => some (.dict shown)
    | .bad _ => none

def Answer.reply : Answer → Reply
  | page envelope => replyWith 200 envelope
  | one status view record => match viewed view [record] with
    | some [d] => replyWith status [("success", .bool true), ("data", d)]
    | _ => .broken .misfit
  | counted view records => match viewed view records with
    | some ds =>
      replyWith 200 [("success", .bool true), ("count", .int ds.length), ("data", .list ds)]
    | none => .broken .misfit
  | removed => replyWith 200 [("success", .bool true), ("data", .dict [])]
  | named name => replyWith 200 [("success", .bool true), ("data", .ofWording name)]
  | token status text =>
    replyWith status
      [("success", .bool true), ("access_token", .text text), ("token_type", .text "bearer")]
  | refused reply => reply

/-! ## Endpoints -/

/-- What an endpoint is given: the parameters of the path, those of the query, and the body. -/
structure Input where
  path : List (String × String)
  query : Parameters
  payload : Payload

namespace Input

/-- A parameter of the path, read as what the endpoint asks for. -/
def pathValue {α : Type} (input : Input) (name : String) (reader : Reader α) : Checked α :=
  ((reader (.text ((input.path.lookup name).getD ""))).under name).under "path"

def id (input : Input) (name : String) : Checked Datum :=
  .int <$> input.pathValue name whole

/-- The file that the field `file` of a form holds; an empty text is none, nor is an empty file
without a name one. -/
def file (input : Input) : Checked (Option FilePart) :=
  match input.payload with
  | .fields fields => match fields.reverse.lookup (.proper "file") with
    | some (.file part) =>
      .ok (if part.filename.isEmpty && part.content.isEmpty then none else some part)
    | some (.text value) =>
      if value.isEmpty then .ok none else (Checked.fault .notFile).under "file"
    | none => .ok none
  | _ => .ok none

end Input

/-- Whether an endpoint wants a value in the body. -/
def Endpoint.wantsValue : Endpoint → Bool
  | register | login | createAccount | updateAccount | createSchool | updateSchool => true
  | createCourse | updateCourse | createReview | updateReview => true
  | _ => false

/-- A token for an account. -/
def issue (user : Record) : Service String := do
  let around ← read
  let claims : Record := [("sub", .text (Record.field user "id").display)]
  Service.ofExcept (Token.create around.settings around.now claims none)

/-- The answer of an operation; its failure is answered as well. -/
def answering {α : Type} (operation : Service α) (answer : α → Service Answer) :
    Service Answer := do
  match ← Service.attempt operation with
  | .ok a => answer a
  | .error failure => return .refused (.ofFailure failure)

def answeringWith {α : Type} (operation : Service α) (answer : α → Answer) : Service Answer :=
  answering operation fun a => return answer a

/-- Registers a person and logs them in. -/
def registering (draft : AccountDraft) : Service Answer :=
  answering (Accounts.register draft) fun user => return .token 201 (← issue user)

/-- Logs a person in; a failure breaks the request off. -/
def loggingIn (credentials : Credentials) : Service Answer := do
  match ← Accounts.authenticate credentials.email credentials.password with
  | some user => return .token 200 (← issue user)
  | none => return .refused (.error 401 "Invalid credentials")

def storingPhoto (id : Datum) (part : Option FilePart) (caller : Caller) : Service Answer :=
  match part with
  | none => return .refused (.error 400 "Please upload a file")
  | some part =>
    answeringWith (Schools.uploadPhoto id (some part.filename) part.contentType part.content caller)
      .named

/-- What an endpoint does with its input, once path and body are found right. -/
def Endpoint.act (endpoint : Endpoint) (input : Input) (caller : Caller) :
    Checked (Service Answer) :=
  match endpoint with
  | register => registering <$> input.payload.read (AccountDraft.read openRoles)
  | login => loggingIn <$> input.payload.read Credentials.read
  | me => pure (answeringWith (Accounts.get caller.id) (.one 200 accountView))
  | listAccounts => pure (answeringWith (Accounts.list input.query) .page)
  | getAccount =>
    (fun id => answeringWith (Accounts.get id) (.one 200 accountView)) <$> input.id "user_id"
  | createAccount =>
    (fun draft => answeringWith (Accounts.create draft) (.one 201 accountView)) <$>
      input.payload.read (AccountDraft.read allRoles)
  | updateAccount =>
    (fun id change => answeringWith (Accounts.update id change) (.one 200 accountView)) <$>
      input.id "user_id" <*> input.payload.read AccountChange.read
  | deleteAccount =>
    (fun id => answeringWith (Accounts.delete id) fun _ => .removed) <$> input.id "user_id"
  | listSchools => pure (answeringWith (Schools.list input.query) .page)
  | schoolsInRadius =>
    (fun zipcode radius =>
      answeringWith (Schools.inRadius zipcode (.real radius)) (.counted schoolView)) <$>
      input.pathValue "zipcode" text <*> input.pathValue "distance" number
  | getSchool =>
    (fun id => answeringWith (Schools.get id) (.one 200 schoolView)) <$> input.id "school_id"
  | createSchool =>
    (fun draft => answeringWith (Schools.create draft caller) (.one 201 schoolView)) <$>
      input.payload.read SchoolDraft.read
  | updateSchool =>
    (fun id change => answeringWith (Schools.update id change caller) (.one 200 schoolView)) <$>
      input.id "school_id" <*> input.payload.read SchoolChange.read
  | deleteSchool =>
    (fun id => answeringWith (Schools.delete id caller) fun _ => .removed) <$> input.id "school_id"
  | uploadPhoto =>
    (fun id part => storingPhoto id part caller) <$> input.id "school_id" <*> input.file
  | listCourses => pure (answeringWith (Courses.list input.query) .page)
  | coursesOfSchool =>
    (fun id => answeringWith (Courses.ofSchool id) (.counted courseView)) <$> input.id "school_id"
  | getCourse =>
    (fun id => answeringWith (Courses.get id) (.one 200 courseView)) <$> input.id "course_id"
  | createCourse =>
    (fun id draft => answeringWith (Courses.create id draft caller) (.one 201 courseView)) <$>
      input.id "school_id" <*> input.payload.read CourseDraft.read
  | updateCourse =>
    (fun id change => answeringWith (Courses.update id change caller) (.one 200 courseView)) <$>
      input.id "course_id" <*> input.payload.read CourseChange.read
  | deleteCourse =>
    (fun id => answeringWith (Courses.delete id caller) fun _ => .removed) <$> input.id "course_id"
  | listReviews => pure (answeringWith (Reviews.list input.query) .page)
  | reviewsOfSchool =>
    (fun id => answeringWith (Reviews.ofSchool id) (.counted reviewView)) <$> input.id "school_id"
  | getReview =>
    (fun id => answeringWith (Reviews.get id) (.one 200 reviewView)) <$> input.id "review_id"
  | createReview =>
    (fun id draft => answeringWith (Reviews.create id draft caller) (.one 201 reviewView)) <$>
      input.id "school_id" <*> input.payload.read ReviewDraft.read
  | updateReview =>
    (fun id change => answeringWith (Reviews.update id change caller) (.one 200 reviewView)) <$>
      input.id "review_id" <*> input.payload.read ReviewChange.read
  | deleteReview =>
    (fun id => answeringWith (Reviews.delete id caller) fun _ => .removed) <$> input.id "review_id"

/-! ## Requests -/

/-- The body of a request as far as an endpoint wants it. -/
def Endpoint.payload (endpoint : Endpoint) (request : Request) : Except Reply Payload :=
  if endpoint.wantsValue then Payload.ofRequest request
  else if endpoint = .uploadPhoto then Payload.ofForm request
  else .ok .absent

/-- Answers a request that leads to an endpoint. -/
def Endpoint.serve (endpoint : Endpoint) (path : List (String × String)) (request : Request) :
    Service Reply := do
  match endpoint.payload request with
  | .error reply => return reply
  | .ok payload =>
    match ← endpoint.guard.admit request.authorization with
    | .error reply => return reply
    | .ok caller =>
      let query := Parameters.ofPairs (queryPairs request.query)
      match endpoint.act ⟨path, query, payload⟩ caller with
      | .bad issues => return .ofIssues issues
      | .ok action => return (← action).reply

/-- A path in which no character is taken for the beginning of a query or a fragment. -/
def closedPath (path : String) : String :=
  String.ofList (path.toList.flatMap fun c =>
    if c = '?' then "%3F".toList else if c = '#' then "%23".toList else [c])

/-- The address to which a request is sent on. -/
def redirection (path query : String) : Reply where
  status := 307
  body := .empty
  location := some (escapeAddress ("http://testserver" ++ closedPath path ++
    (if query.isEmpty then "" else "?" ++ query)))

/-- Answers a request that a destination was found for. -/
def serve (request : Request) : Service Reply :=
  let path := unescape request.path
  match resolve request.method path with
  | .endpoint endpoint parameters => endpoint.serve parameters request
  | .wrongMethod allowed =>
    return { Reply.error 405 "Method Not Allowed" with allow := some allowed }
  | .redirect path => return redirection path request.query
  | .nowhere => return .error 404 "Not Found"

/-- Answers a request; what fails breaks it off. -/
def answer (request : Request) : Service Reply := do
  match ← Service.attempt (serve request) with
  | .ok reply => return reply
  | .error failure => return .broken (.failure failure)

/-- The state after a list of requests, each with its surroundings. -/
def serveAll (state : State) (requests : List (Surroundings × Request)) : State :=
  requests.foldl (fun state (around, request) => (Service.run (answer request) around state).2) state

end SchoolCatalog.Http
