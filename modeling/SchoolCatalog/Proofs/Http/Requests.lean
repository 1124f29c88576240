import SchoolCatalog.Http.Server
import SchoolCatalog.Proofs.Form.Reading
import SchoolCatalog.Proofs.Http.Guard
import SchoolCatalog.Proofs.Service.Steps

/-!
# Requests as operations

A request does to the state what one operation does, or nothing. The operation is the one that its
endpoint stands for, with the identities in the path, the value in the body and the caller; it is carried
out only if path and body are right and the guard lets the caller in. A run of requests is thus a run of
operations, and what holds in every run of operations holds in every run of requests.

Results:
1. `act_carries`: what an endpoint does to the state is its operation.
2. `step_of_request`: a request does one operation that it asks for, or nothing.
3. `Asks.granted`: who asks for an operation that writes.
4. `runAll_of_serveAll`, `sound_serveAll`: runs of requests.
-/

namespace SchoolCatalog

open Store Service

namespace Http

open Form

/-! ## The operation of an endpoint -/

/-- The operation that an endpoint stands for, if its input is right; storing a photo takes one to be
given. -/
def Endpoint.operation (endpoint : Endpoint) (input : Input) (caller : Caller) :
    Checked (Option Operation) :=
  match endpoint with
  | register => (fun draft => some (.register draft)) <$> input.payload.read (AccountDraft.read openRoles)
  | login => (fun given => some (.authenticate given.email given.password)) <$>
      input.payload.read Credentials.read
  | me => pure (some (.getAccount caller.id))
  | listAccounts => pure (some (.listAccounts input.query))
  | getAccount => (fun id => some (.getAccount id)) <$> input.id "user_id"
  | createAccount =>
    (fun draft => some (.createAccount draft)) <$> input.payload.read (AccountDraft.read allRoles)
  | updateAccount => (fun id change => some (.updateAccount id change)) <$> input.id "user_id" <*>
      input.payload.read AccountChange.read
  | deleteAccount => (fun id => some (.deleteAccount id)) <$> input.id "user_id"
  | listSchools => pure (some (.listSchools input.query))
  | schoolsInRadius => (fun zipcode radius => some (.schoolsInRadius zipcode (.real radius))) <$>
      input.pathValue "zipcode" text <*> input.pathValue "distance" number
  | getSchool => (fun id => some (.getSchool id)) <$> input.id "school_id"
  | createSchool =>
    (fun draft => some (.createSchool draft caller)) <$> input.payload.read SchoolDraft.read
  | updateSchool => (fun id change => some (.updateSchool id change caller)) <$>
      input.id "school_id" <*> input.payload.read SchoolChange.read
  | deleteSchool => (fun id => some (.deleteSchool id caller)) <$> input.id "school_id"
  | uploadPhoto => (fun id part => part.map fun part =>
      .uploadPhoto id (some part.filename) part.contentType part.content caller) <$>
      input.id "school_id" <*> input.file
  | listCourses => pure (some (.listCourses input.query))
  | coursesOfSchool => (fun id => some (.coursesOfSchool id)) <$> input.id "school_id"
  | getCourse => (fun id => some (.getCourse id)) <$> input.id "course_id"
  | createCourse => (fun id draft => some (.createCourse id draft caller)) <$>
      input.id "school_id" <*> input.payload.read CourseDraft.read
  | updateCourse => (fun id change => some (.updateCourse id change caller)) <$>
      input.id "course_id" <*> input.payload.read CourseChange.read
  | deleteCourse => (fun id => some (.deleteCourse id caller)) <$> input.id "course_id"
  | listReviews => pure (some (.listReviews input.query))
  | reviewsOfSchool => (fun id => some (.reviewsOfSchool id)) <$> input.id "school_id"
  | getReview => (fun id => some (.getReview id)) <$> input.id "review_id"
  | createReview => (fun id draft => some (.createReview id draft caller)) <$>
      input.id "school_id" <*> input.payload.read ReviewDraft.read
  | updateReview => (fun id change => some (.updateReview id change caller)) <$>
      input.id "review_id" <*> input.payload.read ReviewChange.read
  | deleteReview => (fun id => some (.deleteReview id caller)) <$> input.id "review_id"

/-- The action does to the state what an operation does, if there is one, and else nothing. -/
def Carries (action : Service Answer) (asked : Option Operation) : Prop :=
  ∀ around state, (run action around state).2 = match asked with
    | some operation => Operation.step state (around, operation)
    | none => state

theorem carries_answering {α : Type} {x : Service α} {answer : α → Service Answer}
    {operation : Operation} (wrap : α → Datum) (hperform : operation.perform = wrap <$> x)
    (hanswer : ∀ a, Quiet (answer a)) : Carries (answering x answer) (some operation) := by
  intro around state
  dsimp only [Operation.step]
  rw [hperform, run_map, answering, run_bind_quiet, run_attempt]
  intro result
  cases result with
  | error failure => exact spares_pure _
  | ok a => exact hanswer a

theorem carries_answeringWith {α : Type} {x : Service α} {answer : α → Answer} {operation : Operation}
    (wrap : α → Datum) (hperform : operation.perform = wrap <$> x) :
    Carries (answeringWith x answer) (some operation) :=
  carries_answering wrap hperform fun _ => spares_pure _

theorem quiet_issue (user : Record) : Quiet (issue user) :=
  spares_surroundings.bind fun _ => spares_ofExcept _

theorem carries_loggingIn (given : Credentials) :
    Carries (loggingIn given) (some (.authenticate given.email given.password)) := by
  intro around state
  dsimp only [Operation.step]
  rw [Operation.perform, run_map, loggingIn, run_bind_quiet]
  intro found
  cases found with
  | none => exact spares_pure _
  | some user => exact (quiet_issue user).bind fun _ => spares_pure _

theorem carries_storingPhoto (id : Datum) (part : Option FilePart) (caller : Caller) :
    Carries (storingPhoto id part caller) (part.map fun part =>
      .uploadPhoto id (some part.filename) part.contentType part.content caller) := by
  cases part with
  | none => exact fun _ _ => rfl
  | some part => exact carries_answeringWith .ofWording rfl

/-! ## Inputs -/

theorem read_ok {α : Type} {payload : Payload} {reader : Record → Checked α} {a : α}
    (h : payload.read reader = .ok a) : ∃ entries, reader entries = .ok a := by
  cases payload with
  | value d =>
    cases d with
    | dict entries => exact ⟨entries, h⟩
    | _ => exact nomatch h
  | _ => exact nomatch h

/-- What an endpoint does to the state is its operation. -/
theorem act_carries (endpoint : Endpoint) (input : Input) (caller : Caller) :
    Beside Carries (endpoint.act input caller) (endpoint.operation input caller) := by
  cases endpoint with
  | register =>
    exact beside_map (fun draft => carries_answering .dict rfl fun user =>
      (quiet_issue user).bind fun _ => spares_pure _) _
  | login => exact beside_map carries_loggingIn _
  | me | listAccounts | listSchools | listCourses | listReviews =>
    exact .ok (carries_answeringWith .dict rfl)
  | getAccount | createAccount | getSchool | createSchool | getCourse | getReview =>
    exact beside_map (fun _ => carries_answeringWith .dict rfl) _
  | updateAccount | updateSchool | createCourse | updateCourse | createReview | updateReview =>
    exact beside_seq (fun _ _ => carries_answeringWith .dict rfl) _ _
  | deleteAccount | deleteSchool | deleteCourse | deleteReview =>
    exact beside_map (fun _ => carries_answeringWith _ rfl) _
  | coursesOfSchool | reviewsOfSchool =>
    exact beside_map (fun _ => carries_answeringWith Operation.answerRecords rfl) _
  | schoolsInRadius =>
    exact beside_seq (fun _ _ => carries_answeringWith Operation.answerRecords rfl) _ _
  | uploadPhoto => exact beside_seq (fun id part => carries_storingPhoto id part caller) _ _

/-! ## Requests -/

/-- The endpoint that a request leads to, with the parameters in its path. -/
def Request.LeadsTo (request : Request) (endpoint : Endpoint) (parameters : List (String × String)) :
    Prop :=
  resolve request.method (unescape request.path) = .endpoint endpoint parameters

instance (request : Request) (endpoint : Endpoint) (parameters : List (String × String)) :
    Decidable (request.LeadsTo endpoint parameters) :=
  inferInstanceAs (Decidable (resolve request.method (unescape request.path) = _))

/-- The operation that a request asks for: it leads to an endpoint whose guard lets the caller in, and
with its path and its body the endpoint stands for that operation. -/
def Request.Asks (around : Surroundings) (db : Database) (request : Request) (endpoint : Endpoint)
    (operation : Operation) : Prop :=
  ∃ parameters payload caller, request.LeadsTo endpoint parameters ∧
    endpoint.payload request = .ok payload ∧
    endpoint.guard.Admits around db request.authorization caller ∧
    endpoint.operation ⟨parameters, .ofPairs (queryPairs request.query), payload⟩ caller =
      .ok (some operation)

variable {around : Surroundings} {state : State} {request : Request}

theorem run_answer (request : Request) :
    (run (answer request) around state).2 = (run (serve request) around state).2 := by
  rw [answer, run_bind_quiet, run_attempt]
  intro result
  cases result <;> exact spares_pure _

/-- An endpoint does to the state what it is there for, once path, body and caller are right, and else
nothing. -/
theorem run_endpoint (endpoint : Endpoint) (parameters : List (String × String)) (request : Request) :
    (run (endpoint.serve parameters request) around state).2 =
      match endpoint.payload request with
      | .ok payload => match (run ( endpoint.guard.admit request.authorization) around state).1 with
        | .ok (.ok caller) =>
          match endpoint.act ⟨parameters, .ofPairs (queryPairs request.query), payload⟩ caller with
          | .ok action => (run action around state).2
          | .bad _ => state
        | _ => state
      | .error _ => state := by
  unfold Endpoint.serve
  cases endpoint.payload request with
  | error reply => rfl
  | ok payload =>
    dsimp only
    rw [run_quiet_bind (quiet_admitting _ _)]
    cases (run ( endpoint.guard.admit request.authorization) around state).1 with
    | error failure => rfl
    | ok found =>
      cases found with
      | error reply => rfl
      | ok caller =>
        dsimp only
        cases endpoint.act ⟨parameters, .ofPairs (queryPairs request.query), payload⟩ caller with
        | bad issues => rfl
        | ok action => exact run_bind_quiet fun _ => spares_pure _

/-- An endpoint that a request leads to does one operation, or nothing. -/
theorem step_of_endpoint (h : state.database.Sound) {endpoint : Endpoint}
    {parameters : List (String × String)} (hleads : request.LeadsTo endpoint parameters) :
    (run (endpoint.serve parameters request) around state).2 = state ∨
      ∃ operation, request.Asks around state.database endpoint operation ∧
        (run (endpoint.serve parameters request) around state).2 =
          Operation.step state (around, operation) := by
  rw [run_endpoint]
  have hadmits := @finds_admitted around _ h endpoint.guard request.authorization state rfl
  split
  next payload hpayload =>
    split
    next caller hfound =>
      rw [hfound] at hadmits
      split
      next action hact =>
        have hbeside := act_carries endpoint
          ⟨parameters, .ofPairs (queryPairs request.query), payload⟩ caller
        rw [hact] at hbeside
        obtain ⟨asked, hasked, hcarries⟩ := hbeside.of_ok
        rw [hcarries around state]
        cases asked with
        | none => exact .inl rfl
        | some operation =>
          exact .inr ⟨operation, ⟨_, _, _, hleads, hpayload, hadmits.2 caller rfl, hasked⟩, rfl⟩
      next => exact .inl rfl
    next => exact .inl rfl
  next => exact .inl rfl

/-- A request does one operation that it asks for, or nothing. -/
theorem step_of_request (h : state.database.Sound) (request : Request) :
    (run (answer request) around state).2 = state ∨
      ∃ endpoint operation, request.Asks around state.database endpoint operation ∧
        (run (answer request) around state).2 = Operation.step state (around, operation) := by
  rw [run_answer, serve]
  dsimp only
  split
  next endpoint parameters hleads =>
    exact (step_of_endpoint h hleads).imp_right fun hstep => ⟨endpoint, hstep⟩
  next => exact .inl rfl
  next => exact .inl rfl
  next => exact .inl rfl

/-! ## Who asks -/

/-- What is known of an operation that writes, and of who asks for it: whoever registers gives a role
that is open to all, accounts are managed by admins, and any other caller is the account that the
request identifies. -/
def Granted (around : Surroundings) (db : Database) (authorization : Option Bytes)
    (endpoint : Endpoint) : Operation → Prop
  | .register draft => endpoint = .register ∧ draft.role ∈ openRoles
  | .createAccount _ => endpoint = .createAccount ∧ FromAdmin around db authorization
  | .updateAccount _ _ => endpoint = .updateAccount ∧ FromAdmin around db authorization
  | .deleteAccount _ => endpoint = .deleteAccount ∧ FromAdmin around db authorization
  | .createSchool _ caller | .updateSchool _ _ caller | .deleteSchool _ caller
  | .uploadPhoto _ _ _ _ caller | .createCourse _ _ caller | .updateCourse _ _ caller
  | .deleteCourse _ caller | .createReview _ _ caller | .updateReview _ _ caller
  | .deleteReview _ caller => ∃ user, Identifies around db authorization user ∧ caller = user.caller
  | _ => True

/-- Whoever asks for an operation that writes is known. -/
theorem Request.Asks.granted {db : Database} {endpoint : Endpoint} {operation : Operation}
    (h : request.Asks around db endpoint operation) :
    Granted around db request.authorization endpoint operation := by
  obtain ⟨parameters, payload, caller, _, _, hadmits, hoperation⟩ := h
  cases endpoint with
  | register =>
    obtain ⟨draft, hdraft, ⟨⟩⟩ := map_ok hoperation
    obtain ⟨entries, hentries⟩ := read_ok hdraft
    exact ⟨rfl, role_of_read (by decide) hentries⟩
  -- what only reads
  | me | listAccounts | listSchools | listCourses | listReviews =>
    cases pure_eq_ok hoperation
    trivial
  | login | getAccount | getSchool | coursesOfSchool | getCourse | reviewsOfSchool | getReview =>
    obtain ⟨_, _, ⟨⟩⟩ := map_ok hoperation
    trivial
  | schoolsInRadius =>
    obtain ⟨_, _, _, _, ⟨⟩⟩ := map_seq_ok hoperation
    trivial
  -- what admins do
  | createAccount | deleteAccount =>
    obtain ⟨_, _, ⟨⟩⟩ := map_ok hoperation
    exact ⟨rfl, hadmits.admin⟩
  | updateAccount =>
    obtain ⟨_, _, _, _, ⟨⟩⟩ := map_seq_ok hoperation
    exact ⟨rfl, hadmits.admin⟩
  -- what names its caller
  | createSchool | deleteSchool | deleteCourse | deleteReview =>
    obtain ⟨_, _, ⟨⟩⟩ := map_ok hoperation
    exact hadmits.identified nofun
  | updateSchool | createCourse | updateCourse | createReview | updateReview =>
    obtain ⟨_, _, _, _, ⟨⟩⟩ := map_seq_ok hoperation
    exact hadmits.identified nofun
  | uploadPhoto =>
    obtain ⟨_, part, _, _, hpart⟩ := map_seq_ok hoperation
    obtain ⟨_, _, ⟨⟩⟩ := Option.map_eq_some_iff.1 hpart
    exact hadmits.identified nofun

/-! ## Runs -/

theorem serveAll_append (state : State) (requests later : List (Surroundings × Request)) :
    serveAll state (requests ++ later) = serveAll (serveAll state requests) later :=
  List.foldl_append

theorem serveAll_concat (state : State) (requests : List (Surroundings × Request))
    (around : Surroundings) (request : Request) : serveAll state (requests ++ [(around, request)]) =
      (run (answer request) around (serveAll state requests)).2 :=
  serveAll_append _ _ _

/-- A run of requests is a run of operations. -/
theorem runAll_of_serveAll (h : state.database.Sound) (requests : List (Surroundings × Request)) :
    ∃ operations, serveAll state requests = Operation.runAll state operations := by
  induction requests generalizing state with
  | nil => exact ⟨[], rfl⟩
  | cons first rest ih =>
    obtain ⟨around, request⟩ := first
    show ∃ operations, serveAll (run (answer request) around state).2 rest =
      Operation.runAll state operations
    rcases @step_of_request around _ h request with hsame | ⟨_, operation, _, hstep⟩
    · rw [hsame]
      exact ih h
    · rw [hstep]
      obtain ⟨operations, hrest⟩ := ih (Operation.sound_step h (around, operation))
      exact ⟨(around, operation) :: operations, hrest⟩

/-- The database is sound in every run of requests. -/
theorem sound_serveAll (h : state.database.Sound) (requests : List (Surroundings × Request)) :
    (serveAll state requests).database.Sound := by
  obtain ⟨operations, hrun⟩ := runAll_of_serveAll h requests
  rw [hrun]
  exact Operation.sound_run h operations

end Http
end SchoolCatalog
