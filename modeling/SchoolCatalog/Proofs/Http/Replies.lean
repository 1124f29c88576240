import SchoolCatalog.Proofs.Form.Reading
import SchoolCatalog.Proofs.Http.Identity
import SchoolCatalog.Proofs.Service.Absent

/-!
# Replies to what fails

When the operation that a request asks for fails, the request is answered with the status of the failure
and what is said of it; only a log-in that fails breaks the request off. So a request for a record that is
not there is answered as not found, and changes nothing, as long as the store can look for the identity.
One that does not fit the store is answered as an error of the server.

Results:
1. `act_reports`: what an endpoint answers when its operation fails.
2. `run_of_failed`: what a request is answered with then.
3. `absent_of_run`: records that are not there, in every run; `unfit_of_fresh`: an identity that does not
   fit the store.
-/

namespace SchoolCatalog

open Store Store.Database Service Form

namespace Http

/-! ## Endpoints -/

/-- The action answers with the failure of its operation; logging in is left out. -/
def Reports (action : Service Answer) (asked : Option Operation) : Prop :=
  ∀ operation, asked = some operation → (∀ email password, operation ≠ .authenticate email password) →
    ∀ around state failure, (run operation.perform around state).1 = .error failure →
      (run action around state).1 = .ok (.refused (.ofFailure failure))

theorem reports_answering {α : Type} {x : Service α} {answer : α → Service Answer} {operation : Operation}
    (wrap : α → Datum) (hperform : operation.perform = wrap <$> x) :
    Reports (answering x answer) (some operation) := by
  rintro _ ⟨⟩ _ around state failure hfailed
  rw [hperform, run_map] at hfailed
  have hfails : (run x around state).1 = .error failure := by
    cases hresult : (run x around state).1 with
    | ok a => rw [hresult] at hfailed; exact nomatch hfailed
    | error cause =>
      rw [hresult] at hfailed
      obtain rfl := Except.error.inj hfailed
      rfl
  rw [answering, run_bind, run_attempt, hfails]
  rfl

theorem reports_answeringWith {α : Type} {x : Service α} {answer : α → Answer} {operation : Operation}
    (wrap : α → Datum) (hperform : operation.perform = wrap <$> x) :
    Reports (answeringWith x answer) (some operation) :=
  reports_answering wrap hperform

theorem reports_storingPhoto (id : Datum) (part : Option FilePart) (caller : Caller) :
    Reports (storingPhoto id part caller) (part.map fun part =>
      .uploadPhoto id (some part.filename) part.contentType part.content caller) := by
  cases part with
  | none => exact fun _ hnone => nomatch hnone
  | some part => exact reports_answeringWith .ofWording rfl

/-- What an endpoint answers when its operation fails. -/
theorem act_reports (endpoint : Endpoint) (input : Input) (caller : Caller) :
    Beside Reports (endpoint.act input caller) (endpoint.operation input caller) := by
  cases endpoint with
  | register => exact beside_map (fun _ => reports_answering .dict rfl) _
  | login =>
    refine beside_map (fun given => ?_) _
    rintro _ ⟨⟩ hother
    exact absurd rfl (hother given.email given.password)
  | me | listAccounts | listSchools | listCourses | listReviews =>
    exact .ok (reports_answeringWith .dict rfl)
  | getAccount | createAccount | getSchool | createSchool | getCourse | getReview =>
    exact beside_map (fun _ => reports_answeringWith .dict rfl) _
  | updateAccount | updateSchool | createCourse | updateCourse | createReview | updateReview =>
    exact beside_seq (fun _ _ => reports_answeringWith .dict rfl) _ _
  | deleteAccount | deleteSchool | deleteCourse | deleteReview =>
    exact beside_map (fun _ => reports_answeringWith _ rfl) _
  | coursesOfSchool | reviewsOfSchool =>
    exact beside_map (fun _ => reports_answeringWith Operation.answerRecords rfl) _
  | schoolsInRadius =>
    exact beside_seq (fun _ _ => reports_answeringWith Operation.answerRecords rfl) _ _
  | uploadPhoto => exact beside_seq (fun id part => reports_storingPhoto id part caller) _ _

/-! ## Requests -/

variable {around : Surroundings} {state : State} {request : Request} {endpoint : Endpoint}
  {operation : Operation} {failure : Failure}

/-- The reply of an endpoint whose action answers. -/
theorem run_serve (h : state.database.Sound) {parameters : List (String × String)} {payload : Payload}
    {caller : Caller} {action : Service Answer} {answer : Answer}
    (hpayload : endpoint.payload request = .ok payload)
    (hadmits : endpoint.guard.Admits around state.database request.authorization caller)
    (hact : endpoint.act ⟨parameters, .ofPairs (queryPairs request.query), payload⟩ caller = .ok action)
    (hanswer : (run action around state).1 = .ok answer) :
    (run (endpoint.serve parameters request) around state).1 = .ok answer.reply := by
  unfold Endpoint.serve
  rw [hpayload]
  dsimp only
  rw [run_quiet_bind (quiet_admitting _ _), hadmits.run_admit h]
  dsimp only
  rw [hact]
  dsimp only
  rw [run_bind]
  cases hrun : run action around state with
  | mk result next =>
    rw [hrun] at hanswer
    obtain rfl : result = .ok answer := hanswer
    rfl

/-- A request for an operation that fails is answered with the failure. -/
theorem run_of_failed (h : state.database.Sound)
    (hasks : request.Asks around state.database endpoint operation)
    (hother : ∀ email password, operation ≠ .authenticate email password)
    (hfailed : (run operation.perform around state).1 = .error failure) :
    run (answer request) around state =
      (.ok (.ofFailure failure), (run operation.perform around state).2) := by
  have hstep := step_of_asks h hasks
  obtain ⟨parameters, payload, caller, hleads, hpayload, hadmits, hoperation⟩ := hasks
  have hbeside := act_reports endpoint ⟨parameters, .ofPairs (queryPairs request.query), payload⟩ caller
  rw [hoperation] at hbeside
  obtain ⟨action, hact, hreports⟩ := hbeside.to_ok
  have hserved : (run (serve request) around state).1 = .ok (.ofFailure failure) := by
    rw [serve]
    dsimp only
    rw [show resolve request.method (unescape request.path) = _ from hleads]
    exact run_serve h hpayload hadmits hact (hreports operation rfl hother around state failure hfailed)
  refine Prod.ext ?_ hstep
  rw [answer, run_bind, run_attempt]
  cases hrun : run (serve request) around state with
  | mk result next =>
    rw [hrun] at hserved
    obtain rfl : result = .ok (.ofFailure failure) := hserved
    rfl

/-! ## Records that are not there -/

theorem ne_authenticate_of_needs {what : Missing} (h : operation.needs? = some what)
    (email password : Wording) : operation ≠ .authenticate email password := by
  rintro rfl
  exact nomatch h

/-- After every run, an operation that needs a record by an identity that none has reports that it is
missing if the identity has 64 bits, and that the identity is out of range if not. It changes nothing, but
that it may have drawn salts; and a request that asks for it is answered as not found, or as an error of
the server. -/
theorem absent_of_run (requests : List (Surroundings × Operation)) {around : Surroundings}
    (working : around.losesUpdates = false)
    (hiterations : 1 ≤ around.iterations ∧ around.iterations ≤ Password.mostIterations)
    {operation : Operation} {what : Missing} {i : Int} (hneeds : operation.needs? = some what)
    (hid : what.id = .int i) :
    let now := Operation.runAll .fresh requests
    let outcome := run operation.perform around now
    (∀ row ∈ now.database.rows what.layout.name, row.id ≠ i) →
      outcome.1 = .error (if Number.fitsWord i then .missing what else .outOfRange) ∧
      outcome.2 = { now with salts := outcome.2.salts } ∧
      ∀ request endpoint, Request.Asks around now.database request endpoint operation →
        run (answer request) around now =
          (.ok (if Number.fitsWord i then .error 404 what.message else .error 500 "Server Error"),
            outcome.2) := by
  intro now outcome hlacks
  have hsound : now.database.Sound := Operation.sound_run sound_fresh requests
  obtain ⟨salts, hrun⟩ := Operation.halts_perform hsound working hiterations hneeds hid hlacks
  have hfailed : outcome.1 = .error (what.failure i) := congrArg Prod.fst hrun
  refine ⟨hfailed, ?_, fun request endpoint hasks => ?_⟩
  · rw [show outcome.2 = { now with salts } from congrArg Prod.snd hrun]
  · rw [run_of_failed hsound hasks (ne_authenticate_of_needs hneeds) hfailed, Missing.failure]
    split <;> rfl

/-- A visitor asks for a school. -/
def visitor (id : String) : Request := { method := "GET", path := "/api/v1/schools/" ++ id }

theorem asks_visitor (db : Database) : (visitor "7").Asks around db .getSchool (.getSchool (.int 7)) :=
  ⟨[("school_id", "7")], .absent, ⟨.null, .null⟩, by decide +kernel, rfl, .anyone, by
    with_unfolding_all rfl⟩

/-- There is no seventh school, and a visitor who asks for it is told so. -/
theorem absent_of_opening :
    let now := Operation.runAll .fresh Operation.opening
    (∀ row ∈ now.database.rows "schools", row.id ≠ 7) ∧
      (run (Operation.getSchool (.int 7)).perform Operation.calm now).1 =
        .error (.missing (.school (.int 7))) ∧
      (visitor "7").Asks Operation.calm now.database .getSchool (.getSchool (.int 7)) ∧
      (run (answer (visitor "7")) Operation.calm now).1 =
        .ok (.error 404 "School not found with id of 7") := by
  intro now
  have hlacks : ∀ row ∈ now.database.rows "schools", row.id ≠ 7 := by decide +kernel
  obtain ⟨hfailed, _, hreply⟩ := @absent_of_run Operation.opening Operation.calm rfl (by decide)
    (.getSchool (.int 7)) (.school (.int 7)) 7 rfl rfl hlacks
  exact ⟨hlacks, hfailed, asks_visitor _, congrArg Prod.fst (hreply _ _ (asks_visitor _))⟩

/-- An identity of 64 bits and one more is not said to be missing, although no school has it. -/
theorem unfit_of_fresh :
    let now := Operation.runAll .fresh []
    (∀ row ∈ now.database.rows "schools", row.id ≠ 9223372036854775808) ∧
      (run (Operation.getSchool (.int 9223372036854775808)).perform Operation.calm now).1 =
        .error .outOfRange ∧
      Failure.outOfRange.status = (500, "Server Error") := by
  intro now
  have hlacks : now.database.Lacks .schools 9223372036854775808 := by
    unfold Lacks
    decide +kernel
  have hneeds : (Operation.getSchool (.int 9223372036854775808)).needs? =
      some (.school (.int 9223372036854775808)) := rfl
  have working : Operation.calm.losesUpdates = false := rfl
  obtain ⟨_, hrun⟩ := Operation.halts_perform sound_fresh working (by decide) hneeds rfl hlacks
  exact ⟨hlacks, congrArg Prod.fst hrun, rfl⟩

end Http
end SchoolCatalog
