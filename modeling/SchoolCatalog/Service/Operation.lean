import SchoolCatalog.Service.Schools
import SchoolCatalog.Service.Courses
import SchoolCatalog.Service.Reviews
import SchoolCatalog.Service.Accounts

/-!
# Operations

Everything that can be asked of the catalog, as data; a run carries out a list of operations one
after the other, whether they fail or not.
-/

namespace SchoolCatalog

inductive Operation where
  | listSchools (params : Parameters)
  | getSchool (id : Datum)
  | createSchool (draft : SchoolDraft) (caller : Caller)
  | updateSchool (id : Datum) (change : SchoolChange) (caller : Caller)
  | deleteSchool (id : Datum) (caller : Caller)
  | schoolsInRadius (zipcode : String) (radius : Datum)
  | uploadPhoto (id : Datum) (filename : Option Wording) (contentType : Option String)
      (content : Bytes) (caller : Caller)
  | listCourses (params : Parameters)
  | coursesOfSchool (school : Datum)
  | getCourse (id : Datum)
  | createCourse (school : Datum) (draft : CourseDraft) (caller : Caller)
  | updateCourse (id : Datum) (change : CourseChange) (caller : Caller)
  | deleteCourse (id : Datum) (caller : Caller)
  | listReviews (params : Parameters)
  | reviewsOfSchool (school : Datum)
  | getReview (id : Datum)
  | createReview (school : Datum) (draft : ReviewDraft) (caller : Caller)
  | updateReview (id : Datum) (change : ReviewChange) (caller : Caller)
  | deleteReview (id : Datum) (caller : Caller)
  | register (draft : AccountDraft)
  | createAccount (draft : AccountDraft)
  | authenticate (email password : Wording)
  | listAccounts (params : Parameters)
  | getAccount (id : Datum)
  | updateAccount (id : Datum) (change : AccountChange)
  | deleteAccount (id : Datum)

namespace Operation

def answerRecords (records : List Record) : Datum := .list (records.map .dict)

/-- Carries out an operation, which may recompute averages. -/
def perform (operation : Operation) (recompute : Aggregate.Recomputing := Aggregate.recompute) :
    Service Datum :=
  match operation with
  | listSchools params => .dict <$> Schools.list params
  | getSchool id => .dict <$> Schools.get id
  | createSchool draft caller => .dict <$> Schools.create draft caller
  | updateSchool id change caller => .dict <$> Schools.update id change caller
  | deleteSchool id caller => (fun _ => .null) <$> Schools.delete id caller
  | schoolsInRadius zipcode radius => answerRecords <$> Schools.inRadius zipcode radius
  | uploadPhoto id filename contentType content caller =>
    .ofWording <$> Schools.uploadPhoto id filename contentType content caller
  | listCourses params => .dict <$> Courses.list params
  | coursesOfSchool school => answerRecords <$> Courses.ofSchool school
  | getCourse id => .dict <$> Courses.get id
  | createCourse school draft caller => .dict <$> Courses.create school draft caller recompute
  | updateCourse id change caller => .dict <$> Courses.update id change caller recompute
  | deleteCourse id caller => (fun _ => .null) <$> Courses.delete id caller recompute
  | listReviews params => .dict <$> Reviews.list params
  | reviewsOfSchool school => answerRecords <$> Reviews.ofSchool school
  | getReview id => .dict <$> Reviews.get id
  | createReview school draft caller => .dict <$> Reviews.create school draft caller recompute
  | updateReview id change caller => .dict <$> Reviews.update id change caller recompute
  | deleteReview id caller => (fun _ => .null) <$> Reviews.delete id caller recompute
  | register draft => .dict <$> Accounts.register draft
  | createAccount draft => .dict <$> Accounts.create draft
  | authenticate email password =>
    (fun user => .ofOption (user.map .dict)) <$> Accounts.authenticate email password
  | listAccounts params => .dict <$> Accounts.list params
  | getAccount id => .dict <$> Accounts.get id
  | updateAccount id change => .dict <$> Accounts.update id change
  | deleteAccount id => (fun _ => .null) <$> Accounts.delete id recompute

/-- The state after an operation. -/
def step (state : State) (request : Surroundings × Operation) : State :=
  (Service.run request.2.perform request.1 state).2

/-- The state after a list of operations, each with its surroundings. -/
def runAll (state : State) (requests : List (Surroundings × Operation)) : State :=
  requests.foldl step state

end Operation

/-! ## Looking at the state -/

namespace State

/-- Every record of a collection by identity, hidden fields included. -/
def recordsOf (state : State) (c : Collection) : Except Failure (List Record) :=
  (state.database.table c.name).map fun t =>
    t.rows.map (Store.recordOf c (t.layout.shown c.fieldNames))

/-- Every record of every collection. -/
def dump (state : State) : Except Failure (List (String × List Record)) :=
  Collection.standard.mapM fun c => (state.recordsOf c).map (c.name, ·)

/-- Brings the database up to date, as on start. -/
def start (state : State) : State × Option Failure :=
  let (database, failure) := state.database.migrate Store.Database.migrations
  ({ state with database }, failure)

end State
end SchoolCatalog
