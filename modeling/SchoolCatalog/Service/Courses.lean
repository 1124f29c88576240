import SchoolCatalog.Service.Aggregate
import SchoolCatalog.Service.Listing
import SchoolCatalog.Access.Caller
import SchoolCatalog.Form.Draft

/-!
# Courses

A course belongs to a school and to the user who added it. Only the owner of the school may add
courses, only the owner of a course may change or remove it; admins may do all of it. After each
write the school's average cost is recomputed.
-/

namespace SchoolCatalog.Courses

def list (params : Parameters) : Service Record :=
  ListRequest.answer .courses params (some .schoolSummary) {}

/-- The courses of a school. -/
def ofSchool (school : Datum) : Service (List Record) :=
  ({} : Store).find .courses { conditions := [⟨"school_id", .eq, school⟩] }

/-- The course with an identity, without its school. -/
def find (store : Store) (id : Datum) : Service Record := do
  match ← store.get .courses id none with
  | some course => return course
  | none => Service.fail (.missing (.course id))

/-- The course with an identity, with its school in short. -/
def get (id : Datum) : Service Record := do
  let store : Store := {}
  let course ← find store id
  return (← store.populate [course] .schoolSummary).headD []

def create (school : Datum) (draft : CourseDraft) (caller : Caller)
    (recompute : Aggregate.Recomputing := Aggregate.recompute) : Service Record := do
  let store : Store := {}
  match ← store.get .schools school none with
  | none => Service.fail (.missing (.parentSchool school))
  | some owner =>
    Service.ofExcept (caller.ensureOwner owner ("add a course to school " ++ school.display))
    let values := Record.putAll draft.record [("school_id", school), ("user_id", caller.id)]
    let course ← store.insert .courses values
    Service.info ("User " ++ caller.id.display ++ " added course " ++
      (Record.field course "id").display ++ " to school " ++ school.display)
    recompute .cost school store
    return course

def update (id : Datum) (change : CourseChange) (caller : Caller)
    (recompute : Aggregate.Recomputing := Aggregate.recompute) : Service Record := do
  let store : Store := {}
  let course ← find store id
  Service.ofExcept (caller.ensureOwner course ("update course " ++ id.display))
  match ← store.update .courses id change.record with
  | none => Service.fail (.missing (.course id))
  | some updated =>
    Service.info ("User " ++ caller.id.display ++ " updated course " ++ id.display)
    recompute .cost (Record.field updated "school_id") store
    return updated

def delete (id : Datum) (caller : Caller)
    (recompute : Aggregate.Recomputing := Aggregate.recompute) : Service Unit := do
  let store : Store := {}
  let course ← find store id
  Service.ofExcept (caller.ensureOwner course ("delete course " ++ id.display))
  let _ ← store.delete .courses id
  Service.info ("User " ++ caller.id.display ++ " deleted course " ++ id.display)
  recompute .cost (Record.field course "school_id") store

end SchoolCatalog.Courses
