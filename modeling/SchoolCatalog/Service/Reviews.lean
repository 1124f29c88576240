import SchoolCatalog.Service.Aggregate
import SchoolCatalog.Service.Listing
import SchoolCatalog.Access.Caller
import SchoolCatalog.Form.Draft

/-!
# Reviews

A user reviews a school at most once; that is left to the store. Only the author of a review, or an
admin, may change or remove it. After each write the school's average rating is recomputed.
-/

namespace SchoolCatalog.Reviews

def list (params : Parameters) : Service Record :=
  ListRequest.answer .reviews params (some .schoolSummary) {}

/-- The reviews of a school. -/
def ofSchool (school : Datum) : Service (List Record) :=
  ({} : Store).find .reviews { conditions := [⟨"school_id", .eq, school⟩] }

/-- The review with an identity, with its school in short. -/
def get (id : Datum) : Service Record := do
  let store : Store := {}
  match ← store.get .reviews id none with
  | some review => return (← store.populate [review] .schoolSummary).headD []
  | none => Service.fail (.missing (.shownReview id))

/-- The review with an identity, without its school. -/
def find (store : Store) (id : Datum) : Service Record := do
  match ← store.get .reviews id none with
  | some review => return review
  | none => Service.fail (.missing (.review id))

def create (school : Datum) (draft : ReviewDraft) (caller : Caller)
    (recompute : Aggregate.Recomputing := Aggregate.recompute) : Service Record := do
  let store : Store := {}
  if (← store.get .schools school (some ["id"])).isNone then
    Service.fail (.missing (.parentSchool school))
  let values := Record.putAll draft.record [("school_id", school), ("user_id", caller.id)]
  let review ← Service.wording (store.insert .reviews values) fun violation => do
    Service.info ("Rejected review of school " ++ school.display ++ " by user " ++
      caller.id.display ++ ": " ++ violation.message)
    Service.fail (.conflict (.review caller.id school))
  Service.info ("User " ++ caller.id.display ++ " submitted review " ++
    (Record.field review "id").display ++ " for school " ++ school.display)
  recompute .rating school store
  return review

def update (id : Datum) (change : ReviewChange) (caller : Caller)
    (recompute : Aggregate.Recomputing := Aggregate.recompute) : Service Record := do
  let store : Store := {}
  let review ← find store id
  Service.ofExcept (caller.ensureOwner review "update this review")
  match ← store.update .reviews id change.record with
  | none => Service.fail (.missing (.review id))
  | some updated =>
    Service.info ("User " ++ caller.id.display ++ " updated review " ++ id.display)
    recompute .rating (Record.field updated "school_id") store
    return updated

def delete (id : Datum) (caller : Caller)
    (recompute : Aggregate.Recomputing := Aggregate.recompute) : Service Unit := do
  let store : Store := {}
  let review ← find store id
  Service.ofExcept (caller.ensureOwner review "delete this review")
  let _ ← store.delete .reviews id
  Service.info ("User " ++ caller.id.display ++ " deleted review " ++ id.display)
  recompute .rating (Record.field review "school_id") store

end SchoolCatalog.Reviews
