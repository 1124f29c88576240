import SchoolCatalog.Service.Aggregate
import SchoolCatalog.Service.Listing
import SchoolCatalog.Access.Password
import SchoolCatalog.Form.Draft

/-!
# Accounts

Registering, logging in and managing users. The first account ever registered is an admin's. Email
addresses are kept in lower case, passwords as salted digests. Deleting a user deletes what the user
owns; the averages of the schools that lose a course or review by it are recomputed.
-/

namespace SchoolCatalog.Accounts

/-- The kept form of a password, with a salt of its own. -/
def keepPassword (password : String) : Service String := do
  let salt ← Service.nextSalt
  Service.ofExcept (Password.keep (.proper password) salt (← read).iterations)

/-- Stores a new account with a role. -/
def add (draft : AccountDraft) (role : String) : Service Record := do
  Service.info ("Registering user " ++ draft.email ++ " as " ++ role)
  let password ← keepPassword draft.password
  let values : Record := [("name", .text draft.name), ("email", .text (Text.lower draft.email)),
    ("password", .text password), ("role", .text role)]
  Service.wording (({} : Store).insert .users values) fun _ =>
    Service.fail (.conflict (.email (.text draft.email)))

/-- Registers a person; the first one becomes an admin. -/
def register (draft : AccountDraft) : Service Record := do
  let present ← ({} : Store).count .users []
  add draft (if present = 0 then "admin" else draft.role)

def create (draft : AccountDraft) : Service Record := add draft draft.role

/-- Whether a password is that of a user. -/
def isPasswordOf (password : Wording) (user : Record) : Service Bool := do
  match Record.field user "password" with
  | .text kept => Service.ofExcept (Password.verify password kept (← read).iterations)
  | _ => Service.fail .mistyped

/-- The account whose credentials are given, if they are right. -/
def authenticate (email password : Wording) : Service (Option Record) := do
  let found ← ({} : Store).findOne .users [⟨"email", .eq, .ofWording email.lower⟩] true
  let accepted ← match found with
    | none => pure none
    | some user => do pure (if ← isPasswordOf password user then some user else none)
  match accepted with
  | none =>
    Service.info ("Failed login for " ++ email.lossy)
    return none
  | some user => return some (Record.remove user "password")

def list (params : Parameters) : Service Record := ListRequest.answer .users params none {}

/-- The account with an identity. -/
def get (id : Datum) : Service Record := do
  match ← ({} : Store).get .users id none with
  | some user => return user
  | none => Service.fail (.missing (.account id))

/-- What a change writes: the email address in lower case, the password in its kept form. -/
def changedValues (change : AccountChange) : Service Record := do
  let password ← match change.password with
    | some p => some <$> keepPassword p
    | none => pure none
  let kept := { change with email := change.email.map Text.lower, password }
  return given kept.fields

def update (id : Datum) (change : AccountChange) : Service Record := do
  let values ← changedValues change
  let updated ← Service.wording (({} : Store).update .users id values) fun _ =>
    Service.fail (.conflict (.email (Record.field values "email")))
  match updated with
  | none => Service.fail (.missing (.account id))
  | some user => return user

/-! ## Deleting -/

/-- The identities of schools that stand in a field, sorted and without repetitions. -/
def schoolIds (records : List Record) (field : String) : List Int :=
  let ids := records.filterMap fun r => (Record.field r field).wholeValue?
  (ids.foldl (fun seen i => if seen.contains i then seen else seen ++ [i]) []).mergeSort
    fun i j => i ≤ j

def delete (id : Datum) (recompute : Aggregate.Recomputing := Aggregate.recompute) :
    Service Unit := do
  let store : Store := {}
  let _ ← get id
  let owned : List Condition := [⟨"user_id", .eq, id⟩]
  let schools ← store.find .schools { conditions := owned, projection := some ["id"] }
  let courses ← store.find .courses { conditions := owned, projection := some ["school_id"] }
  let reviews ← store.find .reviews { conditions := owned, projection := some ["school_id"] }
  let own := schoolIds schools "id"
  let others (records : List Record) : List Int :=
    (schoolIds records "school_id").filter fun i => !own.contains i
  let _ ← store.delete .users id
  Service.info ("Deleted user " ++ id.display)
  for school in others courses do
    recompute .cost (.int school) store
  for school in others reviews do
    recompute .rating (.int school) store

end SchoolCatalog.Accounts
