import SchoolCatalog.Failure

/-!
# Callers

Who makes a request, and what the caller's role and ownership allow.
-/

namespace SchoolCatalog

/-- The identity and role of a caller; null where they are not known. -/
structure Caller where
  id : Datum
  role : Datum

namespace Caller

def ofRecord (user : Record) : Caller := ⟨Record.field user "user_id", Record.field user "role"⟩

def hasRole (caller : Caller) (role : String) : Bool := caller.role.same (.text role)

def isAdmin (caller : Caller) : Bool := caller.hasRole "admin"

/-- Whether the caller has one of the roles. -/
def hasAnyRole (caller : Caller) (roles : List String) : Bool := roles.any caller.hasRole

/-- What a caller without a needed role is told. -/
def roleRefusal (caller : Caller) : String :=
  "User role " ++ caller.role.display ++ " is not authorized to access this route"

/-- Whether the caller may do what only the owner of a record and admins may. -/
def mayChange (caller : Caller) (record : Record) : Bool :=
  (Record.field record "user_id").same caller.id || caller.isAdmin

/-- Refuses an action on a record to all but its owner and admins. -/
def ensureOwner (caller : Caller) (record : Record) (action : String) : Except Failure Unit :=
  if caller.mayChange record then .ok () else .error (.denied caller.id action)

end Caller
end SchoolCatalog
