import SchoolCatalog.Http.Route
import SchoolCatalog.Http.Message
import SchoolCatalog.Service.Store
import SchoolCatalog.Access.Token
import SchoolCatalog.Access.Caller

/-!
# Guards

Who may call an endpoint. A caller is known by the bearer token of a request: the account that the
token names has to be there, and its role is the one that it has now.
-/

namespace SchoolCatalog.Http

/-- What an endpoint asks of its caller. -/
inductive Guard where
  | anyone
  | known
  | roles (allowed : List String)
  deriving DecidableEq

def Endpoint.guard : Endpoint → Guard
  | register => .anyone
  | login => .anyone
  | me => .known
  | listAccounts => .roles ["admin"]
  | getAccount => .roles ["admin"]
  | createAccount => .roles ["admin"]
  | updateAccount => .roles ["admin"]
  | deleteAccount => .roles ["admin"]
  | listSchools => .anyone
  | schoolsInRadius => .anyone
  | getSchool => .anyone
  | createSchool => .roles ["publisher", "admin"]
  | updateSchool => .roles ["publisher", "admin"]
  | deleteSchool => .roles ["publisher", "admin"]
  | uploadPhoto => .roles ["publisher", "admin"]
  | listCourses => .anyone
  | coursesOfSchool => .anyone
  | getCourse => .anyone
  | createCourse => .roles ["publisher", "admin"]
  | updateCourse => .roles ["publisher", "admin"]
  | deleteCourse => .roles ["publisher", "admin"]
  | listReviews => .anyone
  | reviewsOfSchool => .anyone
  | getReview => .anyone
  | createReview => .roles ["user", "admin"]
  | updateReview => .roles ["user", "admin"]
  | deleteReview => .roles ["user", "admin"]

/-- The token of an authorization: what follows the scheme `bearer`, in any case. -/
def bearer? (authorization : Option Bytes) : Option String :=
  match authorization.map fun header => Text.cut ' ' (Bytes.toLatin1 header) with
  | some (scheme, some rest) =>
    let token := Text.trim rest
    if Text.lower scheme = "bearer" && !token.isEmpty then some token else none
  | _ => none

/-- The account that the claims of a token name. -/
def accountOf (claims : Record) : Service (Option Record) := do
  match (Record.field claims "sub").toWhole with
  | .ok id => ({} : Store).get .users (.int id) none
  | .error .outOfRange => Service.fail .outOfRange
  | .error _ => return none

/-- What is known of the caller of a request: the name in the token, and the identity, role and email
address of the account; or the reply to one who is not known. -/
def currentUser (authorization : Option Bytes) : Service (Except Reply Record) := do
  match bearer? authorization with
  | none => return .error (.unauthenticated "Not authenticated")
  | some token =>
    let around ← read
    match ← Service.ofExcept (Token.decode around.settings around.now token) with
    | none => return .error (.unauthenticated "Invalid or expired token")
    | some claims =>
      match ← accountOf claims with
      | none => return .error (.unauthenticated "User no longer exists")
      | some user =>
        return .ok [("sub", Record.field claims "sub"), ("user_id", Record.field user "id"),
          ("role", Record.field user "role"), ("email", Record.field user "email")]

/-- The caller of a request, or the reply to one who is not known. -/
def identify (authorization : Option Bytes) : Service (Except Reply Caller) :=
  (fun known => known.map Caller.ofRecord) <$> currentUser authorization

/-- The caller of a request if the guard lets the caller in; a guard that asks for nothing lets in a
caller without identity and role. -/
def Guard.admit (guard : Guard) (authorization : Option Bytes) :
    Service (Except Reply Caller) := do
  match guard with
  | anyone => return .ok ⟨.null, .null⟩
  | known => identify authorization
  | roles allowed =>
    match ← identify authorization with
    | .error reply => return .error reply
    | .ok caller =>
      if caller.hasAnyRole allowed then return .ok caller
      else return .error (.error 403 caller.roleRefusal)

end SchoolCatalog.Http
