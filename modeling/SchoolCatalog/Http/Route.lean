import SchoolCatalog.Http.Address

/-!
# Routes

Which address and method lead to which endpoint. Routes are tried in order; the first whose pattern
and method fit is taken. If only a pattern fits, the method is refused, and the first such route
says which one is allowed. An address that fits without the slashes at its end is redirected.
-/

namespace SchoolCatalog.Http

inductive Endpoint where
  | register
  | login
  | me
  | listAccounts
  | getAccount
  | createAccount
  | updateAccount
  | deleteAccount
  | listSchools
  | schoolsInRadius
  | getSchool
  | createSchool
  | updateSchool
  | deleteSchool
  | uploadPhoto
  | listCourses
  | coursesOfSchool
  | getCourse
  | createCourse
  | updateCourse
  | deleteCourse
  | listReviews
  | reviewsOfSchool
  | getReview
  | createReview
  | updateReview
  | deleteReview
  deriving DecidableEq

/-- A part of a pattern between slashes: a fixed text, or a parameter that takes any text that is
not empty. -/
inductive Segment where
  | fixed (text : String)
  | parameter (name : String)
  deriving DecidableEq

structure Route where
  method : String
  pattern : List Segment
  endpoint : Endpoint
  deriving DecidableEq

/-- The parts of a path below the root of the interface. -/
def below (parts : List Segment) : List Segment :=
  [.fixed "", .fixed "api", .fixed "v1"] ++ parts

/-- All routes, in the order in which they are tried. -/
def routes : List Route :=
  let school : Segment := .parameter "school_id"
  [⟨"POST", below [.fixed "auth", .fixed "register"], .register⟩,
    ⟨"POST", below [.fixed "auth", .fixed "login"], .login⟩,
    ⟨"GET", below [.fixed "auth", .fixed "me"], .me⟩,
    ⟨"GET", below [.fixed "users"], .listAccounts⟩,
    ⟨"GET", below [.fixed "users", .parameter "user_id"], .getAccount⟩,
    ⟨"POST", below [.fixed "users"], .createAccount⟩,
    ⟨"PUT", below [.fixed "users", .parameter "user_id"], .updateAccount⟩,
    ⟨"DELETE", below [.fixed "users", .parameter "user_id"], .deleteAccount⟩,
    ⟨"GET", below [.fixed "schools"], .listSchools⟩,
    ⟨"GET", below [.fixed "schools", .fixed "radius", .parameter "zipcode", .parameter "distance"],
      .schoolsInRadius⟩,
    ⟨"GET", below [.fixed "schools", school], .getSchool⟩,
    ⟨"POST", below [.fixed "schools"], .createSchool⟩,
    ⟨"PUT", below [.fixed "schools", school], .updateSchool⟩,
    ⟨"DELETE", below [.fixed "schools", school], .deleteSchool⟩,
    ⟨"PUT", below [.fixed "schools", school, .fixed "photo"], .uploadPhoto⟩,
    ⟨"GET", below [.fixed "courses"], .listCourses⟩,
    ⟨"GET", below [.fixed "schools", school, .fixed "courses"], .coursesOfSchool⟩,
    ⟨"GET", below [.fixed "courses", .parameter "course_id"], .getCourse⟩,
    ⟨"POST", below [.fixed "schools", school, .fixed "courses"], .createCourse⟩,
    ⟨"PUT", below [.fixed "courses", .parameter "course_id"], .updateCourse⟩,
    ⟨"DELETE", below [.fixed "courses", .parameter "course_id"], .deleteCourse⟩,
    ⟨"GET", below [.fixed "reviews"], .listReviews⟩,
    ⟨"GET", below [.fixed "schools", school, .fixed "reviews"], .reviewsOfSchool⟩,
    ⟨"GET", below [.fixed "reviews", .parameter "review_id"], .getReview⟩,
    ⟨"POST", below [.fixed "schools", school, .fixed "reviews"], .createReview⟩,
    ⟨"PUT", below [.fixed "reviews", .parameter "review_id"], .updateReview⟩,
    ⟨"DELETE", below [.fixed "reviews", .parameter "review_id"], .deleteReview⟩]

/-- The parameters of a path that fits a pattern; a fixed text at the end may be followed by one
line end. -/
def matchPattern : List Segment → List String → Option (List (String × String))
  | [], [] => some []
  | .fixed text :: pattern, part :: parts =>
    if part = text || (pattern.isEmpty && part = text ++ "\n") then matchPattern pattern parts
    else none
  | .parameter name :: pattern, part :: parts =>
    if part.isEmpty then none
    else (matchPattern pattern parts).map ((name, part) :: ·)
  | _, _ => none

def Route.match? (route : Route) (path : String) : Option (List (String × String)) :=
  matchPattern route.pattern (Text.split '/' path)

/-- Where a request leads. -/
inductive Destination where
  | endpoint (endpoint : Endpoint) (parameters : List (String × String))
  | wrongMethod (allowed : String)
  | redirect (path : String)
  | nowhere
  deriving DecidableEq

/-- A path without the slashes at its end, or with one added. -/
def otherSlash (path : String) : String :=
  if path.endsWith "/" then String.ofList (path.toList.reverse.dropWhile (· == '/')).reverse
  else path ++ "/"

/-- Where a method and a path lead. -/
def resolve (method path : String) : Destination :=
  match routes.findSome? fun r =>
      if r.method = method then (r.match? path).map fun ps => (r.endpoint, ps) else none with
  | some (endpoint, parameters) => .endpoint endpoint parameters
  | none =>
    match routes.find? fun r => (r.match? path).isSome with
    | some r => .wrongMethod r.method
    | none =>
      if path != "/" && routes.any fun r => (r.match? (otherSlash path)).isSome then
        .redirect (otherSlash path)
      else .nowhere

end SchoolCatalog.Http
