import SchoolCatalog.Catalog.Collection

/-!
# The collections of the catalog

Users, schools, courses and reviews, and the inclusions that lists and details make use of: a course
or review shows its school in short, a school shows its courses.
-/

namespace SchoolCatalog

/-- Attaches related records under `path`: those whose `foreignField` equals the record's
`localField`, all of them or one. -/
structure Include where
  path : String
  collection : Collection
  localField : String
  foreignField : String := "id"
  fields : Option (List String) := none
  many : Bool := false
  deriving DecidableEq, Inhabited

namespace Collection

def users : Collection where
  name := "users"
  fields := [("id", .integer), ("name", .text), ("email", .text), ("role", .text),
    ("password", .text), ("created_at", .text)]
  hidden := ["password"]

def schools : Collection where
  name := "schools"
  fields := [("id", .integer), ("name", .text), ("description", .text), ("website", .text),
    ("phone", .text), ("email", .text), ("address", .text), ("latitude", .number),
    ("longitude", .number), ("formatted_address", .text), ("street", .text), ("city", .text),
    ("state", .text), ("zipcode", .text), ("country", .text), ("average_rating", .number),
    ("average_cost", .integer), ("photo", .text), ("user_id", .integer), ("created_at", .text)]

def courses : Collection where
  name := "courses"
  fields := [("id", .integer), ("title", .text), ("description", .text), ("weeks", .text),
    ("tuition", .number), ("scholarship_available", .flag), ("school_id", .integer),
    ("user_id", .integer), ("created_at", .text)]

def reviews : Collection where
  name := "reviews"
  fields := [("id", .integer), ("title", .text), ("text", .text), ("rating", .integer),
    ("school_id", .integer), ("user_id", .integer), ("created_at", .text)]

/-- The four collections, in the order in which they depend on each other. -/
def standard : List Collection := [users, schools, courses, reviews]

end Collection

namespace Include

/-- A course's or review's school: its identity, name and description. -/
def schoolSummary : Include where
  path := "school"
  collection := .schools
  localField := "school_id"
  fields := some ["name", "description"]

/-- A school's courses. -/
def schoolCourses : Include where
  path := "courses"
  collection := .courses
  localField := "id"
  foreignField := "school_id"
  many := true

end Include
end SchoolCatalog
