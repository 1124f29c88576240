import SchoolCatalog.Form.Reader

/-!
# Drafts and changes

What a request may give for a new record (a draft) and for an existing one (a change). Each is read
from the entries of a form and turned into named values for the store; a change names only what it
changes, so that a field left out and a field given as null are the same. A text that is not measured
may be broken.
-/

namespace SchoolCatalog

open Form

/-- The named values of which something is given. -/
def given (values : List (String × Option Datum)) : Record :=
  values.filterMap fun (name, value) => value.map (name, ·)

/-! ## Schools -/

structure SchoolDraft where
  name : String
  description : String
  website : Option String
  phone : Option String
  email : Option String
  address : Wording
  deriving DecidableEq

namespace SchoolDraft

def read (entries : Record) : Checked SchoolDraft :=
  mk <$> required entries "name" (filled (textUpTo 50))
    <*> required entries "description" (filled (textUpTo 500))
    <*> maybe entries "website" webAddress
    <*> maybe entries "phone" (textUpTo 20)
    <*> maybe entries "email" mailAddress
    <*> required entries "address" filledWording

def record (d : SchoolDraft) : Record :=
  [("name", .text d.name), ("description", .text d.description),
    ("website", .ofOption (d.website.map .text)), ("phone", .ofOption (d.phone.map .text)),
    ("email", .ofOption (d.email.map .text)), ("address", .ofWording d.address)]

end SchoolDraft

structure SchoolChange where
  name : Option String
  description : Option String
  website : Option String
  phone : Option String
  email : Option String
  address : Option Wording
  deriving DecidableEq

namespace SchoolChange

def read (entries : Record) : Checked SchoolChange :=
  mk <$> maybe entries "name" (textUpTo 50)
    <*> maybe entries "description" (textUpTo 500)
    <*> maybe entries "website" webAddress
    <*> maybe entries "phone" (textUpTo 20)
    <*> maybe entries "email" mailAddress
    <*> maybe entries "address" wording

def fields (c : SchoolChange) : List (String × Option Datum) :=
  [("name", c.name.map .text), ("description", c.description.map .text),
    ("website", c.website.map .text), ("phone", c.phone.map .text),
    ("email", c.email.map .text), ("address", c.address.map .ofWording)]

/-- The values that the change gives. -/
def record (c : SchoolChange) : Record := given c.fields

end SchoolChange

/-! ## Courses -/

structure CourseDraft where
  title : String
  description : String
  weeks : String
  tuition : Binary64
  scholarshipAvailable : Bool
  deriving DecidableEq

namespace CourseDraft

def read (entries : Record) : Checked CourseDraft :=
  mk <$> required entries "title" (textFrom 1)
    <*> required entries "description" (textFrom 1)
    <*> required entries "weeks" (textFrom 1)
    <*> required entries "tuition" (numberFrom 0)
    <*> withDefault entries "scholarship_available" false flag

def record (d : CourseDraft) : Record :=
  [("title", .text d.title), ("description", .text d.description), ("weeks", .text d.weeks),
    ("tuition", .real d.tuition), ("scholarship_available", .bool d.scholarshipAvailable)]

end CourseDraft

structure CourseChange where
  title : Option String
  description : Option String
  weeks : Option String
  tuition : Option Binary64
  scholarshipAvailable : Option Bool
  deriving DecidableEq

namespace CourseChange

def read (entries : Record) : Checked CourseChange :=
  mk <$> maybe entries "title" (textFrom 1)
    <*> maybe entries "description" (textFrom 1)
    <*> maybe entries "weeks" (textFrom 1)
    <*> maybe entries "tuition" (numberFrom 0)
    <*> maybe entries "scholarship_available" flag

def fields (c : CourseChange) : List (String × Option Datum) :=
  [("title", c.title.map .text), ("description", c.description.map .text),
    ("weeks", c.weeks.map .text), ("tuition", c.tuition.map .real),
    ("scholarship_available", c.scholarshipAvailable.map .bool)]

/-- The values that the change gives. -/
def record (c : CourseChange) : Record := given c.fields

end CourseChange

/-! ## Reviews -/

structure ReviewDraft where
  title : String
  text : Wording
  rating : Int
  deriving DecidableEq

/-- A rating is from one to ten. -/
def readRating : Reader Int := wholeUpTo 10 (wholeFrom 1 whole)

namespace ReviewDraft

def read (entries : Record) : Checked ReviewDraft :=
  mk <$> required entries "title" (filled (textUpTo 100))
    <*> required entries "text" filledWording
    <*> required entries "rating" readRating

def record (d : ReviewDraft) : Record :=
  [("title", .text d.title), ("text", .ofWording d.text), ("rating", .int d.rating)]

end ReviewDraft

structure ReviewChange where
  title : Option String
  text : Option Wording
  rating : Option Int
  deriving DecidableEq

namespace ReviewChange

def read (entries : Record) : Checked ReviewChange :=
  mk <$> maybe entries "title" (textUpTo 100)
    <*> maybe entries "text" wording
    <*> maybe entries "rating" readRating

def fields (c : ReviewChange) : List (String × Option Datum) :=
  [("title", c.title.map .text), ("text", c.text.map .ofWording), ("rating", c.rating.map .int)]

/-- The values that the change gives. -/
def record (c : ReviewChange) : Record := given c.fields

end ReviewChange

/-! ## Accounts -/

/-- Every role. -/
def allRoles : List String := ["user", "publisher", "admin"]

/-- The roles that a person may choose for themselves. -/
def openRoles : List String := ["user", "publisher"]

structure AccountDraft where
  name : String
  email : String
  password : String
  role : String
  deriving DecidableEq

namespace AccountDraft

def read (roles : List String) (entries : Record) : Checked AccountDraft :=
  mk <$> required entries "name" (textFrom 1)
    <*> required entries "email" mailAddress
    <*> required entries "password" (textFrom 6)
    <*> withDefault entries "role" "user" (choice roles)

def record (d : AccountDraft) : Record :=
  [("name", .text d.name), ("email", .text d.email), ("password", .text d.password),
    ("role", .text d.role)]

end AccountDraft

structure AccountChange where
  name : Option String
  email : Option String
  role : Option String
  password : Option String
  deriving DecidableEq

namespace AccountChange

def read (entries : Record) : Checked AccountChange :=
  mk <$> maybe entries "name" (textFrom 1)
    <*> maybe entries "email" mailAddress
    <*> maybe entries "role" (choice allRoles)
    <*> maybe entries "password" (textFrom 6)

def fields (c : AccountChange) : List (String × Option Datum) :=
  [("name", c.name.map .text), ("email", c.email.map .text), ("role", c.role.map .text),
    ("password", c.password.map .text)]

end AccountChange

structure Credentials where
  email : Wording
  password : Wording
  deriving DecidableEq

namespace Credentials

def read (entries : Record) : Checked Credentials :=
  mk <$> required entries "email" wording <*> required entries "password" wording

def record (c : Credentials) : Record :=
  [("email", .ofWording c.email), ("password", .ofWording c.password)]

end Credentials
end SchoolCatalog
