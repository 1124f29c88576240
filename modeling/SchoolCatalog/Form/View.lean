import SchoolCatalog.Form.Draft

/-!
# Views

The shapes in which single records are answered. A view lists its fields with the reader of each;
reading a record through a view gives exactly those fields, in their order, or the issues of a
stored value that does not fit.
-/

namespace SchoolCatalog.Form

/-- A field of a view; `default` stands in where the record lacks it. -/
structure ViewField where
  name : String
  reader : Reader Datum
  default : Option Datum := none

def needs (name : String) (reader : Reader Datum) : ViewField := { name, reader }

/-- A field that may be null or missing. -/
def allows (name : String) (reader : Reader Datum) : ViewField :=
  { name
    reader := fun d => match d with
      | .null => .ok .null
      | d => reader d
    default := some .null }

def asText : Reader Datum := fun d => .ofWording <$> wording d
def asWhole : Reader Datum := fun d => .int <$> whole d
def asNumber : Reader Datum := fun d => .real <$> number d
def asFlag : Reader Datum := fun d => .bool <$> flag d

/-- Reads each field of a view. -/
def readView (fields : List ViewField) (entries : Record) : Checked Record :=
  match fields with
  | [] => pure []
  | f :: rest =>
    let first := match f.default with
      | some d => withDefault entries f.name d f.reader
      | none => required entries f.name f.reader
    (fun d record => (f.name, d) :: record) <$> first <*> readView rest entries

def schoolSummary : List ViewField :=
  [needs "id" asWhole, needs "name" asText, needs "description" asText]

/-- The school shown with a course or a review. -/
def asSummary : Reader Datum := fun d =>
  .dict <$> entriesOr (.notForm "SchoolSummary") (readView schoolSummary) d

def schoolView : List ViewField :=
  [needs "id" asWhole, needs "name" asText, needs "description" asText, allows "website" asText,
    allows "phone" asText, allows "email" asText, needs "address" asText,
    allows "latitude" asNumber, allows "longitude" asNumber, allows "formatted_address" asText,
    allows "street" asText, allows "city" asText, allows "state" asText, allows "zipcode" asText,
    allows "country" asText, allows "average_cost" asWhole, allows "average_rating" asNumber,
    needs "photo" asText, needs "user_id" asWhole, needs "created_at" asText]

def courseView : List ViewField :=
  [needs "id" asWhole, needs "title" asText, needs "description" asText, needs "weeks" asText,
    needs "tuition" asNumber, needs "scholarship_available" asFlag, needs "school_id" asWhole,
    needs "user_id" asWhole, needs "created_at" asText, allows "school" asSummary]

def reviewView : List ViewField :=
  [needs "id" asWhole, needs "title" asText, needs "text" asText, needs "rating" asWhole,
    needs "school_id" asWhole, needs "user_id" asWhole, needs "created_at" asText,
    allows "school" asSummary]

def accountView : List ViewField :=
  [needs "name" fun d => .text <$> textFrom 1 d, needs "email" fun d => .text <$> mailAddress d,
    needs "id" asWhole, needs "role" fun d => .text <$> choice allRoles d,
    needs "created_at" asText]

/-! ## All forms by name -/

/-- The forms that can be read. -/
inductive FormKind where
  | schoolCreate
  | schoolUpdate
  | schoolRead
  | schoolSummary
  | courseCreate
  | courseUpdate
  | courseRead
  | reviewCreate
  | reviewUpdate
  | reviewRead
  | userRegister
  | userCreate
  | userUpdate
  | userLogin
  | userRead
  deriving DecidableEq

namespace FormKind

def all : List FormKind :=
  [schoolCreate, schoolUpdate, schoolRead, schoolSummary, courseCreate, courseUpdate, courseRead,
    reviewCreate, reviewUpdate, reviewRead, userRegister, userCreate, userUpdate, userLogin,
    userRead]

/-- The name of a form in its issues. -/
def name : FormKind → String
  | schoolCreate => "SchoolCreate"
  | schoolUpdate => "SchoolUpdate"
  | schoolRead => "SchoolRead"
  | schoolSummary => "SchoolSummary"
  | courseCreate => "CourseCreate"
  | courseUpdate => "CourseUpdate"
  | courseRead => "CourseRead"
  | reviewCreate => "ReviewCreate"
  | reviewUpdate => "ReviewUpdate"
  | reviewRead => "ReviewRead"
  | userRegister => "UserRegister"
  | userCreate => "UserCreate"
  | userUpdate => "UserUpdate"
  | userLogin => "UserLogin"
  | userRead => "UserRead"

/-- How a value without entries is reported. -/
def fault : FormKind → Fault
  | userRead => .notFields
  | kind => .notForm kind.name

def withNulls (fields : List (String × Option Datum)) : Record :=
  fields.map fun (name, value) => (name, .ofOption value)

/-- Reads the entries of a form into all its fields. -/
def readAll : FormKind → Record → Checked Record
  | schoolCreate, es => SchoolDraft.record <$> SchoolDraft.read es
  | schoolUpdate, es => (fun c => withNulls c.fields) <$> SchoolChange.read es
  | schoolRead, es => readView schoolView es
  | schoolSummary, es => readView Form.schoolSummary es
  | courseCreate, es => CourseDraft.record <$> CourseDraft.read es
  | courseUpdate, es => (fun c => withNulls c.fields) <$> CourseChange.read es
  | courseRead, es => readView courseView es
  | reviewCreate, es => ReviewDraft.record <$> ReviewDraft.read es
  | reviewUpdate, es => (fun c => withNulls c.fields) <$> ReviewChange.read es
  | reviewRead, es => readView reviewView es
  | userRegister, es => AccountDraft.record <$> AccountDraft.read openRoles es
  | userCreate, es => AccountDraft.record <$> AccountDraft.read allRoles es
  | userUpdate, es => (fun c => withNulls c.fields) <$> AccountChange.read es
  | userLogin, es => Credentials.record <$> Credentials.read es
  | userRead, es => readView accountView es

/-- All fields of a form that a value gives, and those of them that it gives itself and not as
null. -/
def check (kind : FormKind) (d : Datum) : Except (List Issue) (Record × Record) :=
  match entriesOr kind.fault (fun es => (fun r => (r, es)) <$> kind.readAll es) d with
  | .ok (all, entries) =>
    .ok (all, all.filter fun (name, value) => !value.isNull && Record.has entries name)
  | .bad issues => .error issues

end FormKind
end SchoolCatalog.Form
