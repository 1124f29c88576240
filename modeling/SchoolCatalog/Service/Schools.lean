import SchoolCatalog.Service.Listing
import SchoolCatalog.Access.Caller
import SchoolCatalog.Form.Draft
import SchoolCatalog.Geo.Distance
import SchoolCatalog.Paths

/-!
# Schools

Publishing, changing and finding schools. A publisher may own one school, an admin any number. The
address is located when a school is published and whenever the address changes; where that fails the
school is stored without a location. A school may have a photo.
-/

namespace SchoolCatalog.Schools

def list (params : Parameters) : Service Record :=
  ListRequest.answer .schools params (some .schoolCourses) {}

/-- The school with an identity. -/
def get (id : Datum) : Service Record := do
  match ← ({} : Store).get .schools id none with
  | some school => return school
  | none => Service.fail (.missing (.school id))

/-- The location fields of an address, none if it is not located; an address that the geocoder does
not know is logged. -/
def locationOf (address : Wording) : Service Record := do
  match Geo.Geocoder.ofSettings? (← read).settings with
  | none => return []
  | some geocoder =>
    match ← Service.attempt (Service.locate geocoder address) with
    | .ok location => return location.record
    | .error (.unlocated why) =>
      Service.log .warning ("Storing school without coordinates: " ++ why.message)
      return []
    | .error failure => Service.fail failure

/-- Publishes a school that the caller owns. -/
def create (draft : SchoolDraft) (caller : Caller) : Service Record := do
  let store : Store := {}
  if !caller.isAdmin then
    if (← store.findOne .schools [⟨"user_id", .eq, caller.id⟩] false).isSome then
      Service.fail (.refused (.alreadyPublished caller.id))
  let location ← locationOf draft.address
  let values := Record.put (Record.putAll draft.record location) "user_id" caller.id
  let school ← Service.wording (store.insert .schools values) fun _ =>
    Service.fail (.conflict (.schoolName (.text draft.name)))
  Service.info ("User " ++ caller.id.display ++ " published school " ++
    (Record.field school "id").display)
  return school

/-- What a change writes: a new address brings its location with it, or clears the old one. -/
def changedValues (change : SchoolChange) (school : Record) : Service Record := do
  match change.address with
  | none => return change.record
  | some address =>
    if (Record.field school "address").same (.ofWording address) then return change.record
    else
      let location ← locationOf address
      return Record.putAll change.record (if location.isEmpty then Geo.noLocation else location)

def update (id : Datum) (change : SchoolChange) (caller : Caller) : Service Record := do
  let school ← get id
  Service.ofExcept (caller.ensureOwner school "update this school")
  let values ← changedValues change school
  let updated ← Service.wording (({} : Store).update .schools id values) fun _ =>
    Service.fail (.conflict (.schoolName (.ofOption (change.name.map .text))))
  match updated with
  | none => Service.fail (.missing (.school id))
  | some school =>
    Service.info ("User " ++ caller.id.display ++ " updated school " ++ id.display)
    return school

def delete (id : Datum) (caller : Caller) : Service Unit := do
  let school ← get id
  Service.ofExcept (caller.ensureOwner school "delete this school")
  let _ ← ({} : Store).delete .schools id
  Service.info ("User " ++ caller.id.display ++ " deleted school " ++ id.display)

/-! ## Searching by distance -/

/-- The distance of a school from a place, none if the school has no location. -/
def distanceFrom (origin : Geo.Location) (school : Record) : Except Failure (Option Binary64) :=
  let latitude := Record.field school "latitude"
  let longitude := Record.field school "longitude"
  if latitude.isNull || longitude.isNull then .ok none
  else
    (Geo.distanceMiles (.real origin.latitude) (.real origin.longitude) latitude longitude).map some

/-- Whether a distance is within a radius, which is a number. -/
def isWithin (radius : Datum) (miles : Binary64) : Except Failure Bool :=
  let within (order : Option Ordering) : Bool := order.any (· != .gt)
  match radius with
  | .real x => .ok (within (miles.compare? x))
  | .int i => .ok (within (miles.compareInt? i))
  | .bool b => .ok (within (miles.compareInt? (if b then 1 else 0)))
  | _ => .error .mistyped

/-- The distance of a school from a place, if it has one and it is within a radius. -/
def distanceWithin (origin : Geo.Location) (radius : Datum) (school : Record) :
    Except Failure (Option Binary64) := do
  match ← distanceFrom origin school with
  | none => return none
  | some miles => return if ← isWithin radius miles then some miles else none

/-- The schools within a radius, the nearest first. -/
def inRadius (zipcode : String) (radius : Datum) : Service (List Record) := do
  match Geo.Geocoder.ofSettings? (← read).settings with
  | none => Service.fail (.unlocated .disabled)
  | some geocoder =>
    let origin ← Service.locate geocoder (.proper zipcode)
    let schools ← ({} : Store).find .schools {}
    let measured ← Service.ofExcept (schools.mapM fun school =>
      (distanceWithin origin radius school).map fun miles => miles.map (·, school))
    let near := measured.filterMap id
    let nearer (x y : Binary64 × Record) : Bool := (x.1.compare? y.1).getD .eq ≠ .gt
    return (near.mergeSort nearer).map (·.2)

/-! ## Photos -/

/-- The extension of a file name: the last dot of its last part and what follows it, unless only
dots precede that dot. -/
def extension (filename : Wording) : Wording :=
  let isDot (n : Nat) : Bool := n == '.'.toNat
  let last := filename.points.reverse.takeWhile (· != '/'.toNat)
  let ext := last.takeWhile (!isDot ·)
  let stem := last.drop (ext.length + 1)
  if last.any isDot && !stem.all isDot then .ofPoints ('.'.toNat :: ext.reverse) else .proper ""

/-- The name under which a school's photo is stored. -/
def photoName (id : Datum) (filename : Option Wording) : Wording :=
  (extension (filename.getD (.proper ""))).prepend ("photo_" ++ id.display)

/-- Refuses what is no image of an allowed size. -/
def admitPhoto (contentType : Option String) (content : Bytes) (limit : Int) :
    Except Failure Unit :=
  if content.isEmpty then .error (.refused .emptyUpload)
  else if !(contentType.getD "").startsWith "image" then .error (.refused .notAnImage)
  else if limit < content.length then .error (.refused (.largeUpload limit))
  else .ok ()

/-- The bytes of a name in a folder, unless no file can have it. -/
def fileName (folder : String) (name : Wording) : Except Failure Bytes :=
  match name.encodeName with
  | .error fault => .error (.unencodable (fault.after (Paths.front folder).length))
  | .ok bytes =>
    if bytes.contains 0 then .error (.refused .embeddedNul)
    else if Paths.longestName < bytes.length then .error .unwritable
    else .ok bytes

/-- The stored files after one is written. -/
def writeFile (files : List (Bytes × Bytes)) (name content : Bytes) : List (Bytes × Bytes) :=
  (files.filter fun (n, _) => n != name) ++ [(name, content)]

/-- Records the name of a school's photo. -/
def recordPhoto (id : Datum) (name : Wording) : Service Wording := do
  let _ ← ({} : Store).update .schools id [("photo", .ofWording name)]
  Service.info ("Stored photo " ++ name.lossy ++ " for school " ++ id.display)
  return name

/-- The name of the file for a photo, if the caller may give the school one and the photo is allowed. -/
def photoFile (id : Datum) (filename : Option Wording) (contentType : Option String)
    (content : Bytes) (caller : Caller) : Service Bytes := do
  let school ← get id
  Service.ofExcept (caller.ensureOwner school "update this school")
  let settings := (← read).settings
  Service.ofExcept (admitPhoto contentType content settings.maxFileUpload)
  Service.ofExcept (fileName settings.fileUploadPath (photoName id filename))

/-- Stores a photo and answers with the name of its file. -/
def uploadPhoto (id : Datum) (filename : Option Wording) (contentType : Option String)
    (content : Bytes) (caller : Caller) : Service Wording := do
  let file ← photoFile id filename contentType content caller
  modify fun s => { s with uploads := writeFile s.uploads file content }
  recordPhoto id (photoName id filename)

end SchoolCatalog.Schools
