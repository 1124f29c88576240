import SchoolCatalog.Failure
import SchoolCatalog.Json.Encoding
import SchoolCatalog.Json.Parser
import SchoolCatalog.Settings
import SchoolCatalog.Text.Case

/-!
# Locating addresses

A geocoder answers an address with a list of matches in JSON, of which the first counts. This module
says how the request is made up, how a reply is read, and why a reply gives no location.
-/

namespace SchoolCatalog.Geo

/-- Where an address lies, and how the geocoder writes it. -/
structure Location where
  latitude : Binary64
  longitude : Binary64
  formattedAddress : Datum
  street : Datum
  city : Datum
  state : Datum
  zipcode : Datum
  country : Datum

def locationFields : List String :=
  ["latitude", "longitude", "formatted_address", "street", "city", "state", "zipcode", "country"]

def Location.record (l : Location) : Record :=
  [("latitude", .real l.latitude), ("longitude", .real l.longitude),
    ("formatted_address", l.formattedAddress), ("street", l.street), ("city", l.city),
    ("state", l.state), ("zipcode", l.zipcode), ("country", l.country)]

/-- The location fields of an address that has no known location. -/
def noLocation : Record := locationFields.map fun name => (name, .null)

/-- What comes back for a request. -/
inductive Reply where
  | unreachable
  | answered (body : Bytes) (status : Int)
  deriving DecidableEq

/-- A geocoder that is in use. -/
structure Geocoder where
  baseUrl : String
  apiKey : Option String
  timeout : Seconds
  userAgent : String

/-- A request that was made. -/
structure Call where
  url : String
  parameters : Record
  timeout : Seconds
  headers : Record

/-- A text without the slashes at its end. -/
def dropSlashes (url : String) : String :=
  String.ofList (url.toList.reverse.dropWhile (· == '/')).reverse

def Geocoder.ofParts (baseUrl : String) (apiKey : Option String) (timeout : Seconds)
    (userAgent : String) : Geocoder :=
  ⟨dropSlashes baseUrl, apiKey, timeout, userAgent⟩

/-- The geocoder of the settings, unless it is switched off. -/
def Geocoder.ofSettings? (s : Settings) : Option Geocoder :=
  if ["", "none", "off"].contains (Text.lower s.geocoderProvider) then none
  else some (.ofParts s.geocoderUrl
    (if s.geocoderApiKey.isEmpty then none else some s.geocoderApiKey)
    s.geocoderTimeout s.geocoderUserAgent)

/-- The request for an address. -/
def Geocoder.call (g : Geocoder) (address : Wording) : Call :=
  let key : Record := match g.apiKey with
    | some key => if key.isEmpty then [] else [("key", .text key)]
    | none => []
  { url := g.baseUrl ++ "/search"
    parameters := [("q", .ofWording address), ("format", .text "json"), ("addressdetails", .int 1),
      ("limit", .int 1)] ++ key
    timeout := g.timeout
    headers := [("User-Agent", .text g.userAgent)] }

/-- Why a match cannot be used: it is not of the expected form, or a number in it is too large. -/
inductive MatchFault where
  | malformed
  | outOfRange
  deriving DecidableEq

/-- The first of two values that is present; the second if neither is. -/
def orElse (x y : Datum) : Datum := if x.isTruthy then x else y

def wordingOf (d : Datum) : Except MatchFault Wording :=
  match d.wording? with
  | some w => .ok w
  | none => .error .malformed

/-- The texts that are present, joined by spaces; null if there is none. -/
def joinPresent (parts : List Datum) : Except MatchFault Datum :=
  let present := parts.filter Datum.isTruthy
  if present.isEmpty then .ok .null
  else (present.mapM wordingOf).map fun texts =>
    .ofWording (.ofPoints ([0x20].intercalate (texts.map Wording.points)))

/-- The record under a name; an absent or empty value is an empty record. -/
def detailsOf (item : Record) : Except MatchFault Record :=
  let d := Record.field item "address"
  if !d.isTruthy then .ok []
  else match d with
    | .dict details => .ok details
    | _ => .error .malformed

def coordinate (item : Record) (name : String) : Except MatchFault Binary64 :=
  match Record.get? item name with
  | none => .error .malformed
  | some d => d.toNumber.mapError fun
    | .outOfRange => .outOfRange
    | _ => .malformed

def countryCode (d : Datum) : Except MatchFault Datum :=
  if !d.isTruthy then .ok .null
  else (wordingOf d).map fun w => .ofWording w.upper

/-- The location that a match describes. -/
def Location.ofMatch : Datum → Except MatchFault Location
  | .dict item => do
    let details ← detailsOf item
    let street ← joinPresent [Record.field details "house_number", Record.field details "road"]
    let latitude ← coordinate item "lat"
    let longitude ← coordinate item "lon"
    let country ← countryCode (Record.field details "country_code")
    return {
      latitude, longitude, street, country
      formattedAddress := Record.field item "display_name"
      city := orElse (orElse (Record.field details "city") (Record.field details "town"))
        (Record.field details "village")
      state := Record.field details "state"
      zipcode := Record.field details "postcode" }
  | _ => .error .malformed

/-- The text of a reply's body; one of up to three bytes is not looked at for its encoding. -/
def bodyText? (body : Bytes) : Option String :=
  if body.length ≤ 3 then Bytes.toText? body
  else (Json.Encoding.strict? body).bind fun encoding => encoding.decodeText? body

/-- The value that a reply's body is the JSON form of; a text that is too deep fails, and what does
not read otherwise is no value. -/
def bodyValue (body : Bytes) : Except Failure (Option Datum) :=
  match (bodyText? body).map Json.parse with
  | some (.ok d) => .ok (some d)
  | some (.error .tooDeep) => .error .tooDeep
  | _ => .ok none

/-- The location that a reply gives for an address. -/
def Location.ofReply (address : Wording) : Reply → Except Failure Location
  | .unreachable => .error (.unlocated (.failed address))
  | .answered body status =>
    if 400 ≤ status && status < 600 then .error (.unlocated (.failed address))
    else match bodyValue body with
      | .error failure => .error failure
      | .ok none => .error (.unlocated (.failed address))
      | .ok (some (.list (first :: _))) => (Location.ofMatch first).mapError fun
        | .malformed => .unlocated (.failed address)
        | .outOfRange => .outOfRange
      | .ok (some _) => .error (.unlocated (.notFound address))

end SchoolCatalog.Geo
