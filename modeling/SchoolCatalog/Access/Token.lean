import SchoolCatalog.Bytes.Base64Url
import SchoolCatalog.Digest.Hmac
import SchoolCatalog.Failure
import SchoolCatalog.Json.Parser
import SchoolCatalog.Json.Printer
import SchoolCatalog.Settings

/-!
# Access tokens

A token is a header, a payload of claims and a signature, each in base64 for addresses, joined by
dots. The signature is the keyed digest of the first two parts as they are written. A token is
accepted if its signature is right and its claim `exp` is not past.
-/

namespace SchoolCatalog.Token

/-- The clock's whole seconds: the clock is a binary64 number that stands half a second past `now`, and
a fraction is dropped toward zero. -/
def seconds (now : Int) : Except Failure Int :=
  match (Binary64.ofInt? now).bind Binary64.signedUnits? with
  | some units => match (Binary64.ofSignedUnits (units + (Binary64.one / 2 : Nat))).truncate? with
    | some n => .ok n
    | none => .error .outOfRange
  | none => .error .outOfRange

def sign (message : Bytes) (secret : String) : Bytes := Digest.hmac (Bytes.ofText secret) message

/-- A JSON text in base64. -/
def part (text : String) : String := Bytes.Base64Url.encode (Bytes.ofText text)

/-- How long a token lasts: the given lifetime unless it is zero, else that of the settings. -/
def lifetime (settings : Settings) (given : Option Int) : Int :=
  match given with
  | some n => if n = 0 then settings.accessTokenExpireMinutes * 60 else n
  | none => settings.accessTokenExpireMinutes * 60

/-- The JSON text of a value in a token; a value that is too deep to be read has none. -/
def jsonText (d : Datum) : Except Failure String :=
  if Json.maxDepth < Json.nesting d then .error .tooDeep
  else (Json.render d).mapError fun
    | .bytes => .mistyped
    | .longInteger => .refused .unwrittenInteger

/-- A token for claims, issued now; each claim has to have a JSON form. -/
def create (settings : Settings) (now : Int) (claims : Record) (given : Option Int) :
    Except Failure String := do
  let claims := Record.put claims "exp" (.int ((← seconds now) + lifetime settings given))
  let header : Datum := .dict [("alg", .text settings.algorithm), ("typ", .text "JWT")]
  let signed := part (← jsonText header) ++ "." ++ part (← jsonText (.dict claims))
  let signature := sign (Bytes.ofText signed) settings.secretKey
  return signed ++ "." ++ Bytes.Base64Url.encode signature

/-- The claims of a payload, if it reads as a record; a payload that is too deep fails. -/
def claimsOf (payload : String) : Except Failure (Option Record) :=
  match Bytes.Base64Url.decode payload with
  | .error _ => .ok none
  | .ok bytes => match (Bytes.toText? bytes).map Json.parse with
    | some (.ok (.dict claims)) => .ok (some claims)
    | some (.error .tooDeep) => .error .tooDeep
    | _ => .ok none

/-- The claims of a token unless they are past; a time that does not read as an integer is a
failure. -/
def current (now : Int) (claims : Record) : Except Failure (Option Record) :=
  if (Record.field claims "exp").isNull then .ok none
  else do
    let exp ← (Record.field claims "exp").toWhole
    return if exp < (← seconds now) then none else some claims

/-- The claims of a token that is rightly signed and not past. -/
def decode (settings : Settings) (now : Int) (token : String) : Except Failure (Option Record) :=
  match Text.split '.' token with
  | [header, payload, signature] =>
    match Bytes.Base64Url.decode signature with
    | .error _ => .ok none
    | .ok bytes =>
      if sign (Bytes.ofText (header ++ "." ++ payload)) settings.secretKey = bytes then
        match claimsOf payload with
        | .error failure => .error failure
        | .ok none => .ok none
        | .ok (some claims) => current now claims
      else .ok none
  | _ => .ok none

end SchoolCatalog.Token
