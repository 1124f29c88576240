import SchoolCatalog.Digest.Hmac
import SchoolCatalog.Bytes.Hex
import SchoolCatalog.Failure
import SchoolCatalog.Number.Word

/-!
# Passwords

A password is kept as a salt and an iterated keyed digest, both in hexadecimal with a dollar sign
between them.
-/

namespace SchoolCatalog.Password

/-- How often the digest of a password is iterated. -/
def standardIterations : Int := 100000

/-- The most iterations that are carried out. -/
def mostIterations : Int := 2147483647

/-- The iterated digest of a password; there has to be an iteration, and not too many of them. -/
def digest (password : Wording) (salt : Bytes) (iterations : Int) : Except Failure Bytes :=
  match password.encode with
  | .error fault => .error (.unencodable fault)
  | .ok bytes =>
    if mostIterations < iterations || iterations < Number.leastWord then .error .outOfRange
    else if iterations < 1 then .error (.refused .noIterations)
    else .ok (Digest.pbkdf2 bytes salt iterations.toNat)

/-- The kept form of a password. -/
def keep (password : Wording) (salt : Bytes) (iterations : Int) : Except Failure String :=
  (digest password salt iterations).map fun bytes =>
    Bytes.Hex.encode salt ++ "$" ++ Bytes.Hex.encode bytes

/-- The salt and the digest of a kept form. -/
def parts? (kept : String) : Option (Bytes × Bytes) :=
  match Text.cut '$' kept with
  | (salt, some digest) => match Bytes.Hex.decode? salt, Bytes.Hex.decode? digest with
    | some salt, some digest => some (salt, digest)
    | _, _ => none
  | (_, none) => none

/-- Whether a password has the given kept form; a form that does not read is nobody's. -/
def verify (password : Wording) (kept : String) (iterations : Int) : Except Failure Bool :=
  match parts? kept with
  | none => .ok false
  | some (salt, expected) => (digest password salt iterations).map (· == expected)

/-- The salt that is drawn as the `n`-th from a seed. -/
def saltOf (seed : Bytes) (n : Nat) : Bytes :=
  (Digest.hmac seed (Bytes.ofText (toString n))).take 16

end SchoolCatalog.Password
