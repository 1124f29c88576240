import SchoolCatalog.Digest.Sha256

/-!
# Keyed digests

HMAC with SHA-256, and the password digest PBKDF2 that iterates it. A key longer than a block of 64
bytes is replaced by its digest, and every key is filled up with zero bytes to a block.
-/

namespace SchoolCatalog.Digest

/-- The block that stands for a key. -/
def keyBlock (key : Bytes) : Bytes :=
  let short := if 64 < key.length then sha256 key else key
  short ++ List.replicate (64 - short.length) 0

/-- The keyed digest of a message, given the key's block. -/
def hmacBlock (block message : Bytes) : Bytes :=
  sha256 (block.map (· ^^^ 0x5c) ++ sha256 (block.map (· ^^^ 0x36) ++ message))

/-- The keyed digest of a message. -/
def hmac (key message : Bytes) : Bytes := hmacBlock (keyBlock key) message

def xorBytes (xs ys : Bytes) : Bytes := List.zipWith (· ^^^ ·) xs ys

/-- The keyed digest iterated `n` more times from `u`, all results added up by exclusive or. -/
def iterate (block : Bytes) : Nat → Bytes → Bytes → Bytes
  | 0, _, total => total
  | n + 1, u, total =>
    let next := hmacBlock block u
    iterate block n next (xorBytes total next)

/-- The PBKDF2 digest of 32 bytes. -/
def pbkdf2 (password salt : Bytes) (iterations : Nat) : Bytes :=
  let block := keyBlock password
  let first := hmacBlock block (salt ++ [0, 0, 0, 1])
  iterate block (iterations - 1) first first

end SchoolCatalog.Digest
