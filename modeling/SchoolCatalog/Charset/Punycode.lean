import SchoolCatalog.Bytes.Utf8

/-!
# Punycode

A text in ASCII: first the characters of ASCII that are in it and a hyphen, then, as letters and
digits, where the other characters go between them. Those are given in the order of their numbers, as
counts of steps in numbers of variable length.

Main statement: `length_of_number?`, a number takes a character at least.
-/

namespace SchoolCatalog.Charset.Punycode

/-- The value of a letter in either case, or of a digit. -/
def digit? (b : UInt8) : Option Nat :=
  let n := b.toNat
  if 0x41 ≤ n && n ≤ 0x5A then some (n - 0x41)
  else if 0x61 ≤ n && n ≤ 0x7A then some (n - 0x61)
  else if 0x30 ≤ n && n ≤ 0x39 then some (n - 0x30 + 26)
  else none

/-- The digits below which the number ends, at a place in it. -/
def threshold (bias place : Nat) : Nat := max 1 (min 26 (36 * (place + 1) - bias))

/-- Reads a number on from a place in it, with the weight of that place and the value so far. -/
def number? (bias place weight value : Nat) : Bytes → Option (Nat × Bytes)
  | [] => none
  | b :: rest => (digit? b).bind fun d =>
    let t := threshold bias place
    let value := value + d * weight
    if d < t then some (value, rest) else number? bias (place + 1) (weight * (36 - t)) value rest

theorem length_of_number? {bias place weight value n : Nat} {bytes rest : Bytes}
    (h : number? bias place weight value bytes = some (n, rest)) : rest.length < bytes.length := by
  induction bytes generalizing place weight value with
  | nil => simp [number?] at h
  | cons b bs ih =>
    obtain ⟨d, -, h⟩ := Option.bind_eq_some_iff.1 h
    dsimp only at h
    split at h
    · obtain ⟨rfl, rfl⟩ := Prod.mk.injEq .. ▸ Option.some.injEq .. ▸ h
      simp
    · exact Nat.lt_succ_of_lt (ih h)

/-- The bias that follows from a step, after divisions by 35. -/
def biasOf (divisions delta : Nat) : Nat :=
  if 455 < delta then biasOf (divisions + 36) (delta / 35)
  else divisions + 36 * delta / (delta + 38)
termination_by delta
decreasing_by omega

/-- The bias after a step, given how many characters there are now. -/
def adapt (first : Bool) (delta count : Nat) : Nat :=
  let delta := if first then delta / 700 else delta / 2
  biasOf 0 (delta + delta / count)

/-- Puts characters among those that are there: `point` is the one that was put last and `next` the
place after it. None if a number is no number or a character is out of range. -/
def insertAll? (first : Bool) (bias point next : Nat) (points : List Nat) (bytes : Bytes) :
    Option (List Nat) :=
  if bytes.isEmpty then some points
  else match _h : number? bias 0 1 0 bytes with
    | none => none
    | some (delta, rest) =>
      let count := points.length + 1
      let point := point + (next + delta) / count
      let place := (next + delta) % count
      if 0x10FFFF < point then none
      else
        insertAll? false (adapt first delta count) point (place + 1)
          (points.take place ++ point :: points.drop place) rest
termination_by bytes.length
decreasing_by exact length_of_number? _h

/-- The code points of a text. -/
def points? (bytes : Bytes) : Option (List Nat) :=
  let extended := (bytes.reverse.takeWhile (· != 45)).reverse
  let base := bytes.take (bytes.length - extended.length - 1)
  insertAll? true 72 0x80 0 (base.map UInt8.toNat) extended

end SchoolCatalog.Charset.Punycode
