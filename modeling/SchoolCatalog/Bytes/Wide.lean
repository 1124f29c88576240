import SchoolCatalog.Bytes.Utf8

/-!
# Code points in wide units

The code points that strings of bytes stand for in UTF-16 and UTF-32, in either order of bytes. A
half of a UTF-16 pair that stands alone is left as it is. Bytes that are left over after the last
unit, and units that are no code point, stand for none.

Main statement: `joinPairs_of_noHalf`, only halves are joined.
-/

namespace SchoolCatalog.Bytes

/-- The number that a list of bytes is, the most significant byte first or last. -/
def number (bigEndian : Bool) (bytes : Bytes) : Nat :=
  (if bigEndian then bytes else bytes.reverse).foldl (fun n b => n * 256 + b.toNat) 0

/-- The units of two bytes. -/
def pairs? (bigEndian : Bool) : Bytes → Option (List Nat)
  | [] => some []
  | a :: b :: rest => (pairs? bigEndian rest).map (number bigEndian [a, b] :: ·)
  | _ => none

/-- The units of four bytes. -/
def quads? (bigEndian : Bool) : Bytes → Option (List Nat)
  | [] => some []
  | a :: b :: c :: d :: rest => (quads? bigEndian rest).map (number bigEndian [a, b, c, d] :: ·)
  | _ => none

def isHighHalf (n : Nat) : Bool := 0xD800 ≤ n && n < 0xDC00

def isLowHalf (n : Nat) : Bool := 0xDC00 ≤ n && n < 0xE000

/-- The code point of a pair of halves. -/
def joined (high low : Nat) : Nat := 0x10000 + (high - 0xD800) * 0x400 + (low - 0xDC00)

/-- The code points of UTF-16 units. -/
def joinPairs : List Nat → List Nat
  | [] => []
  | [n] => [n]
  | n :: m :: rest =>
    if isHighHalf n && isLowHalf m then joined n m :: joinPairs rest
    else n :: joinPairs (m :: rest)

theorem joinPairs_of_noHalf : ∀ {units : List Nat}, (∀ n ∈ units, isHighHalf n = false) →
    joinPairs units = units
  | [], _ => rfl
  | [_], _ => rfl
  | n :: m :: rest, h => by
    have hn : isHighHalf n = false := h n (by simp)
    have hr : joinPairs (m :: rest) = m :: rest :=
      joinPairs_of_noHalf fun k hk => h k (List.mem_cons_of_mem n hk)
    simp [joinPairs, hn, hr]

/-- The code points whose UTF-16 form the bytes are. -/
def points16? (bigEndian : Bool) (bytes : Bytes) : Option (List Nat) :=
  (pairs? bigEndian bytes).map joinPairs

/-- The code points whose UTF-32 form the bytes are. -/
def points32? (bigEndian : Bool) (bytes : Bytes) : Option (List Nat) :=
  (quads? bigEndian bytes).bind fun units =>
    if units.all (· < 0x110000) then some units else none

end SchoolCatalog.Bytes
