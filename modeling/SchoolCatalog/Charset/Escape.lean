import SchoolCatalog.Bytes.Hex

/-!
# Escapes

Bytes that stand for the characters of the same numbers, but for backslashes: these begin escapes, by
which any character can be named. In the raw form only escapes by number with `u` and `U` count.
A character cannot be given by its name.

Main statement: `points?_of_plain`, bytes without backslashes read as they are.
-/

namespace SchoolCatalog.Charset.Escape

def backslash : UInt8 := 92

/-- The number that `n` hexadecimal digits in front are, if it is that of a code point. -/
def hex? (n : Nat) (bytes : Bytes) : Option Nat :=
  let digits := (bytes.take n).map fun b => Bytes.Hex.digit? (Char.ofNat b.toNat)
  if bytes.length < n then none
  else (digits.mapM id).bind fun ds =>
    let value := ds.foldl (fun v d => v * 16 + d) 0
    if value < 0x110000 then some value else none

def isOctal (b : UInt8) : Bool := 48 ≤ b.toNat && b.toNat < 56

/-- The number that up to three octal digits in front are. -/
def octal (digits : Bytes) : Nat := digits.foldl (fun v b => v * 8 + (b.toNat - 48)) 0

/-- The character that an escape of one letter stands for. -/
def letter? (b : UInt8) : Option Nat :=
  [('\\', 92), ('\'', 39), ('"', 34), ('b', 8), ('f', 12), ('t', 9), ('n', 10), ('r', 13), ('v', 11),
    ('a', 7)].lookup (Char.ofNat b.toNat)

/-- The code points of an escape after its backslash, and how many bytes it takes. -/
def escape? (raw : Bool) : Bytes → Option (List Nat × Nat)
  | [] => if raw then some ([backslash.toNat], 0) else none
  | b :: rest =>
    let numbered (digits : Nat) := (hex? digits rest).map fun n => ([n], digits + 1)
    let c := Char.ofNat b.toNat
    if c = 'u' then numbered 4
    else if c = 'U' then numbered 8
    else if raw then some ([backslash.toNat, b.toNat], 1)
    else if c = '\n' then some ([], 1)
    else if c = 'x' then numbered 2
    else if c = 'N' then none
    else if isOctal b then
      let digits := ((b :: rest).take 3).takeWhile isOctal
      some ([octal digits], digits.length)
    else match letter? b with
      | some n => some ([n], 1)
      | none => some ([backslash.toNat, b.toNat], 1)

/-- The code points that bytes stand for. -/
def points? (raw : Bool) : Bytes → Option (List Nat)
  | [] => some []
  | b :: rest =>
    if b = backslash then do
      let (points, n) ← escape? raw rest
      (points? raw (rest.drop n)).map (points ++ ·)
    else (points? raw rest).map (b.toNat :: ·)
termination_by bytes => bytes.length

theorem points?_of_plain {raw : Bool} {bytes : Bytes} (h : backslash ∉ bytes) :
    points? raw bytes = some (bytes.map UInt8.toNat) := by
  induction bytes with
  | nil => simp [points?]
  | cons b rest ih =>
    have hb : b ≠ backslash := fun e => h (by simp [e])
    have hr := ih fun hm => h (List.mem_cons_of_mem b hm)
    simp [points?, hb, hr]

end SchoolCatalog.Charset.Escape
