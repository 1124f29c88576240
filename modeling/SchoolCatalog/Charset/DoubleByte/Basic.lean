import SchoolCatalog.Bytes.Utf8

/-!
# Bytes in pairs

A character set with more characters than there are bytes reads them in pairs, or in still longer
groups, that a table tells the characters of. The first byte of a group tells that a group begins.

Main statement: `readAll?_of_single`, bytes that are characters of their own read one by one.
-/

namespace SchoolCatalog.Charset.DoubleByte

/-- Reads the character that a byte and those after it begin with, and says how many of those after
it belong to it. -/
abbrev CharReader := UInt8 → Bytes → Option (Char × Nat)

/-- The characters of a string of bytes. -/
def readAll? (read? : CharReader) : Bytes → Option (List Char)
  | [] => some []
  | b :: rest => do
    let (c, n) ← read? b rest
    (readAll? read? (rest.drop n)).map (c :: ·)
termination_by bytes => bytes.length

theorem readAll?_of_single {read? : CharReader} {char : UInt8 → Char} {bytes : Bytes}
    (h : ∀ b ∈ bytes, ∀ rest, read? b rest = some (char b, 0)) :
    readAll? read? bytes = some (bytes.map char) := by
  induction bytes with
  | nil => simp [readAll?]
  | cons b rest ih =>
    have hb := h b (by simp) rest
    have hr := ih fun c hc => h c (List.mem_cons_of_mem b hc)
    simp [readAll?, hb, hr]

/-! ## Tables -/

/-- Stands in a table for a place that has no character. -/
def unused : Char := Char.ofNat 0xFFFD

/-- Characters at consecutive places of a table. -/
structure Run where
  first : Nat
  chars : List Char

/-- The rows of 94 cells from a row on; the first row of a table is 1. -/
def rowsFrom (row : Nat) (rows : List String) : List Run :=
  rows.zipIdx.map fun (s, i) => ⟨(row + i - 1) * 94, s.toList⟩

/-- A table of a number of places with the characters of some runs; later ones are written over
earlier ones. -/
def write (table : Array Char) (runs : List Run) : Array Char :=
  runs.foldl (fun table run =>
    (run.chars.zipIdx run.first).foldl (fun table (c, i) => table.setIfInBounds i c) table) table

def tableOf (size : Nat) (runs : List Run) : Array Char := write (Array.replicate size unused) runs

/-- The character at a place, if there is one. -/
def charAt? (table : Array Char) (place : Nat) : Option Char := table[place]?.filter (· != unused)

/-- Writes characters one after the other at the given places that have none yet. -/
def fill (table : Array Char) (places : List Nat) (chars : List Char) : Array Char :=
  let free := places.filter fun i => (charAt? table i).isNone
  (free.zip chars).foldl (fun table (i, c) => table.setIfInBounds i c) table

/-! ## Places -/

/-- Whether a number is between two others or one of them. -/
def within (least most n : Nat) : Bool := least ≤ n && n ≤ most

/-- How far a byte is among those of some ranges. -/
def offset? (ranges : List (Nat × Nat)) (n : Nat) : Option Nat :=
  match ranges with
  | [] => none
  | (least, most) :: more =>
    if within least most n then some (n - least)
    else (offset? more n).map (· + (most + 1 - least))

/-- The place of a pair of bytes whose first and second ones are in the given ranges, with `width`
places for each first byte. -/
def place? (firsts seconds : List (Nat × Nat)) (width a b : Nat) : Option Nat := do
  return (← offset? firsts a) * width + (← offset? seconds b)

/-- The place of a pair of bytes above 160. -/
def highPlace? (a b : Nat) : Option Nat := place? [(0xA1, 0xFE)] [(0xA1, 0xFE)] 94 a b

/-- Reads a byte of ASCII, or two bytes by a table. -/
def pairReader (pair? : Nat → Nat → Option Char) : CharReader := fun a rest =>
  if a.toNat < 0x80 then some (Char.ofNat a.toNat, 0)
  else rest.head?.bind fun b => (pair? a.toNat b.toNat).map (·, 1)

theorem readAll?_pairReader_of_ascii {pair? : Nat → Nat → Option Char} {bytes : Bytes}
    (h : ∀ b ∈ bytes, b.toNat < 0x80) :
    readAll? (pairReader pair?) bytes = some (bytes.map fun b => Char.ofNat b.toNat) :=
  readAll?_of_single fun b hb _ => if_pos (h b hb)

end SchoolCatalog.Charset.DoubleByte
