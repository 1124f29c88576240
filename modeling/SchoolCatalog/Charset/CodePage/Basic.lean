import SchoolCatalog.Bytes.Latin1

/-!
# Code pages

A code page gives a character for each byte, except for bytes that it leaves open. The first bytes
stand for the characters of the same numbers; a table has the characters of the others.

Main statement: `decode?_of_lt`, below its table a code page reads as Latin-1.
-/

namespace SchoolCatalog.Charset

structure CodePage where
  name : String
  aliases : List String := []
  /-- The characters of the last bytes. -/
  last : String

namespace CodePage

/-- Stands in a table for a byte that is left open. -/
def unused : Char := Char.ofNat 0xFFFD

/-- The character of a byte, given the table. -/
def char? (table : Array Char) (b : UInt8) : Option Char :=
  let first := 256 - table.size
  if b.toNat < first then some (Char.ofNat b.toNat)
  else table[b.toNat - first]?.filter (· != unused)

/-- The text of bytes, if none of them is left open. -/
def decode? (page : CodePage) (bytes : Bytes) : Option String :=
  let table := page.last.toList.toArray
  (bytes.mapM (char? table)).map String.ofList

theorem mapM_char?_of_lt {table : Array Char} {bytes : Bytes}
    (h : ∀ b ∈ bytes, b.toNat < 256 - table.size) :
    bytes.mapM (char? table) = some (bytes.map fun b => Char.ofNat b.toNat) := by
  induction bytes with
  | nil => rfl
  | cons b rest ih =>
    have hb : char? table b = some (Char.ofNat b.toNat) := if_pos (h b (by simp))
    have hr := ih fun c hc => h c (List.mem_cons_of_mem b hc)
    simp [List.mapM_cons, hb, hr]

/-- Bytes that stand for the characters of the same numbers. -/
theorem decode?_of_lt {page : CodePage} {bytes : Bytes}
    (h : ∀ b ∈ bytes, b.toNat < 256 - page.last.length) :
    page.decode? bytes = some (Bytes.toLatin1 bytes) := by
  have h' : ∀ b ∈ bytes, b.toNat < 256 - page.last.toList.toArray.size := by
    simpa [String.length_toList] using h
  simp [decode?, mapM_char?_of_lt h', Bytes.toLatin1]

end CodePage
end SchoolCatalog.Charset
