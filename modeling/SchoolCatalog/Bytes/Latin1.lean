import SchoolCatalog.Bytes.Utf8

/-!
# Bytes as characters

Latin-1 reads each byte as the character of the same number, so that every string of bytes is a text.

Main statement: `toLatin1_ofLatin1`, the bytes are not lost.
-/

namespace SchoolCatalog.Bytes

/-- The text that has a character for each byte. -/
def toLatin1 (bytes : Bytes) : String := String.ofList (bytes.map fun b => Char.ofNat b.toNat)

/-- The bytes of a text whose characters are all below 256. -/
def ofLatin1 (s : String) : Bytes := s.toList.map fun c => UInt8.ofNat c.toNat

theorem toNat_ofNat_byte (b : UInt8) : UInt8.ofNat (Char.ofNat b.toNat).toNat = b := by
  have h : b.toNat < 256 := b.toNat_lt
  have valid : b.toNat.isValidChar := Or.inl (by omega)
  rw [Char.ofNat, dif_pos valid]
  exact UInt8.ofNat_toNat

theorem toLatin1_ofLatin1 (bytes : Bytes) : ofLatin1 (toLatin1 bytes) = bytes := by
  induction bytes with
  | nil => rfl
  | cons b rest ih =>
    simp only [ofLatin1, toLatin1, String.toList_ofList, List.map_cons] at ih ⊢
    rw [toNat_ofNat_byte, ih]

/-- A text whose characters are all below 256 is not lost either. -/
theorem ofLatin1_toLatin1 {s : String} (h : ∀ c ∈ s.toList, c.toNat < 256) :
    toLatin1 (ofLatin1 s) = s := by
  have hchar : ∀ c ∈ s.toList, Char.ofNat (UInt8.ofNat c.toNat).toNat = c := by
    intro c hc
    rw [UInt8.toNat_ofNat_of_lt' (h c hc), Char.ofNat_toNat]
  have hsame : s.toList.map (fun c => Char.ofNat (UInt8.ofNat c.toNat).toNat) = s.toList :=
    (List.map_congr_left hchar).trans (List.map_id _)
  rw [toLatin1, ofLatin1, List.map_map]
  exact (congrArg String.ofList hsame).trans String.ofList_toList

end SchoolCatalog.Bytes
