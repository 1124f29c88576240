import Mathlib.Tactic.SplitIfs
import SchoolCatalog.Bytes.Utf8

/-!
# Texts read back

A text is the only one that its bytes are the UTF-8 form of, and a byte below 128 stands for one
character only.

Results: `toText?_ofText`, `ofText_append`, `toNat_of_ascii`.
-/

namespace SchoolCatalog.Bytes

theorem toList_loop (bytes : ByteArray) (i : Nat) (read : List UInt8) :
    ByteArray.toList.loop bytes i read = read.reverse ++ bytes.data.toList.drop i := by
  fun_induction ByteArray.toList.loop bytes i read with
  | case1 i read h ih =>
    have hi : i < bytes.data.toList.length := h
    rw [ih, List.drop_eq_getElem_cons hi, List.reverse_cons, List.append_assoc]
    have hget : bytes.get! i = bytes.data.toList[i] := getElem!_pos bytes.data i h
    rw [hget]
    rfl
  | case2 i read h =>
    have hi : bytes.data.toList.length ≤ i := Nat.le_of_not_lt h
    rw [List.drop_eq_nil_of_le hi, List.append_nil]

theorem ofText_eq (s : String) : ofText s = s.toByteArray.data.toList := by
  rw [ofText, String.toUTF8_eq_toByteArray, ByteArray.toList, toList_loop]
  rfl

theorem ofText_append (s t : String) : ofText (s ++ t) = ofText s ++ ofText t := by
  simp only [ofText_eq, String.toByteArray_append, ByteArray.data_append, Array.toList_append]

theorem ofText_eq_flatMap (s : String) : ofText s = s.toList.flatMap String.utf8EncodeChar := by
  rw [ofText_eq, ← String.ofList_toList (s := s), String.toByteArray_ofList, List.utf8Encode,
    String.toList_ofList]
  simp

/-- A byte below 128 stands for the character of that number, and is no part of another. -/
theorem toNat_of_ascii {c : Char} {b : UInt8} (hb : b ∈ String.utf8EncodeChar c)
    (hascii : b.toNat < 128) : c.toNat = b.toNat := by
  have hnat {k : Nat} (hk : b = UInt8.ofNat k) : b.toNat = k % 256 := hk ▸ UInt8.toNat_ofNat'
  have hval : c.val.toNat = c.toNat := rfl
  rw [String.utf8EncodeChar] at hb
  -- the forms of one to four bytes
  split_ifs at hb
  all_goals simp only [List.mem_cons, List.not_mem_nil, or_false] at hb
  · have := hnat hb
    omega
  · rcases hb with hb | hb <;> have := hnat hb <;> omega
  · rcases hb with hb | hb | hb <;> have := hnat hb <;> omega
  · rcases hb with hb | hb | hb | hb <;> have := hnat hb <;> omega

theorem toText?_ofText (s : String) : toText? (ofText s) = some s := by
  have hbytes : ByteArray.mk (ofText s).toArray = s.toByteArray := by rw [ofText_eq]
  rw [toText?, hbytes, String.fromUTF8?, dif_pos s.isValidUTF8]
  rfl

theorem ofText_injective {s t : String} (h : ofText s = ofText t) : s = t :=
  Option.some.inj ((toText?_ofText s).symm.trans ((congrArg toText? h).trans (toText?_ofText t)))

end SchoolCatalog.Bytes
