import SchoolCatalog.Proofs.Bytes.Utf8
import SchoolCatalog.Proofs.Number.Digits
import SchoolCatalog.Service.Schools

/-!
# Names of photos

A photo is stored under a name that starts with the identity of its school. What follows comes from the
name that the sender gave the file, cut down to its extension: nothing, or a dot and then neither another
dot nor a slash. So no such name leads out of the folder of the photos, and the identity can be read off
it, from its text as from its bytes.

Results:
1. `isExtension_extension`: what is left of a file name.
2. `mem_encodeName`: the bytes below 128 of a name are those of its characters.
3. `IsPhotoName.no_slash`, `IsPhotoName.no_slash_file`: a name, and its file, stay in their folder.
4. `IsPhotoName.eq_of_file`: the file of a name is of one school.
-/

namespace SchoolCatalog

namespace Wording

/-! ## Code points -/

/-- A number that is no code point has the character of code zero. -/
theorem eq_of_toNat_ofNat {n code : Nat} (h : (Char.ofNat n).toNat = code) (hpos : 0 < code) :
    n = code := by
  unfold Char.ofNat at h
  split at h
  next => exact h
  next => exact absurd h (Nat.ne_of_lt hpos)

theorem isHalf_toNat (c : Char) : isHalf c.toNat = false := by
  have hvalid : c.toNat < 0xD800 ∨ 0xDFFF < c.toNat ∧ c.toNat < 0x110000 := c.valid
  simp only [isHalf, Bool.and_eq_false_iff, decide_eq_false_iff_not]
  omega

theorem char?_toNat (c : Char) : char? c.toNat = some c := by
  rw [char?, isHalf_toNat, if_neg Bool.false_ne_true, Char.ofNat_toNat]

/-- A wording holds the code points that it is put together from. -/
theorem points_ofPoints (points : List Nat) : (ofPoints points).points = points ∨
    (ofPoints points).points = points.map fun n => (Char.ofNat n).toNat := by
  unfold ofPoints
  split
  next => exact .inl rfl
  next => exact .inr (by simp [Wording.points, Function.comp_def])

theorem points_prepend (front : String) (w : Wording) :
    (w.prepend front).points = front.toList.map Char.toNat ++ w.points := by
  cases w with
  | proper s => simp [prepend, points, String.toList_append]
  | broken points => rfl

/-! ## Bytes -/

theorem fileBytes_toNat (c : Char) : fileBytes c.toNat = String.utf8EncodeChar c := by
  rw [fileBytes, char?_toNat]
  dsimp only
  rw [Bytes.ofText_eq_flatMap, String.toList_singleton, List.flatMap_singleton]

/-- The bytes of a text as the name of a file are those of its characters. -/
theorem ofText_eq_fileBytes (s : String) :
    Bytes.ofText s = (s.toList.map Char.toNat).flatMap fileBytes := by
  rw [Bytes.ofText_eq_flatMap, List.flatMap_map]
  exact List.flatMap_congr fun c _ => (fileBytes_toNat c).symm

/-- The bytes of a name are those of its code points, of which each is a character or stands for a byte. -/
theorem encodeName_ok {w : Wording} {bytes : Bytes} (h : w.encodeName = .ok bytes) :
    bytes = w.points.flatMap fileBytes ∧
      ∀ n ∈ w.points, isHalf n = true → isByteHalf n = true := by
  cases w with
  | proper s =>
    obtain rfl := Except.ok.inj h
    refine ⟨ofText_eq_fileBytes s, fun n hn hhalf => ?_⟩
    obtain ⟨c, _, rfl⟩ := List.mem_map.1 hn
    exact absurd (isHalf_toNat c).symm (hhalf ▸ Bool.false_ne_true)
  | broken points =>
    rw [encodeName] at h
    split at h
    next hall =>
      refine ⟨(Except.ok.inj h).symm, fun n hn hhalf => ?_⟩
      have hpasses := List.all_eq_true.1 hall n hn
      rwa [hhalf, Bool.not_true, Bool.false_or] at hpasses
    next => exact nomatch h

/-- A byte below 128 of a code point is that code point. -/
theorem eq_of_mem_fileBytes {n : Nat} {b : UInt8} (hb : b ∈ fileBytes n)
    (hbyte : isHalf n = true → isByteHalf n = true) (hpos : 0 < b.toNat) (hascii : b.toNat < 128) :
    n = b.toNat := by
  cases hhalf : isHalf n with
  | false =>
    have hchar : b ∈ String.utf8EncodeChar (Char.ofNat n) := by
      rw [fileBytes, char?, hhalf, if_neg Bool.false_ne_true] at hb
      dsimp only at hb
      rwa [Bytes.ofText_eq_flatMap, String.toList_singleton, List.flatMap_singleton] at hb
    exact eq_of_toNat_ofNat (Bytes.toNat_of_ascii hchar hascii) hpos
  | true =>
    rw [fileBytes, char?, hhalf, if_pos rfl] at hb
    have hvalue : b.toNat = (n - 0xDC00) % 256 :=
      List.mem_singleton.1 hb ▸ UInt8.toNat_ofNat'
    have hrange := hbyte hhalf
    simp only [isByteHalf, Bool.and_eq_true, decide_eq_true_eq] at hrange
    omega

/-- A byte below 128 of a name is one of its code points. -/
theorem mem_encodeName {w : Wording} {bytes : Bytes} (h : w.encodeName = .ok bytes) {b : UInt8}
    (hb : b ∈ bytes) (hpos : 0 < b.toNat) (hascii : b.toNat < 128) : b.toNat ∈ w.points := by
  obtain ⟨rfl, hpoints⟩ := encodeName_ok h
  obtain ⟨n, hn, hmem⟩ := List.mem_flatMap.1 hb
  exact eq_of_mem_fileBytes hmem (hpoints n hn) hpos hascii ▸ hn

end Wording

namespace Schools

/-! ## Extensions -/

/-- An extension is empty, or a dot that is followed by neither a dot nor a slash. -/
def IsExtension (ext : Wording) : Prop :=
  ext.points = [] ∨ ∃ rest, ext.points = '.'.toNat :: rest ∧ '.'.toNat ∉ rest ∧ '/'.toNat ∉ rest

theorem isExtension_ofPoints {rest : List Nat} (hdot : '.'.toNat ∉ rest) (hslash : '/'.toNat ∉ rest) :
    IsExtension (.ofPoints ('.'.toNat :: rest)) := by
  have hnone (c : Char) (hc : 0 < c.toNat) (hout : c.toNat ∉ rest) :
      c.toNat ∉ rest.map fun n => (Char.ofNat n).toNat := by
    intro hin
    obtain ⟨n, hn, hsame⟩ := List.mem_map.1 hin
    exact hout (Wording.eq_of_toNat_ofNat hsame hc ▸ hn)
  rcases Wording.points_ofPoints ('.'.toNat :: rest) with hpoints | hpoints
  · exact .inr ⟨rest, hpoints, hdot, hslash⟩
  · exact .inr ⟨_, hpoints, hnone '.' (by decide) hdot, hnone '/' (by decide) hslash⟩

/-- What is kept of a file name is an extension. -/
theorem isExtension_extension (filename : Wording) : IsExtension (extension filename) := by
  unfold extension
  dsimp only
  split
  next =>
    refine isExtension_ofPoints (fun hdot => ?_) fun hslash => ?_
    · have := List.mem_takeWhile_imp (List.mem_reverse.1 hdot)
      simp at this
    · have hlast := (List.takeWhile_sublist _).subset (List.mem_reverse.1 hslash)
      have := List.mem_takeWhile_imp hlast
      simp at this
  next => exact .inl rfl

/-! ## Names -/

/-- A name for a photo of a school: its identity, and an extension. -/
def IsPhotoName (s : Int) (name : Wording) : Prop :=
  ∃ ext, IsExtension ext ∧ name = ext.prepend ("photo_" ++ toString s)

theorem isPhotoName_photoName (s : Int) (filename : Option Wording) :
    IsPhotoName s (photoName (.int s) filename) :=
  ⟨_, isExtension_extension _, rfl⟩

variable {s t : Int} {name other : Wording} {file : Bytes}

theorem encodeName_of_fileName {folder : String} (h : fileName folder name = .ok file) :
    name.encodeName = .ok file := by
  unfold fileName at h
  cases hname : name.encodeName with
  | error fault =>
    rw [hname] at h
    exact nomatch h
  | ok bytes =>
    rw [hname] at h
    dsimp only at h
    split at h
    next => exact nomatch h
    next =>
      split at h
      next => exact nomatch h
      next => exact congrArg Except.ok (Except.ok.inj h)

/-- A name that is a text has an extension that is one. -/
theorem IsPhotoName.extension {text : String} (h : IsPhotoName s (.proper text)) :
    ∃ ext, IsExtension (.proper ext) ∧ text = "photo_" ++ toString s ++ ext := by
  obtain ⟨ext, hext, hname⟩ := h
  cases ext with
  | proper ext => exact ⟨ext, hext, Wording.proper.inj hname⟩
  | broken points => exact nomatch hname

/-- Neither a dot nor a slash stands before the extension. -/
theorem not_mem_front (s : Int) {d : Char} (hd : d = '.' ∨ d = '/') :
    d.toNat ∉ ("photo_" ++ toString s).toList.map Char.toNat := by
  intro hin
  obtain ⟨c, hc, hsame⟩ := List.mem_map.1 hin
  obtain rfl := Char.toNat_inj.1 hsame
  rw [String.toList_append, Number.toList_toString] at hc
  rcases List.mem_append.1 hc with hphoto | hid
  · rcases hd with rfl | rfl <;> exact absurd hphoto (by decide)
  rcases List.mem_append.1 hid with hsign | hid
  · split at hsign
    · obtain rfl := List.mem_singleton.1 hsign
      exact absurd hd (by decide)
    · exact nomatch hsign
  · have hdigit := Number.isDigit_toDigits _ c hid
    rcases hd with rfl | rfl <;> exact absurd hdigit (by decide)

/-- A name has no slash. -/
theorem IsPhotoName.no_slash (h : IsPhotoName s name) : '/'.toNat ∉ name.points := by
  obtain ⟨ext, hext, rfl⟩ := h
  rw [Wording.points_prepend, List.mem_append, not_or]
  refine ⟨not_mem_front s (.inr rfl), ?_⟩
  rcases hext with hnone | ⟨rest, hpoints, _, hslash⟩
  · exact hnone ▸ List.not_mem_nil
  · rw [hpoints, List.mem_cons, not_or]
    exact ⟨by decide, hslash⟩

theorem IsPhotoName.no_slash_file (h : IsPhotoName s name) (hfile : name.encodeName = .ok file) :
    0x2F ∉ file :=
  fun hslash => h.no_slash (Wording.mem_encodeName hfile hslash (by decide) (by decide))

/-- The bytes of a name up to the first dot are those of what stands before the extension. -/
theorem IsPhotoName.front_of_file (h : IsPhotoName s name) (hfile : name.encodeName = .ok file) :
    file.takeWhile (· != 0x2E) = Bytes.ofText ("photo_" ++ toString s) := by
  obtain ⟨ext, hext, rfl⟩ := h
  have hbefore : ∀ b ∈ Bytes.ofText ("photo_" ++ toString s), (b != 0x2E) = true := by
    intro b hb
    rw [bne_iff_ne]
    rintro rfl
    have hdot : '.'.toNat ∈ ("photo_" ++ toString s).toList.map Char.toNat :=
      Wording.mem_encodeName (w := .proper _) rfl hb (by decide) (by decide)
    exact not_mem_front s (.inl rfl) hdot
  have hafter : (ext.points.flatMap Wording.fileBytes).takeWhile (· != 0x2E) = [] := by
    rcases hext with hnone | ⟨rest, hpoints, _⟩
    · rw [hnone]
      rfl
    · rw [hpoints, List.flatMap_cons, Wording.fileBytes_toNat]
      rfl
  rw [(Wording.encodeName_ok hfile).1, Wording.points_prepend, List.flatMap_append,
    ← Wording.ofText_eq_fileBytes, List.takeWhile_append_of_pos hbefore, hafter, List.append_nil]

/-- The identity of the school can be read off the file. -/
theorem IsPhotoName.eq_of_file (hs : 0 ≤ s) (ht : 0 ≤ t) (h : IsPhotoName s name)
    (hfile : name.encodeName = .ok file) (hother : IsPhotoName t other)
    (hsame : other.encodeName = .ok file) : s = t := by
  have hfront : "photo_" ++ toString s = "photo_" ++ toString t :=
    Bytes.ofText_injective ((h.front_of_file hfile).symm.trans (hother.front_of_file hsame))
  have hids : (toString s).toList = (toString t).toList := by
    have hlists := congrArg String.toList hfront
    rw [String.toList_append, String.toList_append] at hlists
    exact List.append_cancel_left hlists
  obtain ⟨m, rfl⟩ := Int.eq_ofNat_of_zero_le hs
  obtain ⟨n, rfl⟩ := Int.eq_ofNat_of_zero_le ht
  exact congrArg Int.ofNat (Number.toString_injective (String.toList_injective hids))

end Schools
end SchoolCatalog
