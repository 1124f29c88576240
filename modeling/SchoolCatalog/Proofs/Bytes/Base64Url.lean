import SchoolCatalog.Bytes.Base64Url
import SchoolCatalog.Text.Blank

/-!
# Base64 text read back

The characters that bytes are written in are letters, digits, `-` and `_`, and reading them gives the
bytes back.

Results:
1. `symbol_of_mem`: the alphabet of a written text.
2. `decode_encode`: what is written is read back.
3. `written_and_read`: both, and the texts that are written.
-/

namespace SchoolCatalog.Bytes.Base64Url

variable {n position left pads : Nat} {rest : List Char} {c : Char}

/-! ## Characters -/

/-- The characters of the alphabet. -/
def IsSymbol (c : Char) : Prop := c.isAlphanum = true ∨ c = '-' ∨ c = '_'

instance (c : Char) : Decidable (IsSymbol c) :=
  inferInstanceAs (Decidable (c.isAlphanum = true ∨ c = '-' ∨ c = '_'))

/-- What is known of the character of each value. -/
theorem symbol_facts : ∀ n ∈ List.range 64,
    value? (symbol n) = some n ∧ IsSymbol (symbol n) ∧ symbol n ≠ '=' ∧ (symbol n).toNat < 0x80 := by
  decide

theorem value?_symbol (h : n < 64) : value? (symbol n) = some n :=
  (symbol_facts n (List.mem_range.2 h)).1

theorem isSymbol_symbol (h : n < 64) : IsSymbol (symbol n) :=
  (symbol_facts n (List.mem_range.2 h)).2.1

theorem symbol_ne_pad (h : n < 64) : symbol n ≠ '=' :=
  (symbol_facts n (List.mem_range.2 h)).2.2.1

theorem symbol_ascii (h : n < 64) : (symbol n).toNat < 0x80 :=
  (symbol_facts n (List.mem_range.2 h)).2.2.2

/-- Every character that bytes are written in is that of a value. -/
theorem symbol_of_mem {bytes : Bytes} (h : c ∈ encodeChars bytes) : ∃ n < 64, c = symbol n := by
  induction bytes using encodeChars.induct with
  | case1 => exact nomatch h
  | case2 a =>
    have ha := a.toNat_lt
    simp only [encodeChars, List.mem_cons, List.not_mem_nil, or_false] at h
    rcases h with rfl | rfl
    all_goals exact ⟨_, by omega, rfl⟩
  | case3 a b =>
    have ha := a.toNat_lt
    have hb := b.toNat_lt
    simp only [encodeChars, List.mem_cons, List.not_mem_nil, or_false] at h
    rcases h with rfl | rfl | rfl
    all_goals exact ⟨_, by omega, rfl⟩
  | case4 a b d rest ih =>
    have ha := a.toNat_lt
    have hb := b.toNat_lt
    have hd := d.toNat_lt
    simp only [encodeChars, List.mem_cons] at h
    rcases h with rfl | rfl | rfl | rfl | h
    · exact ⟨_, by omega, rfl⟩
    · exact ⟨_, by omega, rfl⟩
    · exact ⟨_, by omega, rfl⟩
    · exact ⟨_, by omega, rfl⟩
    · exact ih h

/-! ## Reading -/

/-- Reading the character of a value. -/
theorem decodeFrom_symbol (h : n < 64) :
    decodeFrom position left pads (symbol n :: rest) =
      if position = 0 then decodeFrom 1 n 0 rest
      else if position = 1 then
        (decodeFrom 2 (n % 16) 0 rest).map (UInt8.ofNat (left * 4 + n / 16) :: ·)
      else if position = 2 then
        (decodeFrom 3 (n % 4) 0 rest).map (UInt8.ofNat (left * 16 + n / 4) :: ·)
      else (decodeFrom 0 0 0 rest).map (UInt8.ofNat (left * 64 + n) :: ·) := by
  rw [decodeFrom, if_neg (symbol_ne_pad h), value?_symbol h]

theorem decodeFrom_first (h : n < 64) :
    decodeFrom 0 left pads (symbol n :: rest) = decodeFrom 1 n 0 rest :=
  decodeFrom_symbol h

theorem decodeFrom_second (h : n < 64) :
    decodeFrom 1 left pads (symbol n :: rest) =
      (decodeFrom 2 (n % 16) 0 rest).map (UInt8.ofNat (left * 4 + n / 16) :: ·) :=
  decodeFrom_symbol h

theorem decodeFrom_third (h : n < 64) :
    decodeFrom 2 left pads (symbol n :: rest) =
      (decodeFrom 3 (n % 4) 0 rest).map (UInt8.ofNat (left * 16 + n / 4) :: ·) :=
  decodeFrom_symbol h

theorem decodeFrom_fourth (h : n < 64) :
    decodeFrom 3 left pads (symbol n :: rest) =
      (decodeFrom 0 0 0 rest).map (UInt8.ofNat (left * 64 + n) :: ·) :=
  decodeFrom_symbol h

theorem ofNat_byte (b : UInt8) {n : Nat} (h : n = b.toNat) : UInt8.ofNat n = b := by
  rw [h, UInt8.ofNat_toNat]

/-- Written bytes are read back group by group. -/
theorem decodeFrom_encodeChars (bytes : Bytes) :
    decodeFrom 0 0 0 (encodeChars bytes ++
      List.replicate ((4 - (encodeChars bytes).length % 4) % 4) '=') = .ok bytes := by
  induction bytes using encodeChars.induct with
  | case1 => rfl
  | case2 a =>
    have ha := a.toNat_lt
    simp only [encodeChars, List.cons_append, List.nil_append]
    rw [decodeFrom_first (by omega), decodeFrom_second (by omega), ofNat_byte a (by omega)]
    rfl
  | case3 a b =>
    have ha := a.toNat_lt
    have hb := b.toNat_lt
    simp only [encodeChars, List.cons_append, List.nil_append]
    rw [decodeFrom_first (by omega), decodeFrom_second (by omega), decodeFrom_third (by omega),
      ofNat_byte a (by omega), ofNat_byte b (by omega)]
    rfl
  | case4 a b d rest ih =>
    have ha := a.toNat_lt
    have hb := b.toNat_lt
    have hd := d.toNat_lt
    -- a whole group leaves the padding as it is
    have hpads : ((encodeChars rest).length + 1 + 1 + 1 + 1) % 4 = (encodeChars rest).length % 4 := by
      omega
    simp only [encodeChars, List.cons_append, List.length_cons]
    rw [decodeFrom_first (by omega), decodeFrom_second (by omega), decodeFrom_third (by omega),
      decodeFrom_fourth (by omega), ofNat_byte a (by omega), ofNat_byte b (by omega),
      ofNat_byte d (by omega), hpads, ih]
    rfl

/-- What is written is read back. -/
theorem decode_encode (bytes : Bytes) : decode (encode bytes) = .ok bytes := by
  have hascii : (encodeChars bytes).all (fun c => c.toNat < 0x80) = true := by
    refine List.all_eq_true.2 fun c hc => ?_
    obtain ⟨n, hn, rfl⟩ := symbol_of_mem hc
    exact decide_eq_true (symbol_ascii hn)
  rw [decode, encode, String.toList_ofList, decodeChars, if_pos hascii]
  exact decodeFrom_encodeChars bytes

/-- A written text holds no blanks, and no character that is not a byte. -/
theorem plain_of_mem {bytes : Bytes} (h : c ∈ (encode bytes).toList) :
    c.toNat < 256 ∧ Text.isBlank c = false := by
  have hall : ∀ n ∈ List.range 64, (symbol n).toNat < 256 ∧ Text.isBlank (symbol n) = false := by
    decide
  rw [encode, String.toList_ofList] at h
  obtain ⟨n, hn, rfl⟩ := symbol_of_mem h
  exact hall n (List.mem_range.2 hn)

/-- A written text holds no character outside the alphabet. -/
theorem isSymbol_of_mem {bytes : Bytes} (h : c ∈ (encode bytes).toList) : IsSymbol c := by
  rw [encode, String.toList_ofList] at h
  obtain ⟨n, hn, rfl⟩ := symbol_of_mem h
  exact isSymbol_symbol hn

theorem IsSymbol.ne_pad (h : IsSymbol c) : c ≠ '=' := by
  rintro rfl
  exact absurd h (by decide)

theorem IsSymbol.ne_dot (h : IsSymbol c) : c ≠ '.' := by
  rintro rfl
  exact absurd h (by decide)

/-! ## Both ways -/

/-- Bytes are written in letters, digits, `-` and `_` alone and read back from that; and the texts that
bytes are written as are those that come back when the bytes read from them are written. -/
theorem written_and_read :
    (∀ bytes, (∀ c ∈ (encode bytes).toList,
        (c.isAlphanum = true ∨ c = '-' ∨ c = '_') ∧ c ≠ '.' ∧ c ≠ '=') ∧
      decode (encode bytes) = .ok bytes) ∧
    ∀ text, (∃ bytes, encode bytes = text) ↔ (decode text).map encode = .ok text := by
  refine ⟨fun bytes => ⟨fun c hc => ?_, decode_encode bytes⟩, fun text => ⟨?_, fun h => ?_⟩⟩
  · have hsymbol := isSymbol_of_mem hc
    exact ⟨hsymbol, hsymbol.ne_dot, hsymbol.ne_pad⟩
  · rintro ⟨bytes, rfl⟩
    rw [decode_encode]
    rfl
  · cases hread : decode text with
    | error fault =>
      rw [hread] at h
      exact nomatch h
    | ok bytes =>
      rw [hread] at h
      exact ⟨bytes, Except.ok.inj h⟩

/-- Two bytes whose text has both marks of the alphabet. -/
theorem written_and_read_marks :
    ('_' ∈ (encode [0xFB, 0xFF]).toList ∧ '_' ≠ '=') ∧ decode "-_8" = .ok [0xFB, 0xFF] ∧
      (decode "-_8").map encode = .ok "-_8" := by
  have hmem : '_' ∈ (encode [0xFB, 0xFF]).toList := by decide
  have htext : encode [0xFB, 0xFF] = "-_8" := by decide
  obtain ⟨hbytes, htexts⟩ := written_and_read
  exact ⟨⟨hmem, ((hbytes _).1 '_' hmem).2.2⟩, htext ▸ (hbytes _).2, (htexts _).1 ⟨_, htext⟩⟩

end SchoolCatalog.Bytes.Base64Url
