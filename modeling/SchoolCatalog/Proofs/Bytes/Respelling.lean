import SchoolCatalog.Proofs.Bytes.Base64Url

/-!
# Texts that read as the same bytes

Reading base64 goes by the values of the characters of the alphabet, up to the padding mark at which it ends:
four values make three bytes, and two or three values at the end make one or two. What is left over of the
last value counts for nothing. So a text reads as given bytes if its values, with the rest of the last one
cleared, are those that the bytes are written in.

Results:
1. `decode_eq`: reading is packing values.
2. `sextets_pack`: the values of packed bytes.
3. `decode_eq_ok`: which texts read as given bytes.
4. `values?_encode`: the values of a written text.
-/

namespace SchoolCatalog.Bytes.Base64Url

variable {position left pads n : Nat} {rest : List Char} {values : List Nat} {bytes : Bytes} {s : String}

/-! ## Values of characters -/

/-- The values of the characters that count, from a place within a group on: how many values of the group
were read, and how many padding marks followed the last of them. A group may not be left incomplete. -/
def valuesFrom? (position pads : Nat) : List Char → Option (List Nat)
  | [] => if position = 0 then some [] else none
  | c :: rest =>
    if c = '=' then
      if 2 ≤ position then
        if 4 ≤ position + (pads + 1) then some [] else valuesFrom? position (pads + 1) rest
      else valuesFrom? position pads rest
    else match value? c with
      | none => valuesFrom? position pads rest
      | some v => (valuesFrom? ((position + 1) % 4) 0 rest).map (v :: ·)

/-- The values that a text is read by, if it is read. -/
def values? (s : String) : Option (List Nat) :=
  if s.toList.all fun c => c.toNat < 0x80 then
    valuesFrom? 0 0 (s.toList ++ List.replicate ((4 - s.toList.length % 4) % 4) '=')
  else none

/-- The bytes of values, from a place within a group on. -/
def packFrom (position left : Nat) : List Nat → Bytes
  | [] => []
  | v :: values =>
    if position = 0 then packFrom 1 v values
    else if position = 1 then UInt8.ofNat (left * 4 + v / 16) :: packFrom 2 (v % 16) values
    else if position = 2 then UInt8.ofNat (left * 16 + v / 4) :: packFrom 3 (v % 4) values
    else UInt8.ofNat (left * 64 + v) :: packFrom 0 0 values

/-- The bytes of values. -/
def pack (values : List Nat) : Bytes := packFrom 0 0 values

theorem decodeFrom_eq (hposition : position < 4) (cs : List Char) :
    decodeFrom position left pads cs =
      match valuesFrom? position pads cs with
      | some values => .ok (packFrom position left values)
      | none => .error .incomplete := by
  induction cs generalizing position left pads with
  | nil =>
    unfold decodeFrom valuesFrom?
    split <;> rfl
  | cons c rest ih =>
    rw [decodeFrom, valuesFrom?]
    by_cases hpad : c = '='
    · rw [if_pos hpad, if_pos hpad]
      by_cases hlate : 2 ≤ position
      · rw [if_pos hlate, if_pos hlate]
        by_cases hlast : 4 ≤ position + (pads + 1)
        · rw [if_pos hlast, if_pos hlast]
          rfl
        · rw [if_neg hlast, if_neg hlast, ih hposition]
      · rw [if_neg hlate, if_neg hlate, ih hposition]
    · rw [if_neg hpad, if_neg hpad]
      cases value? c with
      | none => exact ih hposition
      | some v =>
        dsimp only
        obtain rfl | rfl | rfl | rfl : position = 0 ∨ position = 1 ∨ position = 2 ∨ position = 3 := by omega
        · rw [if_pos rfl, ih (by decide)]
          cases valuesFrom? 1 0 rest <;> rfl
        · rw [if_neg (by decide), if_pos rfl, ih (by decide)]
          cases valuesFrom? 2 0 rest <;> rfl
        · rw [if_neg (by decide), if_neg (by decide), if_pos rfl, ih (by decide)]
          cases valuesFrom? 3 0 rest <;> rfl
        · rw [if_neg (by decide), if_neg (by decide), if_neg (by decide), ih (by decide)]
          cases valuesFrom? 0 0 rest <;> rfl

/-- A text is read as the bytes of its values. -/
theorem decode_eq (s : String) : (decode s).toOption = (values? s).map pack := by
  rw [decode, decodeChars, values?]
  split
  · rw [decodeFrom_eq (by decide)]
    cases valuesFrom? 0 0 (s.toList ++ List.replicate ((4 - s.toList.length % 4) % 4) '=') <;> rfl
  · rfl

/-! ## Values of bytes -/

/-- The values that bytes are written in. -/
def sextets : Bytes → List Nat
  | [] => []
  | [a] => [a.toNat / 4, a.toNat % 4 * 16]
  | [a, b] => [a.toNat / 4, a.toNat % 4 * 16 + b.toNat / 16, b.toNat % 16 * 4]
  | a :: b :: c :: rest =>
    a.toNat / 4 :: (a.toNat % 4 * 16 + b.toNat / 16) :: (b.toNat % 16 * 4 + c.toNat / 64) ::
      (c.toNat % 64) :: sextets rest

/-- Values without what is left over of the last one. -/
def cleared : List Nat → List Nat
  | a :: b :: c :: d :: rest => a :: b :: c :: d :: cleared rest
  | [a, b, c] => [a, b, c / 4 * 4]
  | [a, b] => [a, b / 16 * 16]
  | values => values

/-- Values that can be read: they have six bits each, and none stands alone at the end. -/
structure Readable (values : List Nat) : Prop where
  small : ∀ v ∈ values, v < 64
  whole : values.length % 4 ≠ 1

theorem toNat_ofNat (h : n < 256) : (UInt8.ofNat n).toNat = n := UInt8.toNat_ofNat_of_lt' h

theorem pack_group (a b c d : Nat) (values : List Nat) : pack (a :: b :: c :: d :: values) =
    UInt8.ofNat (a * 4 + b / 16) :: UInt8.ofNat (b % 16 * 16 + c / 4) :: UInt8.ofNat (c % 4 * 64 + d) ::
      pack values := rfl

/-- What packed bytes are written in is what they were packed of, but for what is left over. -/
theorem sextets_pack (h : Readable values) : sextets (pack values) = cleared values := by
  obtain ⟨hsmall, hwhole⟩ := h
  induction values using cleared.induct with
  | case1 a b c d rest ih =>
    simp only [List.forall_mem_cons] at hsmall
    obtain ⟨ha, hb, hc, hd, hrest⟩ := hsmall
    have hlength : rest.length % 4 ≠ 1 := by
      simp only [List.length_cons] at hwhole
      omega
    have hfirst : (a * 4 + b / 16) / 4 = a := by omega
    have hsecond : (a * 4 + b / 16) % 4 * 16 + (b % 16 * 16 + c / 4) / 16 = b := by omega
    have hthird : (b % 16 * 16 + c / 4) % 16 * 4 + (c % 4 * 64 + d) / 64 = c := by omega
    have hfourth : (c % 4 * 64 + d) % 64 = d := by omega
    rw [pack_group, sextets, cleared, ih hrest hlength, toNat_ofNat (by omega), toNat_ofNat (by omega),
      toNat_ofNat (by omega), hfirst, hsecond, hthird, hfourth]
  | case2 a b c =>
    simp only [List.forall_mem_cons] at hsmall
    obtain ⟨ha, hb, hc, _⟩ := hsmall
    have hbytes : pack [a, b, c] = [UInt8.ofNat (a * 4 + b / 16), UInt8.ofNat (b % 16 * 16 + c / 4)] := rfl
    have hfirst : (a * 4 + b / 16) / 4 = a := by omega
    have hsecond : (a * 4 + b / 16) % 4 * 16 + (b % 16 * 16 + c / 4) / 16 = b := by omega
    have hthird : (b % 16 * 16 + c / 4) % 16 * 4 = c / 4 * 4 := by omega
    rw [hbytes, sextets, cleared, toNat_ofNat (by omega), toNat_ofNat (by omega), hfirst, hsecond, hthird]
  | case3 a b =>
    simp only [List.forall_mem_cons] at hsmall
    obtain ⟨ha, hb, _⟩ := hsmall
    have hbytes : pack [a, b] = [UInt8.ofNat (a * 4 + b / 16)] := rfl
    have hfirst : (a * 4 + b / 16) / 4 = a := by omega
    have hsecond : (a * 4 + b / 16) % 4 * 16 = b / 16 * 16 := by omega
    rw [hbytes, sextets, cleared, toNat_ofNat (by omega), hfirst, hsecond]
  | case4 values hfour hthree htwo =>
    match values with
    | [] => rfl
    | [a] => exact absurd rfl hwhole
    | [a, b] => exact absurd rfl (htwo a b)
    | [a, b, c] => exact absurd rfl (hthree a b c)
    | a :: b :: c :: d :: rest => exact absurd rfl (hfour a b c d rest)

/-- Bytes are packed of the values that they are written in. -/
theorem pack_sextets (bytes : Bytes) : pack (sextets bytes) = bytes := by
  induction bytes using sextets.induct with
  | case1 => rfl
  | case2 a =>
    have ha := a.toNat_lt
    have hbytes : pack (sextets [a]) = [UInt8.ofNat (a.toNat / 4 * 4 + a.toNat % 4 * 16 / 16)] := rfl
    rw [hbytes, ofNat_byte a (by omega)]
  | case3 a b =>
    have hb := b.toNat_lt
    have hbytes : pack (sextets [a, b]) =
        [UInt8.ofNat (a.toNat / 4 * 4 + (a.toNat % 4 * 16 + b.toNat / 16) / 16),
          UInt8.ofNat ((a.toNat % 4 * 16 + b.toNat / 16) % 16 * 16 + b.toNat % 16 * 4 / 4)] := rfl
    rw [hbytes, ofNat_byte a (by omega), ofNat_byte b (by omega)]
  | case4 a b c rest ih =>
    have hb := b.toNat_lt
    have hc := c.toNat_lt
    rw [sextets, pack_group, ih, ofNat_byte a (by omega), ofNat_byte b (by omega), ofNat_byte c (by omega)]

/-! ## Values that are read -/

theorem value?_lt {c : Char} (h : value? c = some n) : n < 64 := by
  unfold value? at h
  dsimp only at h
  split at h
  next hletter =>
    rw [Bool.and_eq_true, decide_eq_true_eq, decide_eq_true_eq] at hletter
    cases h
    omega
  split at h
  next hletter =>
    rw [Bool.and_eq_true, decide_eq_true_eq, decide_eq_true_eq] at hletter
    cases h
    omega
  split at h
  next hdigit =>
    rw [Bool.and_eq_true, decide_eq_true_eq, decide_eq_true_eq] at hdigit
    cases h
    omega
  split at h
  next => cases h; decide
  split at h
  next => cases h; decide
  next => exact nomatch h

/-- Values that are read have six bits each and end with a group or with two or three values of one. -/
theorem readable_of_valuesFrom? {cs : List Char} (hposition : position < 4)
    (h : valuesFrom? position pads cs = some values) :
    (∀ v ∈ values, v < 64) ∧ (position + values.length) % 4 ≠ 1 := by
  induction cs generalizing position pads values with
  | nil =>
    rw [valuesFrom?] at h
    split at h
    next hzero =>
      cases h
      exact ⟨nofun, by rw [hzero]; decide⟩
    next => exact nomatch h
  | cons c rest ih =>
    rw [valuesFrom?] at h
    split at h
    next =>
      split at h
      next hlate =>
        split at h
        next =>
          cases h
          exact ⟨nofun, by rw [List.length_nil]; omega⟩
        next => exact ih hposition h
      next => exact ih hposition h
    next =>
      cases hvalue : value? c with
      | none =>
        rw [hvalue] at h
        exact ih hposition h
      | some v =>
        rw [hvalue] at h
        obtain ⟨others, hothers, rfl⟩ := Option.map_eq_some_iff.1 h
        obtain ⟨hsmall, hwhole⟩ := ih (Nat.mod_lt _ (by decide)) hothers
        refine ⟨List.forall_mem_cons.2 ⟨value?_lt hvalue, hsmall⟩, ?_⟩
        rw [List.length_cons]
        omega

/-- The values that a text is read by can be read. -/
theorem readable_of_values? (h : values? s = some values) : Readable values := by
  unfold values? at h
  split at h
  next =>
    obtain ⟨hsmall, hwhole⟩ := readable_of_valuesFrom? (by decide) h
    exact ⟨hsmall, Nat.zero_add values.length ▸ hwhole⟩
  next => exact nomatch h

theorem sextets_injective {first second : Bytes} (h : sextets first = sextets second) : first = second := by
  rw [← pack_sextets first, h, pack_sextets]

/-- A text is read as given bytes if its values are those of the bytes, but for what is left over. -/
theorem decode_eq_ok : decode s = .ok bytes ↔ (values? s).map cleared = some (sextets bytes) := by
  have hread : decode s = .ok bytes ↔ (values? s).map pack = some bytes := by
    rw [← decode_eq]
    cases decode s with
    | error fault => exact ⟨nofun, nofun⟩
    | ok found => exact ⟨fun h => congrArg some (Except.ok.inj h), fun h => congrArg _ (Option.some.inj h)⟩
  rw [hread]
  cases hvalues : values? s with
  | none => exact ⟨nofun, nofun⟩
  | some values =>
    have hpacked := sextets_pack (readable_of_values? hvalues)
    rw [Option.map_some, Option.map_some, ← hpacked, Option.some_inj, Option.some_inj]
    exact ⟨congrArg sextets, sextets_injective⟩

/-! ## Written texts -/

theorem encodeChars_eq (bytes : Bytes) : encodeChars bytes = (sextets bytes).map symbol := by
  induction bytes using sextets.induct with
  | case1 => rfl
  | case2 a => rfl
  | case3 a b => rfl
  | case4 a b c rest ih => rw [encodeChars, ih, sextets]; rfl

/-- The characters of values are read as these, up to the marks after them. -/
theorem valuesFrom?_symbols (hsmall : ∀ v ∈ values, v < 64) (hposition : position < 4)
    (hmarks : valuesFrom? ((position + values.length) % 4) 0 rest = some []) :
    valuesFrom? position 0 (values.map symbol ++ rest) = some values := by
  induction values generalizing position with
  | nil =>
    rwa [List.length_nil, Nat.add_zero, Nat.mod_eq_of_lt hposition] at hmarks
  | cons v values ih =>
    obtain ⟨hv, hothers⟩ := List.forall_mem_cons.1 hsmall
    have hlength : ((position + 1) % 4 + values.length) % 4 = (position + (v :: values).length) % 4 := by
      rw [List.length_cons]
      omega
    rw [List.map_cons, List.cons_append, valuesFrom?, if_neg (symbol_ne_pad hv), value?_symbol hv]
    dsimp only
    rw [ih hothers (Nat.mod_lt _ (by decide)) (hlength ▸ hmarks), Option.map_some]

theorem readable_sextets (bytes : Bytes) : Readable (sextets bytes) := by
  induction bytes using sextets.induct with
  | case1 => exact ⟨nofun, by decide⟩
  | case2 a =>
    have ha := a.toNat_lt
    refine ⟨?_, by rw [sextets]; exact (by decide : 2 % 4 ≠ 1)⟩
    simp only [sextets, List.forall_mem_cons]
    exact ⟨by omega, by omega, nofun⟩
  | case3 a b =>
    have ha := a.toNat_lt
    have hb := b.toNat_lt
    refine ⟨?_, by rw [sextets]; exact (by decide : 3 % 4 ≠ 1)⟩
    simp only [sextets, List.forall_mem_cons]
    exact ⟨by omega, by omega, by omega, nofun⟩
  | case4 a b c rest ih =>
    have ha := a.toNat_lt
    have hb := b.toNat_lt
    have hc := c.toNat_lt
    have hwhole := ih.whole
    constructor
    · simp only [sextets, List.forall_mem_cons]
      exact ⟨by omega, by omega, by omega, by omega, ih.small⟩
    · simp only [sextets, List.length_cons]
      omega

/-- The marks that a length calls for end the reading. -/
theorem valuesFrom?_marks (h : n % 4 ≠ 1) :
    valuesFrom? (n % 4) 0 (List.replicate ((4 - n % 4) % 4) '=') = some [] := by
  obtain hcase | hcase | hcase : n % 4 = 0 ∨ n % 4 = 2 ∨ n % 4 = 3 := by omega
  all_goals rw [hcase]; rfl

/-- A written text has the values that the bytes are written in. -/
theorem values?_encode (bytes : Bytes) : values? (encode bytes) = some (sextets bytes) := by
  obtain ⟨hsmall, hwhole⟩ := readable_sextets bytes
  have hchars : (encode bytes).toList = (sextets bytes).map symbol := by
    rw [encode, String.toList_ofList, encodeChars_eq]
  have hascii : ((encode bytes).toList.all fun c => decide (c.toNat < 0x80)) = true := by
    rw [hchars, List.all_map]
    exact List.all_eq_true.2 fun v hv => decide_eq_true (symbol_ascii (hsmall v hv))
  rw [values?, if_pos hascii, hchars, List.length_map]
  refine valuesFrom?_symbols hsmall (by decide) ?_
  rw [Nat.zero_add]
  exact valuesFrom?_marks hwhole

end SchoolCatalog.Bytes.Base64Url
