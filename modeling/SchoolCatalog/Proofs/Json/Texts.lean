import Mathlib.Data.List.Basic
import SchoolCatalog.Json.Parser
import SchoolCatalog.Json.Printer

/-!
# JSON texts read back

A text that is written between quotes is read as that text, whatever characters it holds: those that are
escaped by name, by one UTF-16 unit or by a pair of them, and those that stand for themselves. A text with
halves of pairs is read to its end as well, though halves that come together are read as pairs.

Results:
1. `hexUnit?_hexPadded`: a unit that is written in hexadecimal digits.
2. `readText_escapeChar`: one character.
3. `readString_quote`: a text.
4. `readString_points`: a text with halves of pairs.
-/

namespace SchoolCatalog.Json

variable {start fuel off n : Nat} {read : List Nat} {rest : List Char} {c : Char}

/-! ## Units -/

theorem digit?_digitChar : ∀ n < 16, Bytes.Hex.digit? (Nat.digitChar n) = some n := by decide

/-- The last digit of a padded number. -/
theorem hexPadded_succ {width : Nat} (hwidth : 0 < width) (n : Nat) :
    Text.hexPadded (width + 1) n = Text.hexPadded width (n / 16) ++ [Nat.digitChar (n % 16)] := by
  unfold Text.hexPadded
  dsimp only
  rw [Nat.toDigits_eq_if (by decide)]
  split
  next hsmall =>
    rw [Nat.div_eq_of_lt hsmall, Nat.mod_eq_of_lt hsmall, Nat.toDigits_zero]
    simp only [List.length_singleton, Nat.add_sub_cancel]
    obtain ⟨k, rfl⟩ := Nat.exists_eq_succ_of_ne_zero (Nat.ne_of_gt hwidth)
    rw [Nat.succ_sub_one, List.replicate_succ']
  next =>
    rw [List.length_append, List.length_singleton, Nat.add_sub_add_right, List.append_assoc]

/-- A unit in four hexadecimal digits. -/
theorem hexPadded_four (h : n < 0x10000) :
    Text.hexPadded 4 n = [n / 4096, n / 256 % 16, n / 16 % 16, n % 16].map Nat.digitChar := by
  have hfirst : n / 16 / 16 / 16 < 16 := by omega
  have hlast : Text.hexPadded 1 (n / 16 / 16 / 16) = [Nat.digitChar (n / 16 / 16 / 16)] := by
    rw [Text.hexPadded, Nat.toDigits_of_lt_base hfirst]
    rfl
  rw [hexPadded_succ (by decide), hexPadded_succ (by decide), hexPadded_succ (by decide), hlast]
  simp only [List.cons_append, List.nil_append, List.map_cons, List.map_nil, Nat.div_div_eq_div_mul]

theorem hexUnit?_hexPadded (h : n < 0x10000) : hexUnit? (Text.hexPadded 4 n) = some n := by
  rw [hexPadded_four h]
  simp only [List.map_cons, List.map_nil, hexUnit?]
  rw [digit?_digitChar _ (by omega), digit?_digitChar _ (by omega), digit?_digitChar _ (by omega),
    digit?_digitChar _ (by omega)]
  dsimp only
  rw [show ((n / 4096 * 16 + n / 256 % 16) * 16 + n / 16 % 16) * 16 + n % 16 = n by omega]

/-! ## Characters -/

theorem readText_plain (hquote : c ≠ '"') (hescape : c ≠ '\\') (hspace : 0x20 ≤ c.toNat) :
    readText start (fuel + 1) read ⟨off, c :: rest, []⟩ =
      readText start fuel (c.toNat :: read) ⟨off + 1, rest, []⟩ := by
  rw [readText]
  dsimp only
  rw [if_neg hquote, if_neg hescape, if_neg (Nat.not_lt.2 hspace)]
  rfl

theorem readText_named {e : Char} (hunit : e ≠ 'u') (he : simpleEscape? e = some c) :
    readText start (fuel + 1) read ⟨off, '\\' :: e :: rest, []⟩ =
      readText start fuel (c.toNat :: read) ⟨off + 2, rest, []⟩ := by
  rw [readText]
  dsimp only
  rw [if_neg (by decide), if_pos rfl, if_neg hunit, he]
  rfl

theorem hexPadded_length (h : n < 0x10000) : (Text.hexPadded 4 n).length = 4 := by
  rw [hexPadded_four h]
  rfl

theorem escapeUnit_length (h : n < 0x10000) : (escapeUnit n).length = 6 := by
  rw [escapeUnit, List.length_cons, List.length_cons, hexPadded_length h]

/-- The place after characters that stand there. -/
theorem advance_append {cs : List Char} (h : cs.length = n) :
    Place.advance ⟨off, cs ++ rest, []⟩ n = ⟨off + n, rest, []⟩ := by
  rw [Place.advance, List.drop_left' h]

/-- Whether a unit is read depends on what follows it. -/
theorem unit_followed (h : n < 0x10000) (hrest : rest ≠ []) :
    ¬ (Text.hexPadded 4 n ++ rest).length < 5 := by
  have := List.length_pos_iff.2 hrest
  rw [List.length_append, hexPadded_length h]
  omega

/-- The low half that is looked for after a high one, where the escape of a unit stands. -/
theorem lowHalf?_unit (h : n < 0x10000) (hrest : rest ≠ []) :
    lowHalf? (escapeUnit n ++ rest) = if Bytes.isLowHalf n then some n else none := by
  rw [escapeUnit, List.cons_append, List.cons_append, lowHalf?, if_neg (unit_followed h hrest),
    List.take_left' (hexPadded_length h), hexUnit?_hexPadded h, Option.filter_some]

/-- A unit that is not the high half of a pair stands for itself. -/
theorem readText_unit (h : n < 0x10000) (hlone : Bytes.isHighHalf n = true → lowHalf? rest = none)
    (hrest : rest ≠ []) :
    readText start (fuel + 1) read ⟨off, escapeUnit n ++ rest, []⟩ =
      readText start fuel (n :: read) ⟨off + 6, rest, []⟩ := by
  have hadvance := @advance_append off 6 rest _ (escapeUnit_length h)
  have hlow : (if Bytes.isHighHalf n = true then lowHalf? rest else none) = none := by
    split
    next hhigh => exact hlone hhigh
    next => rfl
  rw [escapeUnit, List.cons_append, List.cons_append] at hadvance ⊢
  rw [readText]
  dsimp only
  rw [if_neg (by decide), if_pos rfl, if_pos rfl, if_neg (unit_followed h hrest),
    List.take_left' (hexPadded_length h), List.drop_left' (hexPadded_length h), hexUnit?_hexPadded h]
  dsimp only
  rw [hlow, hadvance]

theorem readText_pair {high low : Nat} (hhigh : Bytes.isHighHalf high = true)
    (hlow : Bytes.isLowHalf low = true) (hrest : rest ≠ []) :
    readText start (fuel + 1) read ⟨off, escapeUnit high ++ escapeUnit low ++ rest, []⟩ =
      readText start fuel (Bytes.joined high low :: read) ⟨off + 12, rest, []⟩ := by
  have hfirst : high < 0x10000 := by
    simp only [Bytes.isHighHalf, Bool.and_eq_true, decide_eq_true_eq] at hhigh
    omega
  have hsecond : low < 0x10000 := by
    simp only [Bytes.isLowHalf, Bool.and_eq_true, decide_eq_true_eq] at hlow
    omega
  have hlength : (escapeUnit high ++ escapeUnit low).length = 12 := by
    rw [List.length_append, escapeUnit_length hfirst, escapeUnit_length hsecond]
  have hadvance := @advance_append off 12 rest _ hlength
  rw [List.append_assoc, escapeUnit, List.cons_append, List.cons_append] at hadvance ⊢
  rw [readText]
  dsimp only
  rw [if_neg (by decide), if_pos rfl, if_pos rfl, if_neg (unit_followed hfirst (by simp [hrest])),
    List.take_left' (hexPadded_length hfirst), List.drop_left' (hexPadded_length hfirst),
    hexUnit?_hexPadded hfirst]
  dsimp only
  rw [hhigh, if_pos rfl, lowHalf?_unit hsecond hrest, if_pos hlow]
  dsimp only
  rw [hadvance]

/-- How a character is written: escaped by name, as it is, by its unit, or by a pair of units. -/
inductive Escaped (c : Char) : List Char → Prop
  | named {e : Char} : e ≠ 'u' → simpleEscape? e = some c → Escaped c ['\\', e]
  | plain : c ≠ '"' → c ≠ '\\' → 0x20 ≤ c.toNat → Escaped c [c]
  | unit : c.toNat < 0x10000 → Escaped c (escapeUnit c.toNat)
  | pair : 0x10000 ≤ c.toNat → Escaped c
      (escapeUnit (0xD800 + (c.toNat - 0x10000) / 0x400) ++
        escapeUnit (0xDC00 + (c.toNat - 0x10000) % 0x400))

theorem escaped (c : Char) : Escaped c (escapeChar c) := by
  have hnamed {e : Char} {n : Nat} (hunit : e ≠ 'u') (he : simpleEscape? e = some (Char.ofNat n))
      (h : c.toNat = n) : Escaped c ['\\', e] := by
    rw [← h, Char.ofNat_toNat] at he
    exact .named hunit he
  unfold escapeChar
  split
  next h =>
    subst h
    exact .named (by decide) rfl
  split
  next h =>
    subst h
    exact .named (by decide) rfl
  split
  next h =>
    subst h
    exact .named (by decide) rfl
  split
  next h =>
    subst h
    exact .named (by decide) rfl
  split
  next h =>
    subst h
    exact .named (by decide) rfl
  split
  next h => exact hnamed (by decide) rfl h
  split
  next h => exact hnamed (by decide) rfl h
  split
  next hquote hescape _ _ _ _ _ h =>
    rw [Bool.and_eq_true, decide_eq_true_eq] at h
    exact .plain hquote hescape h.1
  split
  next h => exact .unit h
  next h => exact .pair (Nat.le_of_not_lt h)

/-- A character is read as it was written. -/
theorem readText_escapeChar (c : Char) (hrest : rest ≠ []) :
    ∃ off', readText start (fuel + 1) read ⟨off, escapeChar c ++ rest, []⟩ =
      readText start fuel (c.toNat :: read) ⟨off', rest, []⟩ := by
  have hvalid : c.toNat < 0xD800 ∨ 0xDFFF < c.toNat ∧ c.toNat < 0x110000 := c.valid
  have hescaped := escaped c
  generalize escapeChar c = written at hescaped ⊢
  cases hescaped with
  | named hunit he => exact ⟨_, readText_named hunit he⟩
  | plain hquote hescape hspace => exact ⟨_, readText_plain hquote hescape hspace⟩
  | unit h =>
    refine ⟨_, readText_unit h (fun hhigh => ?_) hrest⟩
    simp only [Bytes.isHighHalf, Bool.and_eq_true, decide_eq_true_eq] at hhigh
    omega
  | pair h =>
    have hhigh : Bytes.isHighHalf (0xD800 + (c.toNat - 0x10000) / 0x400) = true := by
      simp only [Bytes.isHighHalf, Bool.and_eq_true, decide_eq_true_eq]
      omega
    have hlow : Bytes.isLowHalf (0xDC00 + (c.toNat - 0x10000) % 0x400) = true := by
      simp only [Bytes.isLowHalf, Bool.and_eq_true, decide_eq_true_eq]
      omega
    have hjoined : Bytes.joined (0xD800 + (c.toNat - 0x10000) / 0x400)
        (0xDC00 + (c.toNat - 0x10000) % 0x400) = c.toNat := by
      unfold Bytes.joined
      omega
    refine ⟨off + 12, ?_⟩
    rw [readText_pair hhigh hlow hrest, hjoined]

/-! ## Texts -/

theorem readText_escaped (cs : List Char) {fuel : Nat} (hfuel : cs.length < fuel) :
    ∃ off', readText start fuel read ⟨off, cs.flatMap escapeChar ++ '"' :: rest, []⟩ =
      .ok (.ofPoints (read.reverse ++ cs.map Char.toNat), ⟨off', rest, []⟩) := by
  induction cs generalizing fuel off read with
  | nil =>
    obtain ⟨fuel, rfl⟩ := Nat.exists_eq_succ_of_ne_zero (Nat.ne_of_gt hfuel)
    refine ⟨off + 1, ?_⟩
    rw [List.map_nil, List.append_nil]
    rfl
  | cons c cs ih =>
    obtain ⟨fuel, rfl⟩ := Nat.exists_eq_succ_of_ne_zero (Nat.ne_of_gt (Nat.zero_lt_of_lt hfuel))
    have hrest : cs.flatMap escapeChar ++ '"' :: rest ≠ [] := by simp
    obtain ⟨off', hfirst⟩ := @readText_escapeChar start fuel off read _ c hrest
    obtain ⟨off'', hlast⟩ := @ih off' (c.toNat :: read) fuel (Nat.lt_of_succ_lt_succ hfuel)
    refine ⟨off'', ?_⟩
    rw [List.flatMap_cons, List.append_assoc, hfirst, hlast, List.reverse_cons, List.append_assoc]
    rfl

theorem escapeChar_ne_nil (c : Char) : escapeChar c ≠ [] := by
  have hescaped := escaped c
  generalize escapeChar c = written at hescaped ⊢
  cases hescaped <;> exact List.cons_ne_nil _ _

/-- No character is written in less than one. -/
theorem length_le_escaped (cs : List Char) : cs.length ≤ (cs.flatMap escapeChar).length := by
  induction cs with
  | nil => exact Nat.le_refl _
  | cons c cs ih =>
    have := List.length_pos_iff.2 (escapeChar_ne_nil c)
    rw [List.flatMap_cons, List.length_append, List.length_cons]
    omega

theorem ofPoints_toList (s : String) : Wording.ofPoints (s.toList.map Char.toNat) = .proper s := by
  have hnone : (s.toList.map Char.toNat).any Wording.isHalf = false := by
    refine List.any_eq_false.2 fun n hn => ?_
    obtain ⟨c, _, rfl⟩ := List.mem_map.1 hn
    have hvalid : c.toNat < 0xD800 ∨ 0xDFFF < c.toNat ∧ c.toNat < 0x110000 := c.valid
    simp only [Wording.isHalf, Bool.and_eq_true, decide_eq_true_eq]
    omega
  have hchars : (s.toList.map Char.toNat).map Char.ofNat = s.toList := by
    rw [List.map_map]
    exact (List.map_congr_left fun c _ => Char.ofNat_toNat c).trans (List.map_id _)
  rw [Wording.ofPoints, hnone, if_neg (by decide), hchars, String.ofList_toList]

theorem quote_append (s : String) (rest : List Char) :
    (quote s).toList ++ rest = '"' :: (s.toList.flatMap escapeChar ++ '"' :: rest) := by
  rw [quote, String.toList_ofList, List.append_assoc]
  rfl

/-- A text between quotes is read as that text. -/
theorem readString_quote (s : String) : ∃ off',
    readString ⟨off, (quote s).toList ++ rest, []⟩ = .ok (.proper s, ⟨off', rest, []⟩) := by
  have hwritten := quote_append s rest
  have hlength : s.toList.length < ((quote s).toList ++ rest).length + 1 := by
    have := length_le_escaped s.toList
    rw [hwritten, List.length_cons, List.length_append]
    omega
  obtain ⟨off', hread⟩ := @readText_escaped off (off + 1) [] rest s.toList _ hlength
  rw [List.reverse_nil, List.nil_append, ofPoints_toList] at hread
  rw [readString]
  dsimp only
  rw [hwritten] at hread ⊢
  exact ⟨off', hread⟩

/-! ## Texts with halves of pairs -/

theorem escapePoint_half (h : Wording.isHalf n = true) : escapePoint n = escapeUnit n := by
  rw [escapePoint, Wording.char?, if_pos h]

theorem escapePoint_char (h : Wording.isHalf n = false) : escapePoint n = escapeChar (Char.ofNat n) := by
  rw [escapePoint, Wording.char?, if_neg (Bool.eq_false_iff.1 h)]

theorem isHalf_eq (n : Nat) : Wording.isHalf n = (Bytes.isHighHalf n || Bytes.isLowHalf n) := by
  rw [Bool.eq_iff_iff]
  simp only [Wording.isHalf, Bytes.isHighHalf, Bytes.isLowHalf, Bool.or_eq_true, Bool.and_eq_true,
    decide_eq_true_eq]
  omega

theorem half_lt (h : Wording.isHalf n = true) : n < 0x10000 := by
  simp only [Wording.isHalf, Bool.and_eq_true, decide_eq_true_eq] at h
  omega

/-- No low half stands where a character was written. -/
theorem lowHalf?_escapeChar (c : Char) (hrest : rest ≠ []) : lowHalf? (escapeChar c ++ rest) = none := by
  have hvalid : c.toNat < 0xD800 ∨ 0xDFFF < c.toNat ∧ c.toNat < 0x110000 := c.valid
  have hescaped := escaped c
  generalize escapeChar c = written at hescaped ⊢
  cases hescaped with
  | named hunit he =>
    unfold lowHalf?
    split
    next heq => exact absurd (List.cons_eq_cons.1 (List.cons_eq_cons.1 heq).2).1 hunit
    next => rfl
  | plain hquote hescape hspace =>
    unfold lowHalf?
    split
    next heq => exact absurd (List.cons_eq_cons.1 heq).1 hescape
    next => rfl
  | unit h =>
    rw [lowHalf?_unit h hrest, if_neg]
    simp only [Bytes.isLowHalf, Bool.and_eq_true, decide_eq_true_eq]
    omega
  | pair h =>
    rw [List.append_assoc, lowHalf?_unit (by omega) (by simp [hrest]), if_neg]
    simp only [Bytes.isLowHalf, Bool.and_eq_true, decide_eq_true_eq]
    omega

theorem lowHalf?_escapePoint (n : Nat) (hlow : Bytes.isLowHalf n = false) (hrest : rest ≠ []) :
    lowHalf? (escapePoint n ++ rest) = none := by
  cases hhalf : Wording.isHalf n with
  | true => rw [escapePoint_half hhalf, lowHalf?_unit (half_lt hhalf) hrest, hlow, if_neg (by decide)]
  | false => rw [escapePoint_char hhalf, lowHalf?_escapeChar _ hrest]

/-- Code points are read to the closing quote; halves that have come together are read as pairs. -/
theorem readText_points : ∀ (points : List Nat) {off fuel : Nat} {read : List Nat},
    points.length < fuel → ∃ w off',
      readText start fuel read ⟨off, points.flatMap escapePoint ++ '"' :: rest, []⟩ =
        .ok (w, ⟨off', rest, []⟩)
  | [], off, fuel + 1, read, _ => ⟨_, off + 1, rfl⟩
  | n :: points, off, fuel + 1, read, hfuel => by
    have hrest : points.flatMap escapePoint ++ '"' :: rest ≠ [] := by simp
    have hless : points.length < fuel := Nat.lt_of_succ_lt_succ hfuel
    rw [List.flatMap_cons, List.append_assoc]
    cases hhalf : Wording.isHalf n with
    | false =>
      obtain ⟨off', hfirst⟩ := @readText_escapeChar start fuel off read _ (Char.ofNat n) hrest
      rw [escapePoint_char hhalf, hfirst]
      exact readText_points points hless
    | true =>
      rw [escapePoint_half hhalf]
      -- what follows a half decides whether it is the first one of a pair
      cases points with
      | nil =>
        rw [readText_unit (half_lt hhalf) (fun _ => rfl) hrest]
        exact readText_points [] hless
      | cons m points =>
        cases hpair : Bytes.isHighHalf n && Bytes.isLowHalf m with
        | true =>
          obtain ⟨hhigh, hlow⟩ := (Bool.and_eq_true _ _).mp hpair
          have hm : Wording.isHalf m = true := by rw [isHalf_eq, hlow, Bool.or_true]
          rw [List.flatMap_cons, escapePoint_half hm, List.append_assoc, ← List.append_assoc,
            readText_pair hhigh hlow (by simp)]
          exact readText_points points (Nat.lt_of_succ_lt hless)
        | false =>
          rw [readText_unit (half_lt hhalf) (fun hhigh => ?_) hrest]
          · exact readText_points (m :: points) hless
          · rw [hhigh, Bool.true_and] at hpair
            rw [List.flatMap_cons, List.append_assoc, lowHalf?_escapePoint m hpair (by simp)]

theorem quotePoints_append (points : List Nat) (rest : List Char) :
    (quotePoints points).toList ++ rest = '"' :: (points.flatMap escapePoint ++ '"' :: rest) := by
  rw [quotePoints, String.toList_ofList, List.append_assoc]
  rfl

/-- No code point is written in less than one character. -/
theorem length_le_points (points : List Nat) : points.length ≤ (points.flatMap escapePoint).length := by
  induction points with
  | nil => exact Nat.le_refl _
  | cons n points ih =>
    have hpos : 0 < (escapePoint n).length := by
      cases hhalf : Wording.isHalf n with
      | true => rw [escapePoint_half hhalf, escapeUnit_length (half_lt hhalf)]; decide
      | false => exact escapePoint_char hhalf ▸ List.length_pos_iff.2 (escapeChar_ne_nil _)
    rw [List.flatMap_cons, List.length_append, List.length_cons]
    omega

/-- A broken text between quotes is read as some text. -/
theorem readString_points (points : List Nat) : ∃ w off',
    readString ⟨off, (quotePoints points).toList ++ rest, []⟩ = .ok (w, ⟨off', rest, []⟩) := by
  have hwritten := quotePoints_append points rest
  have hlength : points.length < ((quotePoints points).toList ++ rest).length + 1 := by
    have := length_le_points points
    rw [hwritten, List.length_cons, List.length_append]
    omega
  obtain ⟨w, off', hread⟩ := @readText_points off rest points (off + 1) _ [] hlength
  rw [readString]
  dsimp only
  rw [hwritten] at hread ⊢
  exact ⟨w, off', hread⟩

/-- Digits stand for themselves in a JSON text. -/
theorem quote_digits {s : String} (h : ∀ c ∈ s.toList, c.isDigit = true) :
    quote s = "\"" ++ s ++ "\"" := by
  have hdigits : ∀ n : Fin 10, escapeChar (Char.ofNat (48 + n)) = [Char.ofNat (48 + n)] := by decide
  have hself : s.toList.flatMap escapeChar = s.toList := by
    conv => rhs; rw [← List.flatMap_singleton' s.toList]
    refine List.flatMap_congr fun c hc => ?_
    have hbounds : 48 ≤ c.toNat ∧ c.toNat ≤ 57 := Char.isDigit_iff_toNat.1 (h c hc)
    have hchar : Char.ofNat (48 + (c.toNat - 48)) = c := by
      rw [Nat.add_sub_cancel' hbounds.1, Char.ofNat_toNat]
    have hone := hdigits ⟨c.toNat - 48, by omega⟩
    rwa [hchar] at hone
  apply String.toList_injective
  rw [quote, hself]
  simp

end SchoolCatalog.Json
